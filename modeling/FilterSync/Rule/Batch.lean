import FilterSync.Filter.Line
import FilterSync.Rule.Cursor
import FilterSync.Text.Lines

/-!
# Rules of one list

The filters of a list are compiled line by line with a cursor that other lists share.
Identifiers follow the order of the lines; the result has the allowing rules in front
of the blocking ones. No more lines are read once the list has taken more identifiers
than a ceiling.
-/

namespace FilterSync

open FilterSync.Filter

/-- The rules of a list, and the cursor behind them. -/
structure Batch where
  rules : List Rule
  cursor : IdCursor
  deriving DecidableEq, Repr

namespace Batch

/-- Compiles lines in order from a cursor, where the list began at identifier `start`. -/
def ofLines (start : UInt32) (ceiling : Nat) : List Line → IdCursor → Batch
  | [], c => ⟨[], c⟩
  | line :: rest, c =>
    match line.filter? with
    | none => ofLines start ceiling rest c
    | some (body, isAllow) =>
      match c.compile body isAllow with
      | (none, c) => ofLines start ceiling rest c
      | (some rule, c) =>
        if ceiling < c.next.toNat - start.toNat then ⟨[rule], c⟩
        else
          let batch := ofLines start ceiling rest c
          ⟨rule :: batch.rules, batch.cursor⟩

/-- Puts the allowing rules in front of the blocking ones. -/
def allowFirst (rules : List Rule) : List Rule :=
  rules.filter (·.isAllow) ++ rules.filter (!·.isAllow)

/-- Compiles the text of a list. -/
def ofText (c : IdCursor) (ceiling : Nat) (text : List Char) : Batch :=
  let batch := ofLines c.next ceiling ((Text.lines text).map Line.read) c
  ⟨allowFirst batch.rules, batch.cursor⟩

theorem allowFirst_perm (rules : List Rule) : (allowFirst rules).Perm rules :=
  List.filter_append_perm _ rules

@[simp] theorem length_allowFirst (rules : List Rule) :
    (allowFirst rules).length = rules.length :=
  (allowFirst_perm rules).length_eq

end Batch

end FilterSync
