import FilterSync.Text.Blank
import FilterSync.Text.Search

/-!
# Options of a filter

A filter's body is a pattern, optionally followed by `$` and options. The `$` that
opens the options is the first one without a backslash directly before it.
-/

namespace FilterSync.Filter

/-- Opens the options of a filter. -/
def optionMark : Char := '$'

/-- Keeps the `$` behind it from opening the options. -/
def escapeMark : Char := '\\'

/-- Splits a body of which the part read so far ends in a backslash or does not. -/
def splitFrom (escaped : Bool) : List Char → List Char × Option (List Char)
  | [] => ([], none)
  | c :: s =>
    if c = optionMark && !escaped then ([], some s)
    else
      let split := splitFrom (c = escapeMark) s
      (c :: split.1, split.2)

/-- The pattern of a body and, if it has an unescaped `$`, all that follows the first one. -/
def splitOptions (body : List Char) : List Char × Option (List Char) :=
  splitFrom false body

/-- The pattern and the options together hold every character of the body in order. -/
theorem splitFrom_join (escaped : Bool) (body : List Char) :
    (splitFrom escaped body).1 ++
      ((splitFrom escaped body).2.elim [] (optionMark :: ·)) = body := by
  induction body generalizing escaped with
  | nil => rfl
  | cons c s ih =>
    unfold splitFrom
    split
    · next h =>
      simp only [Bool.and_eq_true, decide_eq_true_eq] at h
      simp [h.1]
    · simpa using ih _

end FilterSync.Filter
