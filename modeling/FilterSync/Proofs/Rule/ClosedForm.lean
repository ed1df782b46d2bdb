import FilterSync.Proofs.Pass.Exhaustive
import FilterSync.Proofs.Text.Pieces
import Mathlib.Algebra.Group.Nat.Defs

/-!
# The rules of a list in closed form

Compiling a list is a loop: it passes a cursor along, leaves out what is no filter or has no match
pattern, and stops early for two reasons. What comes out can be said without a loop. Each line of a
text that has one gives a template, which is a rule but for its identifier; the list takes as many
of the templates as there is room for, numbers them in order, and puts the allowing rules in front.

Lines without a template have no part in this, so that a text may be changed by such lines at any
place.

Main statements: `Batch.ofFilters_eq` and `Batch.ofText_closed`.
-/

namespace FilterSync

open FilterSync.Filter

/-! ## Blanks and line ends -/

namespace Text

theorem trimStart_append_blank {c : Char} (h : isBlank c = true) (s : List Char) :
    (trimStart (s ++ [c]) = [] ∧ trimStart s = []) ∨
      trimStart (s ++ [c]) = trimStart s ++ [c] := by
  induction s with
  | nil =>
    left
    simp [trimStart_cons, h]
  | cons d s ih =>
    rw [List.cons_append, trimStart_cons, trimStart_cons]
    split
    · exact ih
    · exact Or.inr rfl

/-- A blank at the end of a text goes. -/
theorem trim_concat_blank {c : Char} (h : isBlank c = true) (s : List Char) :
    trim (s ++ [c]) = trim s := by
  unfold trim
  rcases trimStart_append_blank h s with ⟨hnone, hnone'⟩ | hsome
  · rw [hnone, hnone']
  · rw [hsome, trimEnd_concat, if_pos h]

/-- A carriage return that a line feed takes away is blank. -/
theorem trim_dropReturn (line : List Char) :
    trim (dropReturn '\r' line).reverse = trim line.reverse := by
  cases line with
  | nil => rfl
  | cons c line =>
    rw [dropReturn]
    split
    · next hreturn => rw [List.reverse_cons, hreturn, trim_concat_blank (by decide)]
    · rfl

/-- Where blanks at the ends of a line and empty lines do not matter, the lines of a text are its
pieces between line feeds. -/
theorem filterMap_cutLines {β : Type} {f : List Char → Option β} (hnil : f [] = none)
    (htrim : ∀ s t, trim s = trim t → f s = f t) {line : List Char} (h : '\n' ∉ line)
    (text : List Char) :
    (cutLines '\n' '\r' line text).filterMap f =
      (pieces '\n' (line.reverse ++ text)).filterMap f := by
  induction text generalizing line with
  | nil =>
    rw [List.append_nil, pieces_of_not_mem (by simpa using h), cutLines]
    split
    · next hempty =>
      rw [List.isEmpty_iff.1 hempty]
      simp [hnil]
    · rfl
  | cons c text ih =>
    unfold cutLines
    split
    · next hfeed =>
      rw [hfeed, pieces_append, pieces_of_not_mem (by simpa using h), List.singleton_append,
        List.filterMap_cons, List.filterMap_cons, htrim _ _ (trim_dropReturn line),
        ih List.not_mem_nil]
      rfl
    · next hother =>
      have hline : '\n' ∉ c :: line := by simp [h, Ne.symm hother]
      rw [ih hline, List.reverse_cons, List.append_assoc]
      rfl

theorem filterMap_lines {β : Type} {f : List Char → Option β} (hnil : f [] = none)
    (htrim : ∀ s t, trim s = trim t → f s = f t) (text : List Char) :
    (lines text).filterMap f = (pieces '\n' text).filterMap f :=
  filterMap_cutLines hnil htrim List.not_mem_nil text

end Text

/-! ## Templates -/

/-- A rule but for its identifier. -/
structure Template where
  action : Action
  priority : UInt32
  urlFilter : String
  resourceTypes : Option TypeSet
  deriving DecidableEq, Repr

namespace Template

def rule (t : Template) (id : UInt32) : Rule where
  id := id
  priority := t.priority
  action := t.action
  urlFilter := t.urlFilter
  resourceTypes := t.resourceTypes

/-- The types that the options of a body name, if they name any. -/
def typesOf (body : List Char) : Option TypeSet :=
  let types := namedTypes (splitOptions body).2
  if types.isEmpty then none else some types

/-- What the body of a filter says, if it has a match pattern. -/
def ofBody? (body : List Char) (isAllow : Bool) : Option Template :=
  (matchPattern? body).map fun p =>
    ⟨.ofAllow isAllow, (Action.ofAllow isAllow).priority, .ofList p, typesOf body⟩

/-- What a line says. A remark has no template, nor has a filter without a match pattern. -/
def ofLine? : Line → Option Template
  | .skip => none
  | .allow body => (matchPattern? body).map fun p => ⟨.allow, 2, .ofList p, typesOf body⟩
  | .block body => (matchPattern? body).map fun p => ⟨.block, 1, .ofList p, typesOf body⟩

/-- The templates of a text, line by line. What ends a line with the line feed, be it a carriage
return, is blank like other blanks at the ends of the line. -/
def ofText (text : List Char) : List Template :=
  (Text.pieces '\n' text).filterMap fun line => ofLine? (Line.read line)

/-- Numbers templates from an identifier on. -/
def number (start : UInt32) (ts : List Template) : List Rule :=
  ts.mapIdx fun i t => t.rule (UInt32.ofNat (start.toNat + i))

theorem number_cons {start : UInt32} (h : (start + 1).toNat = start.toNat + 1) (t : Template)
    (ts : List Template) : number start (t :: ts) = t.rule start :: number (start + 1) ts := by
  unfold number
  rw [List.mapIdx_cons, h, Nat.add_zero, UInt32.ofNat_toNat]
  congr 2
  funext i t
  rw [Nat.add_right_comm, Nat.add_assoc]

theorem ofText_append (text more : List Char) :
    ofText (text ++ '\n' :: more) = ofText text ++ ofText more := by
  unfold ofText
  rw [Text.pieces_append, List.filterMap_append]

theorem ofText_eq_lines (text : List Char) :
    ofText text = ((Text.lines text).map Line.read).filterMap ofLine? := by
  rw [List.filterMap_map]
  refine (Text.filterMap_lines rfl ?_ text).symm
  intro s t h
  simp only [Line.read, h]

/-- A filter makes the rule of its template. -/
theorem compile?_eq (body : List Char) (isAllow : Bool) (id : UInt32) :
    Rule.compile? body isAllow id = (ofBody? body isAllow).map (·.rule id) := by
  simp only [Rule.compile?, ofBody?, Option.map_map]
  rfl

theorem ofLine?_of_filter? {line : Line} {body : List Char} {isAllow : Bool}
    (h : line.filter? = some (body, isAllow)) : ofLine? line = ofBody? body isAllow := by
  cases line with
  | skip => cases h
  | allow | block =>
    cases h
    rfl

theorem isSome_ofLine? (line : Line) : (ofLine? line).isSome = line.compiles := by
  cases line <;> simp [ofLine?, Line.compiles, Line.filter?]

/-- Cutting a text after some lines that compile is cutting its templates. -/
theorem filterMap_cutAfter (n : Nat) (lines : List Line) :
    (Line.cutAfter n lines).filterMap ofLine? = (lines.filterMap ofLine?).take n := by
  induction lines generalizing n with
  | nil =>
    rw [Line.cutAfter_nil]
    simp
  | cons line rest ih =>
    cases n with
    | zero => rw [Line.cutAfter_zero, List.take_zero, List.filterMap_nil]
    | succ n =>
      rw [Line.cutAfter, List.filterMap_cons, List.filterMap_cons, ← isSome_ofLine?, ih]
      cases ofLine? line <;> rfl

end Template

/-! ## A list -/

namespace IdCursor

theorem isSpent_iff {c : IdCursor} : c.isSpent = true ↔ c.next.toNat = 2 ^ 32 - 1 := by
  unfold isSpent
  rw [decide_eq_true_eq, ← UInt32.toNat_inj]
  rfl

theorem next_lt_of_not_isSpent {c : IdCursor} (h : c.isSpent = false) :
    c.next.toNat < 2 ^ 32 - 1 := by
  have hne : c.next.toNat ≠ 2 ^ 32 - 1 := by
    intro heq
    rw [isSpent_iff.2 heq] at h
    cases h
  have hlt := c.next.toNat_lt
  omega

/-- A filter with a template takes the next identifier. -/
theorem compile_of_template {c : IdCursor} {body : List Char} {isAllow : Bool} {t : Template}
    (hroom : c.isSpent = false) (h : Template.ofBody? body isAllow = some t) :
    c.compile body isAllow = (some (t.rule c.next), ⟨c.next + 1⟩) ∧
      (c.next + 1).toNat = c.next.toNat + 1 := by
  obtain ⟨pattern, hpattern, -⟩ := Option.map_eq_some_iff.1 h
  obtain ⟨rule, hrule, hnext⟩ :=
    compile_of_pattern hroom (Option.isSome_iff_exists.2 ⟨pattern, hpattern⟩) isAllow
  have hmade : Rule.compile? body isAllow c.next = some (t.rule c.next) := by
    rw [Template.compile?_eq, h]
    rfl
  refine ⟨?_, hnext⟩
  unfold compile issue
  rw [hroom, hmade]
  rfl

end IdCursor

namespace Batch

/-- Filters take identifiers in order, each that has a template one, as long as there are any. -/
theorem ofFilters_eq {c : IdCursor} {lines : List Line} {n : Nat}
    (hn : min (lines.filterMap Template.ofLine?).length (2 ^ 32 - 1 - c.next.toNat) = n) :
    (ofFilters c (lines.filterMap Line.filter?)).rules =
        Template.number c.next ((lines.filterMap Template.ofLine?).take n) ∧
      (ofFilters c (lines.filterMap Line.filter?)).cursor.next.toNat = c.next.toNat + n := by
  induction lines generalizing c n with
  | nil =>
    rw [← hn]
    exact ⟨rfl, by simp [ofFilters]⟩
  | cons line rest ih =>
    cases hline : Template.ofLine? line with
    | none =>
      have hcompiles : line.compiles = false := by
        rw [← Template.isSome_ofLine?, hline]
        rfl
      rw [List.filterMap_cons_none hline] at hn ⊢
      rw [ofFilters_cons_of_not_compiles hcompiles]
      exact ih hn
    | some t =>
      rw [List.filterMap_cons_some hline] at hn ⊢
      rw [List.length_cons] at hn
      cases hspent : c.isSpent with
      | true =>
        have hlast := IdCursor.isSpent_iff.1 hspent
        obtain rfl : n = 0 := by omega
        rw [ofFilters_of_isSpent hspent]
        exact ⟨rfl, rfl⟩
      | false =>
        have hroom := IdCursor.next_lt_of_not_isSpent hspent
        obtain ⟨⟨body, isAllow⟩, hfilter⟩ : ∃ f, line.filter? = some f := by
          cases line with
          | skip => cases hline
          | allow body => exact ⟨_, rfl⟩
          | block body => exact ⟨_, rfl⟩
        rw [Template.ofLine?_of_filter? hfilter] at hline
        obtain ⟨hcompile, hnext⟩ := IdCursor.compile_of_template hspent hline
        -- one template is taken here, and behind it there is room for one less
        obtain ⟨m, rfl⟩ : ∃ m, n = m + 1 := ⟨n - 1, by omega⟩
        have hm : min (rest.filterMap Template.ofLine?).length
            (2 ^ 32 - 1 - (c.next + 1).toNat) = m := by omega
        obtain ⟨hrules, hcursor⟩ := ih (c := ⟨c.next + 1⟩) hm
        rw [List.filterMap_cons_some hfilter, ofFilters, hcompile, List.take_succ_cons,
          Template.number_cons hnext]
        refine ⟨?_, ?_⟩
        · rw [← hrules]
          rfl
        · show (ofFilters ⟨c.next + 1⟩ _).cursor.next.toNat = _
          rw [hcursor, hnext]
          omega

/-- How many of the templates of a text a list takes from a cursor. -/
def taken (c : IdCursor) (ceiling : Nat) (text : List Char) : Nat :=
  min (Template.ofText text).length (min (ceiling + 1) (2 ^ 32 - 1 - c.next.toNat))

theorem ofText_eq_number (c : IdCursor) (ceiling : Nat) (text : List Char) :
    (ofText c ceiling text).rules = allowFirst
        (Template.number c.next ((Template.ofText text).take (taken c ceiling text))) ∧
      (ofText c ceiling text).cursor.next.toNat = c.next.toNat + taken c ceiling text := by
  have hcut : (Line.cutAfter (ceiling + 1) ((Text.lines text).map Line.read)).filterMap
      Template.ofLine? = (Template.ofText text).take (ceiling + 1) := by
    rw [Template.filterMap_cutAfter, Template.ofText_eq_lines]
  obtain ⟨n, hn⟩ : ∃ n, taken c ceiling text = n := ⟨_, rfl⟩
  have hmin : min ((Line.cutAfter (ceiling + 1) ((Text.lines text).map Line.read)).filterMap
      Template.ofLine?).length (2 ^ 32 - 1 - c.next.toNat) = n := by
    rw [hcut, List.length_take, ← hn, taken]
    omega
  obtain ⟨hrules, hcursor⟩ := ofFilters_eq hmin
  have hle : n ≤ ceiling + 1 := by
    rw [taken] at hn
    omega
  rw [hcut, List.take_take, Nat.min_eq_left hle] at hrules
  rw [ofText_eq_ofWholeText, hn]
  exact ⟨congrArg allowFirst hrules, hcursor⟩

/-- Of a text a list depends on the templates alone. -/
theorem ofText_congr {text text' : List Char} (h : Template.ofText text = Template.ofText text')
    (c : IdCursor) (ceiling : Nat) : ofText c ceiling text = ofText c ceiling text' := by
  have htaken : taken c ceiling text = taken c ceiling text' := by rw [taken, taken, h]
  obtain ⟨hrules, hcursor⟩ := ofText_eq_number c ceiling text
  obtain ⟨hrules', hcursor'⟩ := ofText_eq_number c ceiling text'
  rw [h, htaken, ← hrules'] at hrules
  rw [htaken, ← hcursor', UInt32.toNat_inj] at hcursor
  cases hbatch : ofText c ceiling text with
  | mk rules cursor =>
    rw [hbatch] at hrules hcursor
    cases hrules
    cases cursor
    cases hcursor
    rfl

theorem allowFirst_eq (rules : List Rule) :
    allowFirst rules = rules.filter (·.action = .allow) ++ rules.filter (·.action = .block) := by
  have hblock : ∀ r : Rule, (!r.isAllow) = decide (r.action = .block) := by
    intro r
    unfold Rule.isAllow
    cases r.action <;> rfl
  unfold allowFirst
  simp only [hblock]
  rfl

/-- A list takes the templates of its text in order as far as its ceiling and the identifiers
go, numbers them, and puts the allowing rules in front. Text without a template makes no
difference wherever it stands. -/
theorem ofText_closed (c : IdCursor) (ceiling : Nat) (text : List Char) :
    let found := Template.ofText text
    let n := min found.length (min (ceiling + 1) (2 ^ 32 - 1 - c.next.toNat))
    let numbered := (found.take n).mapIdx fun i t => t.rule (UInt32.ofNat (c.next.toNat + i))
    (ofText c ceiling text).rules =
        numbered.filter (·.action = .allow) ++ numbered.filter (·.action = .block) ∧
      (ofText c ceiling text).cursor.next.toNat = c.next.toNat + n ∧
      ∀ idle, Template.ofText idle = [] →
        ofText c ceiling (idle ++ '\n' :: text) = ofText c ceiling text ∧
          ofText c ceiling (text ++ '\n' :: idle) = ofText c ceiling text ∧
          ∀ more, ofText c ceiling (text ++ '\n' :: (idle ++ '\n' :: more)) =
            ofText c ceiling (text ++ '\n' :: more) := by
  obtain ⟨hrules, hcursor⟩ := ofText_eq_number c ceiling text
  rw [allowFirst_eq] at hrules
  refine ⟨hrules, hcursor, ?_⟩
  intro idle hidle
  refine ⟨ofText_congr ?_ c ceiling, ofText_congr ?_ c ceiling, ?_⟩
  · rw [Template.ofText_append, hidle, List.nil_append]
  · rw [Template.ofText_append, hidle, List.append_nil]
  · intro more
    apply ofText_congr
    rw [Template.ofText_append, Template.ofText_append, Template.ofText_append, hidle,
      List.nil_append]

/-- Two identifiers are left for three filters, an exception among them. -/
theorem ofText_closed_twoLeft :
    Template.ofText "! note\r\n\nexample.com##.ad".toList = [] ∧
      ((ofText ⟨4294967293⟩ 9 "||a^$image\r\n@@b/c\n||d".toList).rules.map fun r =>
        (r.id, r.priority, r.urlFilter)) = [(4294967294, 2, "b/c"), (4294967293, 1, "||a")] ∧
      ofText ⟨4294967293⟩ 9
          ("||a^$image\r\n@@b/c\n||d".toList ++
            '\n' :: "! note\r\n\nexample.com##.ad".toList) =
        ofText ⟨4294967293⟩ 9 "||a^$image\r\n@@b/c\n||d".toList := by
  have hidle : Template.ofText "! note\r\n\nexample.com##.ad".toList = [] := by decide +kernel
  obtain ⟨hrules, -, hanywhere⟩ := ofText_closed ⟨4294967293⟩ 9 "||a^$image\r\n@@b/c\n||d".toList
  refine ⟨hidle, ?_, (hanywhere _ hidle).2.1⟩
  rw [hrules]
  decide +kernel

end Batch

end FilterSync
