import FilterSync.Text.Search
import Mathlib.Data.List.Infix

/-!
# Pieces and markers

Cutting a text at a separator and putting pieces together with it undo each other. A marker in a
text that was put together either lies in one piece or reaches across a separator, and then the
separator is one of its characters.

Main statements: `Text.pieces_intercalate`, `Text.infix_append_cons_iff` and
`Text.infix_intercalate_iff`.
-/

namespace FilterSync.Text

variable {separator : Char} {s t marker : List Char} {ps : List (List Char)}

/-! ## Pieces -/

theorem pieces_eq_splitOn (separator : Char) (s : List Char) :
    pieces separator s = s.splitOn separator := by
  induction s with
  | nil => rw [List.splitOn_nil, pieces]
  | cons c s ih =>
    rw [List.splitOn_cons_eq_if_modifyHead, ← ih, pieces]
    by_cases h : c = separator
    · simp [h]
    · obtain ⟨p, ps, hps⟩ := List.exists_cons_of_ne_nil (pieces_ne_nil separator s)
      simp [h, hps]

theorem pieces_of_not_mem (h : separator ∉ s) : pieces separator s = [s] := by
  rw [pieces_eq_splitOn, List.splitOn_eq_singleton h]

/-- A separator keeps the pieces on its sides apart. -/
theorem pieces_append (separator : Char) (s t : List Char) :
    pieces separator (s ++ separator :: t) = pieces separator s ++ pieces separator t := by
  rw [pieces_eq_splitOn, pieces_eq_splitOn, pieces_eq_splitOn, List.splitOn_append_cons_self]

theorem pieces_intercalate (hne : ps ≠ []) (h : ∀ p ∈ ps, separator ∉ p) :
    pieces separator ([separator].intercalate ps) = ps := by
  rw [pieces_eq_splitOn, List.splitOn_intercalate separator h hne]

/-- A marker is on one side of a character, or the character is in it. -/
theorem infix_append_cons_iff {x : Char} :
    marker <:+: s ++ x :: t ↔
      marker <:+: s ∨ marker <:+: t ∨ ∃ a b, marker = a ++ x :: b ∧ a <:+ s ∧ b <+: t := by
  constructor
  · intro h
    rcases List.infix_append_iff.1 h with hs | ht | ⟨a, b, rfl, ha, hb⟩
    · exact Or.inl hs
    · rcases List.infix_cons_iff.1 ht with hfront | hback
      · rcases List.prefix_cons_iff.1 hfront with rfl | ⟨b, rfl, hb⟩
        · exact Or.inl (List.nil_infix)
        · exact Or.inr (Or.inr ⟨[], b, rfl, List.nil_suffix, hb⟩)
      · exact Or.inr (Or.inl hback)
    · rcases List.prefix_cons_iff.1 hb with rfl | ⟨b, rfl, hback⟩
      · rw [List.append_nil]
        exact Or.inl ha.isInfix
      · exact Or.inr (Or.inr ⟨a, b, rfl, ha, hback⟩)
  · rintro (⟨u, v, rfl⟩ | ⟨u, v, rfl⟩ | ⟨a, b, rfl, ⟨u, rfl⟩, ⟨v, rfl⟩⟩)
    · exact ⟨u, v ++ x :: t, by simp⟩
    · exact ⟨s ++ x :: u, v, by simp⟩
    · exact ⟨u, v, by simp⟩

theorem infix_append_cons_iff_of_not_mem {x : Char} (h : x ∉ marker) :
    marker <:+: s ++ x :: t ↔ marker <:+: s ∨ marker <:+: t := by
  rw [infix_append_cons_iff]
  constructor
  · rintro (hs | ht | ⟨a, b, rfl, -, -⟩)
    · exact Or.inl hs
    · exact Or.inr ht
    · exact absurd (by simp) h
  · rintro (hs | ht)
    · exact Or.inl hs
    · exact Or.inr (Or.inl ht)

/-- A marker without the separator is in a text iff it is in one of the pieces. -/
theorem infix_intercalate_iff (hne : marker ≠ []) (h : separator ∉ marker) :
    marker <:+: [separator].intercalate ps ↔ ∃ p ∈ ps, marker <:+: p := by
  induction ps with
  | nil => simp [hne]
  | cons p ps ih =>
    cases ps with
    | nil => simp
    | cons q ps =>
      rw [List.intercalate_cons_cons, List.append_assoc, List.singleton_append,
        infix_append_cons_iff_of_not_mem h, ih]
      simp

/-- A text without the separator begins the pieces iff it begins the first of them. -/
theorem prefix_intercalate_cons_iff {p : List Char} (h : separator ∉ s) :
    s <+: [separator].intercalate (p :: ps) ↔ s <+: p := by
  cases ps with
  | nil => rw [List.intercalate_singleton]
  | cons q ps =>
    rw [List.intercalate_cons_cons, List.append_assoc, List.singleton_append]
    constructor
    · rintro ⟨rest, hrest⟩
      rcases List.append_eq_append_iff.1 hrest with ⟨u, rfl, -⟩ | ⟨u, rfl, hu⟩
      · exact List.prefix_append s u
      · cases u with
        | nil =>
          rw [List.append_nil]
        | cons c u =>
          rw [List.cons_append, List.cons.injEq] at hu
          rw [← hu.1] at h
          exact absurd (by simp) h
    · rintro ⟨u, rfl⟩
      rw [List.append_assoc]
      exact List.prefix_append s _

end FilterSync.Text
