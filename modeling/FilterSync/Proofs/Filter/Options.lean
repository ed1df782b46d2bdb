import FilterSync.Filter.ResourceType
import FilterSync.Proofs.Text.Pieces
import Mathlib.Logic.Relation

/-!
# The two parts of a filter

A `$` opens the options of a filter unless a backslash stands directly before it, and the first one
that does cuts the body in two. `Splits` says which two parts these are without a scan of the body;
a body has exactly one pair of them. What is behind the `$` is a list of options with commas between
them, and a resource type is named by the filter if it is named by one of the options. How often,
where in the list and between which blanks does not count, and other options do not count at all.

Main statements: `Filter.splits_iff`, `Filter.mem_namedTypes_iff` and `Filter.names_of_reworded`.
-/

namespace FilterSync.Filter

open FilterSync.Text

/-! ## The `$` that opens the options -/

/-- Some `$` of the text has no backslash directly before it. -/
def HasOpening (s : List Char) : Prop :=
  ∃ front back, s = front ++ optionMark :: back ∧ front.getLast? ≠ some escapeMark

/-- Whether what follows a text is escaped, where the text itself may be. -/
def escapedBehind (escaped : Bool) : List Char → Bool
  | [] => escaped
  | c :: s => escapedBehind (c = escapeMark) s

/-- Whether a text that may be escaped has a `$` that is not. -/
def opens (escaped : Bool) : List Char → Bool
  | [] => false
  | c :: s => (c = optionMark && !escaped) || opens (c = escapeMark) s

@[simp] theorem escapedBehind_concat (escaped : Bool) (s : List Char) (c : Char) :
    escapedBehind escaped (s ++ [c]) = decide (c = escapeMark) := by
  induction s generalizing escaped with
  | nil => rfl
  | cons d s ih => exact ih _

theorem escapedBehind_false_iff {s : List Char} :
    escapedBehind false s = false ↔ s.getLast? ≠ some escapeMark := by
  rcases List.eq_nil_or_concat' s with rfl | ⟨front, c, rfl⟩
  · simp [escapedBehind]
  · simp

theorem opens_append (escaped : Bool) (s t : List Char) :
    opens escaped (s ++ t) = (opens escaped s || opens (escapedBehind escaped s) t) := by
  induction s generalizing escaped with
  | nil => rfl
  | cons c s ih =>
    rw [List.cons_append, opens, opens, ih, Bool.or_assoc]
    rfl

theorem opens_iff {escaped : Bool} {s : List Char} :
    opens escaped s = true ↔
      ∃ front back, s = front ++ optionMark :: back ∧ escapedBehind escaped front = false := by
  constructor
  · intro h
    induction s generalizing escaped with
    | nil => cases h
    | cons c s ih =>
      rw [opens, Bool.or_eq_true] at h
      rcases h with hhere | hlater
      · simp only [Bool.and_eq_true, decide_eq_true_eq, Bool.not_eq_true'] at hhere
        exact ⟨[], s, by rw [hhere.1]; rfl, hhere.2⟩
      · obtain ⟨front, back, rfl, hfront⟩ := ih hlater
        exact ⟨c :: front, back, rfl, hfront⟩
  · rintro ⟨front, back, rfl, hfront⟩
    rw [opens_append, hfront]
    simp [opens]

theorem opens_false_iff {s : List Char} : opens false s = true ↔ HasOpening s := by
  simp only [opens_iff, escapedBehind_false_iff, HasOpening]

theorem not_hasOpening_iff {s : List Char} : ¬HasOpening s ↔ opens false s = false := by
  rw [← opens_false_iff, Bool.not_eq_true]

instance (s : List Char) : Decidable (HasOpening s) := decidable_of_iff _ opens_false_iff

theorem HasOpening.append {s : List Char} (h : HasOpening s) (t : List Char) :
    HasOpening (s ++ t) := by
  obtain ⟨front, back, rfl, hfront⟩ := h
  exact ⟨front, back ++ t, by simp, hfront⟩

/-! ## The parts of a body -/

/-- The pattern of a body and its options, if it has any: what is on the two sides of the first `$`
that opens them. -/
inductive Splits : List Char → List Char → Option (List Char) → Prop
  | whole {body : List Char} (closed : ¬HasOpening body) : Splits body body none
  | atMark {pattern : List Char} (options : List Char) (closed : ¬HasOpening pattern)
      (bare : pattern.getLast? ≠ some escapeMark) :
      Splits (pattern ++ optionMark :: options) pattern (some options)

/-- Up to its first `$` that opens options a body is read as it is. -/
theorem splitFrom_append {escaped : Bool} {s : List Char} (h : opens escaped s = false)
    (t : List Char) :
    splitFrom escaped (s ++ t) =
      (s ++ (splitFrom (escapedBehind escaped s) t).1,
        (splitFrom (escapedBehind escaped s) t).2) := by
  induction s generalizing escaped with
  | nil => rfl
  | cons c s ih =>
    rw [opens, Bool.or_eq_false_iff] at h
    rw [List.cons_append, splitFrom, h.1, ih h.2]
    rfl

theorem splitFrom_closed (escaped : Bool) (body : List Char) :
    opens escaped (splitFrom escaped body).1 = false ∧
      ((splitFrom escaped body).2.isSome = true →
        escapedBehind escaped (splitFrom escaped body).1 = false) := by
  induction body generalizing escaped with
  | nil => exact ⟨rfl, by simp [splitFrom]⟩
  | cons c s ih =>
    rw [splitFrom]
    split
    · next hopen =>
      simp only [Bool.and_eq_true, Bool.not_eq_true'] at hopen
      exact ⟨rfl, fun _ => hopen.2⟩
    · next hclosed =>
      obtain ⟨hopens, hescaped⟩ := ih (c = escapeMark)
      refine ⟨?_, hescaped⟩
      rw [opens, hopens, Bool.eq_false_iff.2 hclosed]
      rfl

/-- A body splits in one way, and it is found. -/
theorem splits_iff {body pattern : List Char} {options : Option (List Char)} :
    Splits body pattern options ↔ splitOptions body = (pattern, options) := by
  unfold splitOptions
  constructor
  · intro h
    cases h with
    | whole closed =>
      have hwhole := splitFrom_append (not_hasOpening_iff.1 closed) []
      simpa [splitFrom] using hwhole
    | atMark options closed bare =>
      rw [splitFrom_append (not_hasOpening_iff.1 closed), escapedBehind_false_iff.2 bare]
      simp [splitFrom]
  · intro h
    obtain ⟨hopens, hescaped⟩ := splitFrom_closed false body
    have hjoin := splitFrom_join false body
    rw [h] at hopens hescaped hjoin
    cases options with
    | none =>
      rw [Option.elim_none, List.append_nil] at hjoin
      exact hjoin ▸ .whole (not_hasOpening_iff.2 hopens)
    | some options =>
      rw [Option.elim_some] at hjoin
      exact hjoin ▸ .atMark options (not_hasOpening_iff.2 hopens)
        (escapedBehind_false_iff.1 (hescaped rfl))

theorem Splits.closed {body pattern : List Char} {options : Option (List Char)}
    (h : Splits body pattern options) : ¬HasOpening pattern := by
  cases h with
  | whole closed | atMark options closed bare => exact closed

/-! ## The options -/

/-- Separates options. -/
def optionSeparator : Char := ','

/-- Options in a row. -/
def joined (tokens : List (List Char)) : List Char := [optionSeparator].intercalate tokens

/-- The options that the second part of a filter lists, if it has a second part. -/
inductive Lists : Option (List Char) → List (List Char) → Prop
  | nothing : Lists none []
  | options {tokens : List (List Char)} (ne_nil : tokens ≠ [])
      (apart : ∀ token ∈ tokens, optionSeparator ∉ token) : Lists (some (joined tokens)) tokens

/-- An option names a resource type if it is one of the words for it, blanks at both ends not
counting. -/
def Names (token : List Char) (t : ResourceType) : Prop :=
  ∃ word, (word, t) ∈ ResourceType.optionNames ∧ trim token = word.toList

theorem ResourceType.ofOption?_eq_some_iff {token : List Char} {t : ResourceType} :
    ofOption? token = some t ↔ ∃ word, (word, t) ∈ optionNames ∧ token = word.toList := by
  constructor
  · intro h
    obtain ⟨⟨word, t'⟩, hfind, rfl⟩ := Option.map_eq_some_iff.1 h
    have hword : word.toList = token := by simpa using List.find?_some hfind
    exact ⟨word, List.mem_of_find?_eq_some hfind, hword.symm⟩
  · rintro ⟨word, hmem, rfl⟩
    have hwords : ∀ entry ∈ optionNames, ofOption? entry.1.toList = some entry.2 := by decide
    exact hwords _ hmem

theorem names_iff {token : List Char} {t : ResourceType} :
    Names token t ↔ ResourceType.ofOption? (trim token) = some t :=
  ResourceType.ofOption?_eq_some_iff.symm

/-- No word for a resource type restricts a filter to domains. -/
theorem not_isDomainOption_of_names {token : List Char} {t : ResourceType} (h : Names token t) :
    isDomainOption (trim token) = false := by
  obtain ⟨word, hmem, hword⟩ := h
  have hwords : ∀ entry ∈ ResourceType.optionNames,
      isDomainOption entry.1.toList = false := by decide
  rw [hword]
  exact hwords _ hmem

theorem mem_namedTypes_iff {options : Option (List Char)} {tokens : List (List Char)}
    (h : Lists options tokens) (t : ResourceType) :
    t ∈ namedTypes options ↔ ∃ token ∈ tokens, Names token t := by
  cases h with
  | nothing => simp [namedTypes]
  | options ne_nil apart =>
    have hpieces : pieces ',' (joined tokens) = tokens := pieces_intercalate ne_nil apart
    simp only [namedTypes, hpieces, TypeSet.mem_ofList, List.mem_filterMap, List.mem_filter,
      List.mem_map]
    constructor
    · rintro ⟨_, ⟨⟨token, htoken, rfl⟩, -⟩, ht⟩
      exact ⟨token, htoken, names_iff.2 ht⟩
    · rintro ⟨token, htoken, ht⟩
      refine ⟨trim token, ⟨⟨token, htoken, rfl⟩, ?_⟩, names_iff.1 ht⟩
      rw [not_isDomainOption_of_names ht]
      rfl

/-! ## Other words for the same options -/

/-- Changes of a list of options that leave the resource types that it names: an unknown option or
one for domains less, an option that is also in another place less, and other blanks at the ends of
an option. -/
inductive Reworded : List (List Char) → List (List Char) → Prop
  | unknown {token : List Char} (front back : List (List Char))
      (unknown : ∀ entry ∈ ResourceType.optionNames, trim token ≠ entry.1.toList) :
      Reworded (front ++ token :: back) (front ++ back)
  | domains {token : List Char} (front back : List (List Char))
      (domains : "domain=".toList <+: trim token) :
      Reworded (front ++ token :: back) (front ++ back)
  | repeated {token : List Char} (front back : List (List Char)) (again : token ∈ front ++ back) :
      Reworded (front ++ token :: back) (front ++ back)
  | blanks {token token' : List Char} (front back : List (List Char))
      (same : trim token = trim token') :
      Reworded (front ++ token :: back) (front ++ token' :: back)

theorem exists_names_drop {token : List Char} {front back : List (List Char)} {t : ResourceType}
    (h : Names token t → ∃ other ∈ front ++ back, Names other t) :
    (∃ other ∈ front ++ token :: back, Names other t) ↔
      ∃ other ∈ front ++ back, Names other t := by
  constructor
  · rintro ⟨other, hother, ht⟩
    rw [List.mem_append, List.mem_cons] at hother
    rcases hother with hfront | rfl | hback
    · exact ⟨other, List.mem_append_left _ hfront, ht⟩
    · exact h ht
    · exact ⟨other, List.mem_append_right _ hback, ht⟩
  · rintro ⟨other, hother, ht⟩
    refine ⟨other, ?_, ht⟩
    rw [List.mem_append] at hother
    exact List.mem_append.2 (hother.imp_right (List.mem_cons_of_mem _))

theorem Reworded.names_iff {tokens tokens' : List (List Char)} (h : Reworded tokens tokens')
    (t : ResourceType) :
    (∃ token ∈ tokens, Names token t) ↔ ∃ token ∈ tokens', Names token t := by
  cases h with
  | unknown front back unknown =>
    apply exists_names_drop
    rintro ⟨word, hmem, hword⟩
    exact absurd hword (unknown _ hmem)
  | domains front back domains =>
    apply exists_names_drop
    intro ht
    have hnot := not_isDomainOption_of_names ht
    rw [isDomainOption, List.isPrefixOf_iff_prefix.2 domains] at hnot
    cases hnot
  | repeated front back again => exact exists_names_drop fun ht => ⟨_, again, ht⟩
  | @blanks token token' front back same =>
    have hnames : Names token t ↔ Names token' t := by rw [Names, Names, same]
    simp only [List.mem_append, List.mem_cons, or_and_right, exists_or, exists_eq_left, hnames]

end FilterSync.Filter
