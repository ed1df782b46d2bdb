import FilterSync.Json.Decode
import FilterSync.Proofs.Json.RoundTrip
import Mathlib.Logic.Relation

/-!
# Documents that say the same

The members of an object may come in any order, those that say no more than a default may be
left out, and others that are no fields may be put in. `Rephrase` is one such change, at any
depth: a `Shape` says which fields the objects of a document have and what has a default.

A decoder keeps what it reads under every change if it looks its fields up by name, and if the
decoders of the fields do. What can be held stays so, if all that is put in can be.

Main statements: `fields?_rephrase`, `Keeps.array` and `Keeps.rephrases`.
-/

namespace FilterSync.Json

/-! ## Shapes and changes -/

/-- What a document is made of: of an object the fields with their shapes, and the members that
say no more than a default. -/
inductive Shape
  | plain
  | array (item : Shape)
  | object (fields : List (String × Shape)) (defaults : List (String × Json))

/-- One change of a document that leaves what it says; `extra` tells which values may be put in. -/
inductive Rephrase (extra : Json → Bool) : Shape → Json → Json → Prop
  | reorder {fields : List (String × Shape)} {defaults ms ms' : List (String × Json)}
      (h : ms.Perm ms') : Rephrase extra (.object fields defaults) (.object ms) (.object ms')
  | leaveOut {fields : List (String × Shape)} {defaults : List (String × Json)}
      {m : String × Json} (before after : List (String × Json)) (h : m ∈ defaults) :
      Rephrase extra (.object fields defaults) (.object (before ++ m :: after))
        (.object (before ++ after))
  | putIn {fields : List (String × Shape)} {defaults : List (String × Json)} (name : String)
      (j : Json) (before after : List (String × Json)) (unknown : name ∉ fields.map (·.1))
      (h : extra j = true) :
      Rephrase extra (.object fields defaults) (.object (before ++ after))
        (.object (before ++ (name, j) :: after))
  | member {fields : List (String × Shape)} {defaults : List (String × Json)} {name : String}
      {shape : Shape} {j j' : Json} (before after : List (String × Json))
      (h : (name, shape) ∈ fields) (step : Rephrase extra shape j j') :
      Rephrase extra (.object fields defaults) (.object (before ++ (name, j) :: after))
        (.object (before ++ (name, j') :: after))
  | item {shape : Shape} {j j' : Json} (before after : List Json)
      (step : Rephrase extra shape j j') :
      Rephrase extra (.array shape) (.array (before ++ j :: after))
        (.array (before ++ j' :: after))

/-- Any number of changes, one after the other. -/
def Rephrases (extra : Json → Bool) (shape : Shape) : Json → Json → Prop :=
  Relation.ReflTransGen (Rephrase extra shape)

/-- A decoder that reads the same after a change. -/
def Keeps (extra : Json → Bool) (shape : Shape) {α : Type} (decode : Json → Option α) : Prop :=
  ∀ j j' a, Rephrase extra shape j j' → decode j = some a → decode j' = some a

variable {extra : Json → Bool} {shape : Shape} {α : Type} {decode : Json → Option α}

theorem Keeps.plain (decode : Json → Option α) : Keeps extra .plain decode := by
  intro j j' a step
  cases step

theorem Keeps.rephrases (h : Keeps extra shape decode) {j j' : Json} {a : α}
    (hsteps : Rephrases extra shape j j') (hread : decode j = some a) : decode j' = some a := by
  induction hsteps with
  | refl => exact hread
  | tail _ step ih => exact h _ _ a step ih

theorem Rephrases.member {fields : List (String × Shape)} {defaults : List (String × Json)}
    {name : String} {j j' : Json} (before after : List (String × Json))
    (h : (name, shape) ∈ fields) (hsteps : Rephrases extra shape j j') :
    Rephrases extra (.object fields defaults) (.object (before ++ (name, j) :: after))
      (.object (before ++ (name, j') :: after)) := by
  induction hsteps with
  | refl => exact .refl
  | tail _ step ih => exact ih.tail (.member before after h step)

theorem Rephrases.item {j j' : Json} (before after : List Json)
    (hsteps : Rephrases extra shape j j') :
    Rephrases extra (.array shape) (.array (before ++ j :: after))
      (.array (before ++ j' :: after)) := by
  induction hsteps with
  | refl => exact .refl
  | tail _ step ih => exact ih.tail (.item before after step)

theorem mapM_append_eq_some_iff {js js' : List Json} {as : List α} :
    (js ++ js').mapM decode = some as ↔
      ∃ bs cs, js.mapM decode = some bs ∧ js'.mapM decode = some cs ∧ as = bs ++ cs := by
  rw [List.mapM_append]
  simp only [Option.bind_eq_bind, Option.bind_eq_some_iff, Option.pure_def, Option.some.injEq]
  constructor
  · rintro ⟨bs, hbs, cs, hcs, rfl⟩
    exact ⟨bs, cs, hbs, hcs, rfl⟩
  · rintro ⟨bs, cs, hbs, hcs, rfl⟩
    exact ⟨bs, hbs, cs, hcs, rfl⟩

theorem mapM_cons_eq_some_iff {j : Json} {js : List Json} {as : List α} :
    (j :: js).mapM decode = some as ↔
      ∃ b cs, decode j = some b ∧ js.mapM decode = some cs ∧ as = b :: cs := by
  rw [List.mapM_cons]
  simp only [Option.bind_eq_bind, Option.bind_eq_some_iff, Option.pure_def, Option.some.injEq]
  constructor
  · rintro ⟨b, hb, cs, hcs, rfl⟩
    exact ⟨b, cs, hb, hcs, rfl⟩
  · rintro ⟨b, cs, hb, hcs, rfl⟩
    exact ⟨b, hb, cs, hcs, rfl⟩

theorem Keeps.array (h : Keeps extra shape decode) :
    Keeps extra (.array shape) (array? decode) := by
  intro j j' as step hread
  cases step with
  | @item _ i i' before after step =>
    obtain ⟨bs, cs, hbs, hcs, rfl⟩ := mapM_append_eq_some_iff.1 hread
    obtain ⟨b, cs, hb, hafter, rfl⟩ := mapM_cons_eq_some_iff.1 hcs
    have hb' := h _ _ b step hb
    exact mapM_append_eq_some_iff.2
      ⟨bs, b :: cs, hbs, mapM_cons_eq_some_iff.2 ⟨b, cs, hb', hafter, rfl⟩, rfl⟩

/-! ## Looking fields up -/

variable {name : String} {j j' : Json} {ms ms' before after : List (String × Json)}

theorem occurrences_append (name : String) (ms ms' : List (String × Json)) :
    occurrences name (ms ++ ms') = occurrences name ms + occurrences name ms' :=
  List.countP_append

theorem occurrences_cons_self (name : String) (j : Json) (ms : List (String × Json)) :
    occurrences name ((name, j) :: ms) = occurrences name ms + 1 := by
  simp [occurrences]

theorem occurrences_cons_of_ne {m : String × Json} (h : m.1 ≠ name) (ms : List (String × Json)) :
    occurrences name (m :: ms) = occurrences name ms := by
  simp [occurrences, h]

theorem occurrences_eq_zero_iff : occurrences name ms = 0 ↔ ∀ j, (name, j) ∉ ms := by
  simp only [occurrences, List.countP_eq_zero, decide_eq_true_eq]
  constructor
  · intro h j hj
    exact h _ hj rfl
  · rintro h ⟨_, j⟩ hm rfl
    exact h j hm

/-- A name that occurs once at most is looked up as the only member that has it. -/
theorem lookup_eq_some_iff_mem (h : occurrences name ms ≤ 1) :
    ms.lookup name = some j ↔ (name, j) ∈ ms := by
  induction ms with
  | nil => simp
  | cons m ms ih =>
    obtain ⟨name', i⟩ := m
    by_cases hname : name' = name
    · subst hname
      rw [occurrences_cons_self] at h
      have hnone : ∀ i', (name', i') ∉ ms := occurrences_eq_zero_iff.1 (by omega)
      simp only [List.lookup_cons_self, Option.some.injEq, List.mem_cons, Prod.mk.injEq, true_and]
      constructor
      · rintro rfl
        exact Or.inl rfl
      · rintro (rfl | hj)
        · rfl
        · exact absurd hj (hnone j)
    · rw [occurrences_cons_of_ne hname] at h
      have hbeq : (name == name') = false := by simpa using Ne.symm hname
      rw [List.lookup_cons, hbeq, ih h]
      simp [Ne.symm hname]

theorem lookup_eq_none_iff_not_mem : ms.lookup name = none ↔ ∀ j, (name, j) ∉ ms := by
  rw [List.lookup_eq_none_iff]
  constructor
  · intro h j hj
    simpa using h _ hj
  · rintro h ⟨name', j⟩ hj
    simp only [bne_iff_ne, ne_eq]
    rintro rfl
    exact h j hj

theorem lookup_congr (h : occurrences name ms ≤ 1) (h' : occurrences name ms' ≤ 1)
    (hmem : ∀ j, (name, j) ∈ ms ↔ (name, j) ∈ ms') : ms.lookup name = ms'.lookup name := by
  ext j
  rw [lookup_eq_some_iff_mem h, lookup_eq_some_iff_mem h', hmem]

/-! ## Fields after a change -/

/-- The fields after a change are those before it, but that one may have been left out for its
default, or have been changed itself. -/
def Follows (extra : Json → Bool) (fields : List (String × Shape))
    (defaults : List (String × Json)) (f f' : Fields) : Prop :=
  ∀ name ∈ fields.map (·.1), f' name = f name ∨
    (∃ j, (name, j) ∈ defaults ∧ f name = some j ∧ f' name = none) ∨
    ∃ shape j j', (name, shape) ∈ fields ∧ f name = some j ∧ f' name = some j' ∧
      Rephrase extra shape j j'

variable {fields : List (String × Shape)} {defaults : List (String × Json)} {f f' : Fields}
  {names : List String} {dialect : Dialect}

theorem fields?_object_eq_some_iff : dialect.fields? names (.object ms) = some f ↔
    (∀ name ∈ names, occurrences name ms ≤ 1) ∧ f = (ms.lookup ·) := by
  simp only [Dialect.fields?, List.all_eq_true, decide_eq_true_eq]
  constructor
  · intro h
    split at h
    · next honce =>
      cases h
      exact ⟨honce, rfl⟩
    · cases h
  · rintro ⟨honce, rfl⟩
    rw [if_pos honce]

theorem Rephrase.exists_object (step : Rephrase extra (.object fields defaults) j j') :
    ∃ ms ms', j = .object ms ∧ j' = .object ms' := by
  cases step <;> exact ⟨_, _, rfl, rfl⟩

/-- No change makes a field occur more often. -/
theorem Rephrase.occurrences_le
    (step : Rephrase extra (.object fields defaults) (.object ms) (.object ms'))
    (hname : name ∈ fields.map (·.1)) : occurrences name ms' ≤ occurrences name ms := by
  cases step with
  | reorder hperm => exact Nat.le_of_eq (hperm.countP_eq _).symm
  | leaveOut before after hm =>
    rw [occurrences_append, occurrences_append]
    exact Nat.add_le_add_left (List.Sublist.countP_le (List.sublist_cons_self _ _)) _
  | putIn added j before after unknown hj =>
    have hne : added ≠ name := by
      rintro rfl
      exact unknown hname
    apply Nat.le_of_eq
    rw [occurrences_append, occurrences_append, occurrences_cons_of_ne hne]
  | member before after hchanged step =>
    apply Nat.le_of_eq
    rw [occurrences_append, occurrences_append, occurrences, occurrences, occurrences,
      List.countP_cons, List.countP_cons]

theorem Rephrase.follows
    (step : Rephrase extra (.object fields defaults) (.object ms) (.object ms'))
    (honce : ∀ name ∈ fields.map (·.1), occurrences name ms ≤ 1) :
    Follows extra fields defaults (ms.lookup ·) (ms'.lookup ·) := by
  intro name hname
  have hle := honce name hname
  have hle' := Nat.le_trans (step.occurrences_le hname) hle
  cases step with
  | reorder hperm =>
    left
    exact (lookup_congr hle hle' fun j => hperm.mem_iff).symm
  | @leaveOut _ _ m before after hm =>
    obtain ⟨left, j⟩ := m
    by_cases hleft : left = name
    · -- it was there once, so it is there no more
      subst hleft
      refine Or.inr (Or.inl ⟨j, hm, ?_, ?_⟩)
      · exact (lookup_eq_some_iff_mem hle).2 (by simp)
      · apply lookup_eq_none_iff_not_mem.2
        apply occurrences_eq_zero_iff.1
        rw [occurrences_append, occurrences_cons_self] at hle
        rw [occurrences_append]
        omega
    · left
      apply lookup_congr hle' hle
      intro i
      simp [Ne.symm hleft]
  | putIn added j before after unknown hj =>
    have hne : name ≠ added := by
      rintro rfl
      exact unknown hname
    left
    apply lookup_congr hle' hle
    intro i
    simp [hne]
  | @member _ _ changed shape i i' before after hchanged step =>
    by_cases hname' : changed = name
    · subst hname'
      refine Or.inr (Or.inr ⟨shape, i, i', hchanged, ?_, ?_, step⟩)
      · exact (lookup_eq_some_iff_mem hle).2 (by simp)
      · exact (lookup_eq_some_iff_mem hle').2 (by simp)
    · left
      apply lookup_congr hle' hle
      intro k
      simp [Ne.symm hname']

/-- After a change of an object its fields are still there, each once. -/
theorem fields?_rephrase (step : Rephrase extra (.object fields defaults) j j')
    (h : dialect.fields? (fields.map (·.1)) j = some f) :
    ∃ f', dialect.fields? (fields.map (·.1)) j' = some f' ∧
      Follows extra fields defaults f f' := by
  obtain ⟨ms, ms', rfl, rfl⟩ := step.exists_object
  obtain ⟨honce, rfl⟩ := fields?_object_eq_some_iff.1 h
  have honce' : ∀ name ∈ fields.map (·.1), occurrences name ms' ≤ 1 :=
    fun name hname => Nat.le_trans (step.occurrences_le hname) (honce name hname)
  exact ⟨_, fields?_object_eq_some_iff.2 ⟨honce', rfl⟩, step.follows honce⟩

namespace Follows

theorem withDefault {default a : α} (h : Follows extra fields defaults f f')
    (hname : name ∈ fields.map (·.1))
    (hdefault : ∀ j, (name, j) ∈ defaults → decode j = some default)
    (hkeep : ∀ shape, (name, shape) ∈ fields → Keeps extra shape decode)
    (hread : withDefault? f name default decode = some a) :
    withDefault? f' name default decode = some a := by
  unfold withDefault? at hread ⊢
  rcases h name hname with heq | ⟨j, hj, hf, hf'⟩ | ⟨shape, j, j', hshape, hf, hf', step⟩
  · rwa [heq]
  · rw [hf] at hread
    rw [hf']
    exact (hdefault j hj).symm.trans hread
  · rw [hf] at hread
    rw [hf']
    exact hkeep shape hshape j j' a step hread

theorem absent {a : Option α} (h : Follows extra fields defaults f f')
    (hname : name ∈ fields.map (·.1)) (hdefault : ∀ j, (name, j) ∈ defaults → j = .null)
    (hkeep : ∀ shape, (name, shape) ∈ fields → Keeps extra shape (optional? decode))
    (hread : absent? f name decode = some a) : absent? f' name decode = some a := by
  apply h.withDefault hname _ hkeep hread
  intro j hj
  rw [hdefault j hj]
  rfl

theorem required {a : α} (h : Follows extra fields defaults f f')
    (hname : name ∈ fields.map (·.1)) (hdefault : ∀ j, (name, j) ∉ defaults)
    (hkeep : ∀ shape, (name, shape) ∈ fields → Keeps extra shape decode)
    (hread : required? f name decode = some a) : required? f' name decode = some a := by
  unfold required? at hread ⊢
  rcases h name hname with heq | ⟨j, hj, -⟩ | ⟨shape, j, j', hshape, hf, hf', step⟩
  · rwa [heq]
  · exact absurd hj (hdefault j)
  · rw [hf, Option.bind_some] at hread
    rw [hf', Option.bind_some]
    exact hkeep shape hshape j j' a step hread

end Follows

/-! ## Text and limits -/

/-- What an object or an array has if all that is in it does, one level deeper, is kept by every
change, if all that is put in has it. -/
theorem Rephrase.preserves {P : Nat → Json → Prop} {R : Nat → Prop}
    (hobject : ∀ n ms, P n (.object ms) ↔ R n ∧ ∀ m ∈ ms, P (n - 1) m.2)
    (harray : ∀ n js, P n (.array js) ↔ R n ∧ ∀ j ∈ js, P (n - 1) j)
    (hextra : ∀ n j, extra j = true → P n j) (step : Rephrase extra shape j j')
    {n : Nat} (h : P n j) : P n j' := by
  induction step generalizing n with
  | reorder hperm =>
    rw [hobject] at h ⊢
    refine ⟨h.1, ?_⟩
    intro m hm
    exact h.2 m (hperm.mem_iff.2 hm)
  | leaveOut before after hm =>
    rw [hobject] at h ⊢
    simp only [List.mem_append, List.mem_cons] at h ⊢
    refine ⟨h.1, ?_⟩
    rintro m (hm | hm)
    · exact h.2 m (Or.inl hm)
    · exact h.2 m (Or.inr (Or.inr hm))
  | putIn name j before after unknown hj =>
    rw [hobject] at h ⊢
    simp only [List.mem_append, List.mem_cons] at h ⊢
    refine ⟨h.1, ?_⟩
    rintro m (hm | rfl | hm)
    · exact h.2 m (Or.inl hm)
    · exact hextra _ _ hj
    · exact h.2 m (Or.inr hm)
  | member before after hname step ih =>
    rw [hobject] at h ⊢
    simp only [List.mem_append, List.mem_cons] at h ⊢
    refine ⟨h.1, ?_⟩
    rintro m (hm | rfl | hm)
    · exact h.2 m (Or.inl hm)
    · exact ih (h.2 _ (Or.inr (Or.inl rfl)))
    · exact h.2 m (Or.inr (Or.inr hm))
  | item before after step ih =>
    rw [harray] at h ⊢
    simp only [List.mem_append, List.mem_cons] at h ⊢
    refine ⟨h.1, ?_⟩
    rintro i (hi | rfl | hi)
    · exact h.2 i (Or.inl hi)
    · exact ih (h.2 _ (Or.inr (Or.inl rfl)))
    · exact h.2 i (Or.inr (Or.inr hi))

theorem Rephrases.isIntact (hsteps : Rephrases extra shape j j')
    (hextra : ∀ j, extra j = true → Json.isIntact j = true) (h : Json.isIntact j = true) :
    Json.isIntact j' = true := by
  induction hsteps with
  | refl => exact h
  | tail _ step ih =>
    refine step.preserves (P := fun _ j => Json.isIntact j = true) (R := fun _ => True)
      ?_ ?_ (fun _ j => hextra j) (n := 0) ih
    · intro _ ms
      simp [Json.isIntact, membersIntact_iff]
    · intro _ js
      simp [Json.isIntact, areIntact_iff]

/-- A document of one piece: what an object says does not hang on such a member that is no
field. -/
def isScalar : Json → Bool
  | null | bool _ | number _ | text _ => true
  | garbled | array _ | object _ => false

theorem isIntact_of_isScalar (h : isScalar j = true) : isIntact j = true := by
  cases j with
  | null | bool | number | text => rfl
  | garbled | array | object => cases h

/-- What is written of a document after some changes is read as what the document says. -/
theorem Keeps.parse (h : Keeps extra shape decode) (hsteps : Rephrases extra shape j j')
    (hextra : ∀ j, extra j = true → isIntact j = true) (hj : isIntact j = true) {a : α}
    (hread : decode j = some a) : (parse? j'.render).bind decode = some a := by
  rw [parse?_render (hsteps.isIntact hextra hj)]
  exact h.rephrases hsteps hread

/-! ## Holding a document -/

theorem areHoldable_iff {n : Nat} {js : List Json} :
    areHoldable n js = true ↔ ∀ j ∈ js, isHoldable n j = true := by
  induction js with
  | nil => simp [areHoldable]
  | cons j js ih => simp [areHoldable, ih]

theorem membersHoldable_iff {n : Nat} {ms : List (String × Json)} :
    membersHoldable n ms = true ↔ ∀ m ∈ ms, isHoldable n m.2 = true := by
  induction ms with
  | nil => simp [membersHoldable]
  | cons m ms ih => simp [membersHoldable, ih]

/-- A document without a number, an array or an object. -/
def isWord : Json → Bool
  | null | bool _ | text _ => true
  | number _ | garbled | array _ | object _ => false

theorem isIntact_of_isWord (h : isWord j = true) : isIntact j = true := by
  cases j with
  | null | bool | text => rfl
  | number | garbled | array | object => cases h

theorem isHoldable_of_isWord (n : Nat) (h : isWord j = true) : isHoldable n j = true := by
  cases j with
  | null | bool | text => rfl
  | number | garbled | array | object => cases h

theorem Rephrase.isHoldable {n : Nat} (step : Rephrase isWord shape j j')
    (h : Json.isHoldable n j = true) : Json.isHoldable n j' = true := by
  refine step.preserves (P := fun n j => Json.isHoldable n j = true) (R := (· ≠ 0)) ?_ ?_
    (fun n _ => isHoldable_of_isWord n) h
  · intro n ms
    simp [Json.isHoldable, membersHoldable_iff]
  · intro n js
    simp [Json.isHoldable, areHoldable_iff]

end FilterSync.Json
