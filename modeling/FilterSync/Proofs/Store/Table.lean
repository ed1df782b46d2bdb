import FilterSync.Store.Table
import Mathlib.Data.List.Basic

/-!
# What tables hold

A table that is changed holds the entries one expects: the one that was put is found,
erased keys are gone and the others stay, and entries with new keys are all added. The
order of the keys is looked at apart from that (`Sorted`). Under other keys in the same order
a table holds the same.

Main statements: `mem_eraseAll`, `addNew_perm`, `get?_addNew` and `addNew_image`.
-/

namespace FilterSync.Table

variable {κ α : Type} [DecidableEq κ]

/-! ## Erasing -/

theorem mem_eraseAll {t : Table κ α} {ks : List κ} {e : κ × α} :
    e ∈ (t.eraseAll ks).entries ↔ e ∈ t.entries ∧ e.1 ∉ ks := by
  induction ks generalizing t with
  | nil => simp [eraseAll]
  | cons k ks ih =>
    show e ∈ ((t.erase k).eraseAll ks).entries ↔ _
    rw [ih]
    simp only [erase, List.mem_filter, decide_eq_true_eq, List.mem_cons, not_or, and_assoc]

/-- Erasing at least the keys that are there leaves nothing. -/
theorem eraseAll_eq_empty {t : Table κ α} {ks : List κ} (h : ∀ e ∈ t.entries, e.1 ∈ ks) :
    t.eraseAll ks = empty := by
  have hnil : (t.eraseAll ks).entries = [] := by
    rw [List.eq_nil_iff_forall_not_mem]
    intro e he
    obtain ⟨hmem, hout⟩ := mem_eraseAll.1 he
    exact hout (h e hmem)
  show (⟨(t.eraseAll ks).entries⟩ : Table κ α) = ⟨[]⟩
  rw [hnil]

/-! ## Looking up -/

theorem contains_iff {t : Table κ α} {k : κ} : t.contains k = true ↔ k ∈ t.keys := by
  obtain ⟨es⟩ := t
  simp only [contains, get?, keys]
  induction es with
  | nil => simp
  | cons e es ih =>
    rw [List.lookup_cons]
    by_cases hk : k = e.1
    · simp [hk]
    · have hb : (k == e.1) = false := beq_false_of_ne hk
      rw [hb]
      simp only [List.map_cons, List.mem_cons, hk, false_or]
      exact ih

theorem get?_eq_none_iff {t : Table κ α} {k : κ} : t.get? k = none ↔ k ∉ t.keys := by
  rw [← contains_iff, contains, Bool.not_eq_true, Option.isSome_eq_false_iff,
    Option.isNone_iff_eq_none]

theorem get?_erase (t : Table κ α) (k k' : κ) :
    (t.erase k).get? k' = if k' = k then none else t.get? k' := by
  obtain ⟨es⟩ := t
  show (es.filter (·.1 ≠ k)).lookup k' = if k' = k then none else es.lookup k'
  induction es with
  | nil => simp
  | cons e es ih =>
    obtain ⟨k₁, a⟩ := e
    by_cases h₁ : k₁ = k
    · rw [List.filter_cons_of_neg (by simpa using h₁), ih, List.lookup_cons]
      by_cases hk : k' = k
      · rw [if_pos hk, if_pos hk]
      · have hb : (k' == k₁) = false := beq_false_of_ne (h₁ ▸ hk)
        rw [if_neg hk, if_neg hk, hb]
    · rw [List.filter_cons_of_pos (by simpa using h₁), List.lookup_cons, List.lookup_cons, ih]
      by_cases hk : k' = k
      · have hb : (k' == k₁) = false := beq_false_of_ne (hk ▸ Ne.symm h₁)
        rw [if_pos hk, if_pos hk, hb]
      · rw [if_neg hk, if_neg hk]

theorem get?_eraseAll (t : Table κ α) (ks : List κ) (k : κ) :
    (t.eraseAll ks).get? k = if k ∈ ks then none else t.get? k := by
  induction ks generalizing t with
  | nil => simp [eraseAll]
  | cons k₁ ks ih =>
    show ((t.erase k₁).eraseAll ks).get? k = _
    rw [ih, get?_erase]
    by_cases hks : k ∈ ks
    · rw [if_pos hks, if_pos (List.mem_cons_of_mem _ hks)]
    · rw [if_neg hks]
      simp only [List.mem_cons, hks, or_false]

variable [LT κ] [DecidableLT κ]

/-! ## Putting -/

theorem get?_put_self (t : Table κ α) (k : κ) (a : α) : (t.put k a).get? k = some a := by
  obtain ⟨es⟩ := t
  show (place k a es).lookup k = some a
  induction es with
  | nil => simp [place]
  | cons e es ih =>
    unfold place
    split
    · simp
    · split
      · simp
      · next hk =>
        have hb : (k == e.1) = false := beq_false_of_ne hk
        rw [List.lookup_cons, hb]
        exact ih

theorem get?_put_of_ne (t : Table κ α) {k k' : κ} (h : k' ≠ k) (a : α) :
    (t.put k a).get? k' = t.get? k' := by
  obtain ⟨es⟩ := t
  show (place k a es).lookup k' = es.lookup k'
  have hb : (k' == k) = false := beq_false_of_ne h
  induction es with
  | nil => simp [place, List.lookup_cons, hb]
  | cons e es ih =>
    unfold place
    split
    · rw [List.lookup_cons, hb]
    · split
      · next hk =>
        rw [List.lookup_cons, hb, List.lookup_cons, ← hk, hb]
      · rw [List.lookup_cons, List.lookup_cons, ih]

/-- An entry with a new key is added to the others. -/
theorem place_perm {k : κ} {a : α} {es : List (κ × α)} (h : k ∉ es.map (·.1)) :
    (place k a es).Perm ((k, a) :: es) := by
  induction es with
  | nil => exact List.Perm.refl _
  | cons e es ih =>
    rw [List.map_cons, List.mem_cons, not_or] at h
    unfold place
    split
    · exact List.Perm.refl _
    · rw [if_neg h.1]
      exact ((ih h.2).cons e).trans (List.Perm.swap _ _ _)

/-- Entries with distinct new keys are all added. -/
theorem addNew_perm {t : Table κ α} {es : List (κ × α)}
    (hnew : ∀ e ∈ es, e.1 ∉ t.keys) (hdistinct : (es.map (·.1)).Nodup) :
    ∃ t', t.addNew es = .ok t' ∧ t'.entries.Perm (t.entries ++ es) := by
  induction es generalizing t with
  | nil => exact ⟨t, rfl, by simp⟩
  | cons e es ih =>
    obtain ⟨k, a⟩ := e
    have hk : k ∉ t.keys := hnew (k, a) List.mem_cons_self
    rw [List.map_cons, List.nodup_cons] at hdistinct
    have hput : (t.put k a).entries.Perm ((k, a) :: t.entries) := place_perm hk
    have hnew' : ∀ e ∈ es, e.1 ∉ (t.put k a).keys := by
      intro e he hmem
      rcases mem_keys_place.1 hmem with heq | hmem
      · exact hdistinct.1 (List.mem_map.2 ⟨e, he, heq⟩)
      · exact hnew e (List.mem_cons_of_mem _ he) hmem
    obtain ⟨t', ht', hperm⟩ := ih hnew' hdistinct.2
    refine ⟨t', ?_, ?_⟩
    · rw [addNew, if_neg (by rw [contains_iff]; exact hk)]
      exact ht'
    · have hmiddle : ((k, a) :: t.entries ++ es).Perm (t.entries ++ (k, a) :: es) :=
        List.perm_middle.symm
      exact hperm.trans ((hput.append_right es).trans hmiddle)

theorem Sorted.addNew {t t' : Table κ α} {es : List (κ × α)} (h : t.Sorted)
    (trans : ∀ {x y z : κ}, x < y → y < z → x < z)
    (total : ∀ {x y : κ}, ¬x < y → x ≠ y → y < x) (hadd : t.addNew es = .ok t') :
    t'.Sorted := by
  induction es generalizing t with
  | nil =>
    cases hadd
    exact h
  | cons e es ih =>
    obtain ⟨k, a⟩ := e
    rw [Table.addNew] at hadd
    split at hadd
    · cases hadd
    · exact ih (h.put trans total k a) hadd

/-- Entries are added only if their keys are distinct and new. -/
theorem new_of_addNew {t t' : Table κ α} {es : List (κ × α)} (h : t.addNew es = .ok t') :
    (∀ e ∈ es, e.1 ∉ t.keys) ∧ (es.map (·.1)).Nodup := by
  induction es generalizing t with
  | nil => simp
  | cons e es ih =>
    obtain ⟨k, a⟩ := e
    rw [Table.addNew] at h
    split at h
    · cases h
    · next hk =>
      rw [contains_iff] at hk
      obtain ⟨hnew, hdistinct⟩ := ih h
      constructor
      · intro e he
        rcases List.mem_cons.1 he with rfl | he
        · exact hk
        · exact fun hmem => hnew e he (mem_keys_place.2 (Or.inr hmem))
      · rw [List.map_cons, List.nodup_cons]
        refine ⟨?_, hdistinct⟩
        intro hmem
        obtain ⟨e, he, heq⟩ := List.mem_map.1 hmem
        exact hnew e he (mem_keys_place.2 (Or.inl heq))

theorem mem_keys_addNew {t t' : Table κ α} {es : List (κ × α)} (h : t.addNew es = .ok t')
    {k : κ} : k ∈ t'.keys ↔ k ∈ t.keys ∨ k ∈ es.map (·.1) := by
  obtain ⟨hnew, hdistinct⟩ := new_of_addNew h
  obtain ⟨t₁, ht₁, hperm⟩ := addNew_perm hnew hdistinct
  rw [h] at ht₁
  cases ht₁
  have hkeys : t'.keys.Perm (t.keys ++ es.map (·.1)) := by
    have hmap := hperm.map (·.1)
    rwa [List.map_append] at hmap
  rw [hkeys.mem_iff, List.mem_append]

/-- Adding fails at the first entry that does not go with those in front of it. -/
theorem split_of_addNew_error {t : Table κ α} {es : List (κ × α)} {k : κ}
    (h : t.addNew es = .error k) :
    ∃ before a after t', es = before ++ (k, a) :: after ∧ t.addNew before = .ok t' ∧
      k ∈ t'.keys := by
  induction es generalizing t with
  | nil => cases h
  | cons e es ih =>
    obtain ⟨k₁, a⟩ := e
    rw [Table.addNew] at h
    split at h
    · next hk =>
      cases h
      exact ⟨[], a, es, t, rfl, rfl, contains_iff.1 hk⟩
    · next hk =>
      obtain ⟨before, b, after, t', rfl, hbefore, hmem⟩ := ih h
      refine ⟨(k₁, a) :: before, b, after, t', rfl, ?_, hmem⟩
      rw [Table.addNew, if_neg hk]
      exact hbefore

/-- Entries that were added are found, and so are those that were there. -/
theorem get?_addNew {t t' : Table κ α} {es : List (κ × α)} (h : t.addNew es = .ok t') (k : κ) :
    t'.get? k = (es.lookup k).or (t.get? k) := by
  induction es generalizing t with
  | nil =>
    cases h
    rfl
  | cons e es ih =>
    obtain ⟨k₁, a⟩ := e
    have hdistinct := (new_of_addNew h).2
    rw [List.map_cons, List.nodup_cons] at hdistinct
    rw [Table.addNew] at h
    split at h
    · cases h
    · rw [ih h, List.lookup_cons]
      by_cases hk : k = k₁
      · subst hk
        have hnone : es.lookup k = none := get?_eq_none_iff (t := ⟨es⟩).2 hdistinct.1
        rw [hnone, get?_put_self, BEq.rfl]
        rfl
      · have hb : (k == k₁) = false := beq_false_of_ne hk
        rw [get?_put_of_ne t hk, hb]

/-! ## Tables under other keys -/

variable {κ' β : Type}

/-- The table with other keys and values. -/
def image (f : κ → κ') (g : α → β) (t : Table κ α) : Table κ' β :=
  ⟨t.entries.map fun e => (f e.1, g e.2)⟩

variable [DecidableEq κ'] [LT κ'] [DecidableLT κ'] {f : κ → κ'}

omit [LT κ] [DecidableLT κ] [LT κ'] [DecidableLT κ'] in
theorem erase_image (hinj : Function.Injective f) (g : α → β) (t : Table κ α) (k : κ) :
    (t.image f g).erase (f k) = (t.erase k).image f g := by
  have hkeeps : ((fun e : κ' × β => decide (e.1 ≠ f k)) ∘ fun e : κ × α => (f e.1, g e.2)) =
      fun e => decide (e.1 ≠ k) := by
    funext e
    simp [hinj.eq_iff]
  unfold erase image
  rw [List.filter_map, hkeeps]

omit [LT κ] [DecidableLT κ] [LT κ'] [DecidableLT κ'] in
theorem eraseAll_image (hinj : Function.Injective f) (g : α → β) (t : Table κ α) (ks : List κ) :
    (t.image f g).eraseAll (ks.map f) = (t.eraseAll ks).image f g := by
  induction ks generalizing t with
  | nil => rfl
  | cons k ks ih =>
    show ((t.image f g).erase (f k)).eraseAll (ks.map f) = ((t.erase k).eraseAll ks).image f g
    rw [erase_image hinj, ih]

omit [LT κ] [DecidableLT κ] [LT κ'] [DecidableLT κ'] in
theorem contains_image (hinj : Function.Injective f) (g : α → β) (t : Table κ α) (k : κ) :
    (t.image f g).contains (f k) = t.contains k := by
  rw [Bool.eq_iff_iff, contains_iff, contains_iff]
  unfold keys image
  rw [List.map_map]
  show f k ∈ t.entries.map (f ∘ Prod.fst) ↔ _
  rw [← List.map_map, List.mem_map_of_injective hinj]

theorem put_image (hinj : Function.Injective f) (hlt : ∀ {a b : κ}, f a < f b ↔ a < b) (g : α → β)
    (t : Table κ α) (k : κ) (a : α) :
    (t.image f g).put (f k) (g a) = (t.put k a).image f g := by
  obtain ⟨es⟩ := t
  unfold put image
  congr 1
  induction es with
  | nil => rfl
  | cons e es ih =>
    rw [List.map_cons, place, place]
    simp only [hlt, hinj.eq_iff, ih]
    split
    · rfl
    · split <;> rfl

/-- Entries are added under other keys as they would have been under their own. -/
theorem addNew_image (hinj : Function.Injective f) (hlt : ∀ {a b : κ}, f a < f b ↔ a < b)
    (g : α → β) (t : Table κ α) (es : List (κ × α)) :
    (t.image f g).addNew (es.map fun e => (f e.1, g e.2)) =
      match t.addNew es with
      | .ok t' => .ok (t'.image f g)
      | .error k => .error (f k) := by
  induction es generalizing t with
  | nil => rfl
  | cons e es ih =>
    obtain ⟨k, a⟩ := e
    rw [List.map_cons, addNew, addNew, contains_image hinj]
    split
    · rfl
    · rw [put_image hinj hlt, ih]

end FilterSync.Table
