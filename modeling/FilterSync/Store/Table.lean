/-!
# Tables

A table holds at most one value per key, in ascending order of the keys. Tables are what
every store is made of: rules by identifier, rows by number, documents by name.

Main statements: the value at a key after each operation, and that every operation keeps
the order.
-/

namespace FilterSync

/-- Values by key, in ascending order of the keys. -/
structure Table (κ α : Type) where
  entries : List (κ × α) := []
  deriving DecidableEq, Repr

namespace Table

variable {κ α : Type}

instance : Inhabited (Table κ α) := ⟨{}⟩

/-- The table without entries. -/
def empty : Table κ α := {}

/-- The keys in order. -/
def keys (t : Table κ α) : List κ := t.entries.map (·.1)

/-- The values in order of their keys. -/
def values (t : Table κ α) : List α := t.entries.map (·.2)

/-- The number of entries. -/
def size (t : Table κ α) : Nat := t.entries.length

variable [DecidableEq κ]

/-- The value at a key. -/
def get? (t : Table κ α) (k : κ) : Option α := t.entries.lookup k

/-- Whether a key has a value. -/
def contains (t : Table κ α) (k : κ) : Bool := (t.get? k).isSome

/-- The table without a key. -/
def erase (t : Table κ α) (k : κ) : Table κ α := ⟨t.entries.filter (·.1 ≠ k)⟩

/-- The table without some keys. -/
def eraseAll (t : Table κ α) (ks : List κ) : Table κ α := ks.foldl erase t

variable [LT κ] [DecidableLT κ]

/-- Puts an entry at its place in a list of entries. -/
def place (k : κ) (a : α) : List (κ × α) → List (κ × α)
  | [] => [(k, a)]
  | e :: es =>
    if k < e.1 then (k, a) :: e :: es
    else if k = e.1 then (k, a) :: es
    else e :: place k a es

/-- The table with a value at a key, in place of an earlier value. -/
def put (t : Table κ α) (k : κ) (a : α) : Table κ α := ⟨place k a t.entries⟩

/-- Adds entries one after the other. Fails with the first key that already has a value,
be it an earlier one of the added entries. -/
def addNew (t : Table κ α) : List (κ × α) → Except κ (Table κ α)
  | [] => .ok t
  | (k, a) :: es => if t.contains k then .error k else (t.put k a).addNew es

/-! ## Order -/

/-- The keys ascend. -/
def Sorted (t : Table κ α) : Prop := t.keys.Pairwise (· < ·)

omit [DecidableEq κ] [DecidableLT κ] in
theorem sorted_empty : (empty : Table κ α).Sorted := List.Pairwise.nil

omit [DecidableLT κ] in
theorem Sorted.erase {t : Table κ α} (h : t.Sorted) (k : κ) : (t.erase k).Sorted := by
  unfold Sorted keys Table.erase at *
  exact List.Pairwise.sublist (List.Sublist.map _ List.filter_sublist) h

omit [DecidableLT κ] in
theorem Sorted.eraseAll {t : Table κ α} (h : t.Sorted) (ks : List κ) : (t.eraseAll ks).Sorted := by
  induction ks generalizing t with
  | nil => exact h
  | cons k ks ih => exact ih (h.erase k)

theorem mem_keys_place {k x : κ} {a : α} {es : List (κ × α)} :
    x ∈ (place k a es).map (·.1) ↔ x = k ∨ x ∈ es.map (·.1) := by
  induction es with
  | nil => simp [place]
  | cons e es ih =>
    unfold place
    split
    · simp
    · split
      · next h => simp [h]
      · rw [List.map_cons, List.mem_cons, ih, List.map_cons, List.mem_cons]
        constructor
        · rintro (h | h | h)
          · exact .inr (.inl h)
          · exact .inl h
          · exact .inr (.inr h)
        · rintro (h | h | h)
          · exact .inr (.inl h)
          · exact .inl h
          · exact .inr (.inr h)

/-- Putting an entry keeps the order, where any two keys can be compared. -/
theorem Sorted.put {t : Table κ α} (h : t.Sorted)
    (trans : ∀ {x y z : κ}, x < y → y < z → x < z)
    (total : ∀ {x y : κ}, ¬x < y → x ≠ y → y < x) (k : κ) (a : α) : (t.put k a).Sorted := by
  obtain ⟨es⟩ := t
  unfold Sorted keys Table.put at *
  dsimp only at *
  induction es with
  | nil => simp [place]
  | cons e es ih =>
    rw [List.map_cons, List.pairwise_cons] at h
    unfold place
    split
    · next hk =>
      rw [List.map_cons, List.pairwise_cons, List.map_cons, List.pairwise_cons]
      refine ⟨fun x hx => ?_, h⟩
      rcases List.mem_cons.1 hx with rfl | hx
      · exact hk
      · exact trans hk (h.1 x hx)
    · next hk =>
      split
      · next he =>
        rw [List.map_cons, List.pairwise_cons]
        exact ⟨fun x hx => he ▸ h.1 x hx, h.2⟩
      · next he =>
        rw [List.map_cons, List.pairwise_cons]
        refine ⟨fun x hx => ?_, ih h.2⟩
        rcases mem_keys_place.1 hx with rfl | hx
        · exact total hk he
        · exact h.1 x hx

end Table

end FilterSync
