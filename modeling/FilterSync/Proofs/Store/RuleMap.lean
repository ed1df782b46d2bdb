import FilterSync.Proofs.Store.Backends

/-!
# Rule stores as maps

What a rule store is for is a map from identifiers to rules. Replacing rules takes some
identifiers out of the map and puts rules in, if their identifiers are distinct and none of
them is still there; else it names the first rule that does not go in, and changes nothing.

A memory of rules and a database of documents both do this, and neither can be told from
the other by what they answer and show. The database has the rows of the memory's rules all
the way, each under its number.

Main statements: `RuleStore.call_inRows` and `RuleStore.serve_shows`.
-/

namespace FilterSync

/-- Rules by identifier. -/
abbrev RuleMap := UInt32 → Option Rule

namespace RuleMap

variable (m : RuleMap)

/-- The map without some identifiers. -/
def without (ids : List UInt32) : RuleMap := fun id => if id ∈ ids then none else m id

/-- The map with more rules, each at its own identifier. -/
def adding (rules : List Rule) : RuleMap := fun id => (rules.find? (·.id = id)).or (m id)

/-- Rules can be added: their identifiers are distinct and new. -/
def Accepts (rules : List Rule) : Prop :=
  (rules.map (·.id)).Nodup ∧ ∀ r ∈ rules, m r.id = none

/-- The first of the rules whose identifier the map or a rule in front of it has. -/
def FirstCollision (rules : List Rule) (id : UInt32) : Prop :=
  ∃ before r after, rules = before ++ r :: after ∧ r.id = id ∧ m.Accepts before ∧
    (m id ≠ none ∨ id ∈ before.map (·.id))

theorem not_accepts_of_collision {m : RuleMap} {before after : List Rule} {r : Rule}
    (hcollision : m r.id ≠ none ∨ r.id ∈ before.map (·.id)) :
    ¬m.Accepts (before ++ r :: after) := by
  rintro ⟨hdistinct, hnew⟩
  rw [List.map_append, List.nodup_append] at hdistinct
  rcases hcollision with hold | hbefore
  · exact hold (hnew r (List.mem_append_right _ List.mem_cons_self))
  · exact hdistinct.2.2 r.id hbefore r.id (List.mem_map_of_mem List.mem_cons_self) rfl

theorem FirstCollision.unique {m : RuleMap} {rules : List Rule} {id id' : UInt32}
    (h : m.FirstCollision rules id) (h' : m.FirstCollision rules id') : id = id' := by
  obtain ⟨before, r, after, rfl, rfl, haccepts, hcollision⟩ := h
  obtain ⟨before', r', after', hsplit, rfl, haccepts', hcollision'⟩ := h'
  -- whichever stands behind would have the other among the rules in front of it
  rcases List.append_eq_append_iff.1 hsplit with ⟨between, rfl, hrest⟩ | ⟨between, rfl, hrest⟩
  · cases between with
    | nil => cases hrest; rfl
    | cons x between =>
      cases hrest
      exact absurd haccepts' (not_accepts_of_collision hcollision)
  · cases between with
    | nil => cases hrest; rfl
    | cons x between =>
      cases hrest
      exact absurd haccepts (not_accepts_of_collision hcollision')

end RuleMap

/-- A call to replace rules, before which a store may have been closed and opened again. -/
structure Replacement where
  reopened : Bool
  remove : List UInt32
  add : List Rule

/-- The same call to a store that stays open. -/
def Replacement.inPlace (c : Replacement) : Replacement := { c with reopened := false }

namespace RuleMap

/-- What a call to replace rules answers, and the map behind it. -/
inductive Answers (m : RuleMap) (c : Replacement) : Except StoreError Unit → RuleMap → Prop
  | replaced (haccepts : (m.without c.remove).Accepts c.add) :
      Answers m c (.ok ()) ((m.without c.remove).adding c.add)
  | refused {id : UInt32} (hrefuses : ¬(m.without c.remove).Accepts c.add)
      (hfirst : (m.without c.remove).FirstCollision c.add id) :
      Answers m c (.error (.duplicateRuleId id)) m

/-- The map leaves a store no choice. -/
theorem Answers.unique {m m₁ m₂ : RuleMap} {c : Replacement}
    {result₁ result₂ : Except StoreError Unit} (h₁ : Answers m c result₁ m₁)
    (h₂ : Answers m c result₂ m₂) : result₁ = result₂ ∧ m₁ = m₂ := by
  cases h₁ with
  | replaced haccepts =>
    cases h₂ with
    | replaced => exact ⟨rfl, rfl⟩
    | refused hrefuses => exact absurd haccepts hrefuses
  | refused hrefuses hfirst =>
    cases h₂ with
    | replaced haccepts => exact absurd haccepts hrefuses
    | refused _ hfirst' => exact ⟨by rw [hfirst.unique hfirst'], rfl⟩

/-- What calls answer one after the other, and the map behind them. -/
inductive Serves : RuleMap → List Replacement → List (Except StoreError Unit) → RuleMap → Prop
  | done (m : RuleMap) : Serves m [] [] m
  | call {m m₁ m₂ : RuleMap} {c : Replacement} {calls : List Replacement}
      {result : Except StoreError Unit} {results : List (Except StoreError Unit)}
      (hcall : Answers m c result m₁) (hcalls : Serves m₁ calls results m₂) :
      Serves m (c :: calls) (result :: results) m₂

end RuleMap

/-! ## What a store shows -/

namespace RuleStore

/-- The store lists the rules of a map and their identifiers, in ascending order. -/
def Shows (store : RuleStore) (m : RuleMap) : Prop :=
  ∃ live, store.rules = .ok live ∧ store.ids = .ok (live.map (·.id)) ∧
    live.Pairwise (fun a b => a.id < b.id) ∧ ∀ id, m id = live.find? (·.id = id)

/-- Rules are kept at their own identifiers, in ascending order. -/
structure InOrder (t : Table UInt32 Rule) : Prop where
  keyed : ∀ e ∈ t.entries, e.1 = e.2.id
  sorted : t.Sorted

/-- The rows of rules in a database. -/
def inRows (t : Table UInt32 Rule) : Table Int RuleRow := t.image rowNumber RuleRow.ofRule

theorem rowNumber_lt_iff {a b : UInt32} : rowNumber a < rowNumber b ↔ a < b := by
  rw [UInt32.lt_iff_toNat_lt]
  exact Int.ofNat_lt

/-- Where rules are kept at their own identifiers, looking one up is finding it. -/
theorem get?_eq_find? {t : Table UInt32 Rule} (hkeyed : ∀ e ∈ t.entries, e.1 = e.2.id)
    (id : UInt32) : t.get? id = t.values.find? (·.id = id) := by
  obtain ⟨es⟩ := t
  show es.lookup id = (es.map (·.2)).find? (·.id = id)
  induction es with
  | nil => rfl
  | cons e es ih =>
    have he : e.1 = e.2.id := hkeyed e List.mem_cons_self
    have hrest := ih fun e he => hkeyed e (List.mem_cons_of_mem _ he)
    rw [List.lookup_cons, List.map_cons, List.find?_cons, hrest]
    by_cases hid : id = e.1
    · have hb : (id == e.1) = true := beq_iff_eq.2 hid
      rw [hb, decide_eq_true (he ▸ hid.symm)]
    · have hb : (id == e.1) = false := beq_false_of_ne hid
      rw [hb, decide_eq_false (he ▸ Ne.symm hid)]

namespace InOrder

variable {t : Table UInt32 Rule}

theorem empty : InOrder .empty := ⟨by simp [Table.empty], Table.sorted_empty⟩

theorem keys_eq (h : InOrder t) : t.keys = t.values.map (·.id) := by
  unfold Table.keys Table.values
  rw [List.map_map]
  exact List.map_congr_left h.keyed

theorem pairwise_values (h : InOrder t) : t.values.Pairwise (fun a b => a.id < b.id) := by
  have hsorted := h.sorted
  unfold Table.Sorted at hsorted
  rwa [h.keys_eq, List.pairwise_map] at hsorted

theorem shows_memory (h : InOrder t) : (memory t).Shows t.get? :=
  ⟨t.values, rfl, rfl, h.pairwise_values, get?_eq_find? h.keyed⟩

theorem shows_database (h : InOrder t) : (database (inRows t)).Shows t.get? := by
  refine ⟨t.values, ?_, ?_, h.pairwise_values, get?_eq_find? h.keyed⟩
  · have hvalues : (inRows t).values = t.values.map RuleRow.ofRule := by
      simp [inRows, Table.image, Table.values, Function.comp_def]
    show (inRows t).values.mapM RuleRow.decode = _
    rw [hvalues, mapM_decode_ofRule]
  · have hkeys : (inRows t).keys = (t.values.map (·.id)).map rowNumber := by
      rw [← h.keys_eq]
      simp [inRows, Table.image, Table.keys, Function.comp_def]
    show (inRows t).keys.mapM idOfRow = _
    rw [hkeys, mapM_idOfRow_rowNumber]

end InOrder

/-! ## Replacing -/

/-- Rules as entries at their identifiers. -/
def entriesOf (rules : List Rule) : List (UInt32 × Rule) := rules.map fun r => (r.id, r)

theorem keys_entriesOf (rules : List Rule) : (entriesOf rules).map (·.1) = rules.map (·.id) := by
  unfold entriesOf
  rw [List.map_map]
  rfl

theorem keyed_entriesOf (rules : List Rule) : ∀ e ∈ entriesOf rules, e.1 = e.2.id := by
  intro e he
  obtain ⟨r, -, rfl⟩ := List.mem_map.1 he
  rfl

theorem lookup_entriesOf (rules : List Rule) (id : UInt32) :
    (entriesOf rules).lookup id = rules.find? (·.id = id) := by
  have hfind := get?_eq_find? (t := ⟨entriesOf rules⟩) (keyed_entriesOf rules) id
  have hvalues : Table.values ⟨entriesOf rules⟩ = rules := by
    simp [Table.values, entriesOf, Function.comp_def]
  rwa [hvalues] at hfind

namespace InOrder

variable {t t' : Table UInt32 Rule}

theorem eraseAll (h : InOrder t) (ids : List UInt32) : InOrder (t.eraseAll ids) where
  keyed := fun e he => h.keyed e (Table.mem_eraseAll.1 he).1
  sorted := h.sorted.eraseAll ids

theorem addNew (h : InOrder t) {rules : List Rule} (hadd : t.addNew (entriesOf rules) = .ok t') :
    InOrder t' := by
  refine ⟨?_, h.sorted.addNew uint32_lt_trans uint32_lt_of_not_lt hadd⟩
  obtain ⟨hnew, hdistinct⟩ := Table.new_of_addNew hadd
  obtain ⟨t₁, ht₁, hperm⟩ := Table.addNew_perm hnew hdistinct
  rw [hadd] at ht₁
  cases ht₁
  intro e he
  rcases List.mem_append.1 (hperm.mem_iff.1 he) with he | he
  · exact h.keyed e he
  · exact keyed_entriesOf rules e he

end InOrder

variable {t t' : Table UInt32 Rule} {rules : List Rule}

theorem get?_eraseAll_eq_without (t : Table UInt32 Rule) (ids : List UInt32) :
    (t.eraseAll ids).get? = RuleMap.without t.get? ids := by
  funext id
  exact Table.get?_eraseAll t ids id

theorem get?_eq_adding (h : t.addNew (entriesOf rules) = .ok t') :
    t'.get? = RuleMap.adding t.get? rules := by
  funext id
  rw [Table.get?_addNew h, lookup_entriesOf]
  rfl

/-- Rules go into a table if the map that it is accepts them. -/
theorem accepts_iff :
    RuleMap.Accepts t.get? rules ↔ ∃ t', t.addNew (entriesOf rules) = .ok t' := by
  constructor
  · rintro ⟨hdistinct, hnew⟩
    rw [← keys_entriesOf] at hdistinct
    have hfree : ∀ e ∈ entriesOf rules, e.1 ∉ t.keys := by
      intro e he
      obtain ⟨r, hr, rfl⟩ := List.mem_map.1 he
      exact Table.get?_eq_none_iff.1 (hnew r hr)
    obtain ⟨t', hadd, -⟩ := Table.addNew_perm hfree hdistinct
    exact ⟨t', hadd⟩
  · rintro ⟨t', hadd⟩
    obtain ⟨hnew, hdistinct⟩ := Table.new_of_addNew hadd
    rw [keys_entriesOf] at hdistinct
    refine ⟨hdistinct, ?_⟩
    intro r hr
    exact Table.get?_eq_none_iff.2 (hnew (r.id, r) (List.mem_map_of_mem hr))

/-- Where they do not go in, the first one that does not is named. -/
theorem firstCollision_of_error {id : UInt32} (h : t.addNew (entriesOf rules) = .error id) :
    RuleMap.FirstCollision t.get? rules id := by
  obtain ⟨before, a, after, t', hsplit, hbefore, hmem⟩ := Table.split_of_addNew_error h
  obtain ⟨first, rest, rfl, rfl, hrest⟩ := List.map_eq_append_iff.1 hsplit
  obtain ⟨r, last, rfl, hr, -⟩ := List.map_eq_cons_iff.1 hrest
  cases hr
  refine ⟨first, a, last, rfl, rfl, accepts_iff.2 ⟨t', hbefore⟩, ?_⟩
  rcases (Table.mem_keys_addNew hbefore).1 hmem with hold | hfirst
  · left
    intro hnone
    exact Table.get?_eq_none_iff.1 hnone hold
  · right
    rwa [← keys_entriesOf]

/-- A memory of rules replaces some as a table of entries does. -/
theorem replace_memory (t : Table UInt32 Rule) (remove : List UInt32) (add : List Rule) :
    (memory t).replace remove add =
      match (t.eraseAll remove).addNew (entriesOf add) with
      | .ok t' => .ok (memory t')
      | .error id => .error (.duplicateRuleId id) := rfl

/-- A database with the rows of the same rules goes along. -/
theorem replace_inRows (t : Table UInt32 Rule) (remove : List UInt32) (add : List Rule) :
    (database (inRows t)).replace remove add =
      match (t.eraseAll remove).addNew (entriesOf add) with
      | .ok t' => .ok (database (inRows t'))
      | .error id => .error (.duplicateRuleId id) := by
  have hinj : Function.Injective rowNumber := fun _ _ => rowNumber_injective
  have hrows : (add.map fun r => (rowNumber r.id, RuleRow.ofRule r)) =
      (entriesOf add).map fun e => (rowNumber e.1, RuleRow.ofRule e.2) := by
    unfold entriesOf
    rw [List.map_map]
    rfl
  unfold replace inRows
  dsimp only
  rw [hrows, Table.eraseAll_image hinj, Table.addNew_image hinj rowNumber_lt_iff]
  cases (t.eraseAll remove).addNew (entriesOf add) with
  | ok t' => rfl
  | error id => simp [rowNumber]

/-! ## Calls -/

/-- What a call gives, and the store behind it. -/
def call (store : RuleStore) (c : Replacement) : Except StoreError Unit × RuleStore :=
  let store := if c.reopened then store.reopen else store
  match store.replace c.remove c.add with
  | .ok store' => (.ok (), store')
  | .error e => (.error e, store)

/-- What calls give one after the other, and the store behind them. -/
def serve (store : RuleStore) : List Replacement → List (Except StoreError Unit) × RuleStore
  | [] => ([], store)
  | c :: calls =>
    let (result, store) := store.call c
    let (results, store) := store.serve calls
    (result :: results, store)

/-- Rules that can go into the maps go into both. -/
theorem call_of_addNew {c : Replacement}
    (h : (t.eraseAll c.remove).addNew (entriesOf c.add) = .ok t') :
    (memory t).call c.inPlace = (.ok (), memory t') ∧
      (database (inRows t)).call c = (.ok (), database (inRows t')) := by
  have hmemory := replace_memory t c.remove c.add
  have hdatabase := replace_inRows t c.remove c.add
  rw [h] at hmemory hdatabase
  constructor
  · simp only [call, Replacement.inPlace, Bool.false_eq_true, if_false, hmemory]
  · simp only [call, reopen, ite_self, hdatabase]

/-- Rules that cannot go into the maps leave both as they were. -/
theorem call_of_collision {c : Replacement} {id : UInt32}
    (h : (t.eraseAll c.remove).addNew (entriesOf c.add) = .error id) :
    (memory t).call c.inPlace = (.error (.duplicateRuleId id), memory t) ∧
      (database (inRows t)).call c = (.error (.duplicateRuleId id), database (inRows t)) := by
  have hmemory := replace_memory t c.remove c.add
  have hdatabase := replace_inRows t c.remove c.add
  rw [h] at hmemory hdatabase
  constructor
  · simp only [call, Replacement.inPlace, Bool.false_eq_true, if_false, hmemory]
  · simp only [call, reopen, ite_self, hdatabase]

/-- A memory and a database with the same rules answer a call as the map of them does, and
have the same rules again. -/
theorem call_inRows (h : InOrder t) (c : Replacement) :
    ∃ result t', InOrder t' ∧ RuleMap.Answers t.get? c result t'.get? ∧
      (memory t).call c.inPlace = (result, memory t') ∧
      (database (inRows t)).call c = (result, database (inRows t')) := by
  have hwithout := get?_eraseAll_eq_without t c.remove
  cases hadd : (t.eraseAll c.remove).addNew (entriesOf c.add) with
  | ok t' =>
    obtain ⟨hmemory, hdatabase⟩ := call_of_addNew hadd
    refine ⟨.ok (), t', (h.eraseAll c.remove).addNew hadd, ?_, hmemory, hdatabase⟩
    rw [get?_eq_adding hadd, hwithout]
    apply RuleMap.Answers.replaced
    rw [← hwithout]
    exact accepts_iff.2 ⟨t', hadd⟩
  | error id =>
    obtain ⟨hmemory, hdatabase⟩ := call_of_collision hadd
    refine ⟨.error (.duplicateRuleId id), t, h, ?_, hmemory, hdatabase⟩
    apply RuleMap.Answers.refused
    · rw [← hwithout]
      intro haccepts
      obtain ⟨t', ht'⟩ := accepts_iff.1 haccepts
      rw [hadd] at ht'
      cases ht'
    · rw [← hwithout]
      exact firstCollision_of_error hadd

theorem serve_inRows (calls : List Replacement) (h : InOrder t) :
    ∃ results t', InOrder t' ∧ RuleMap.Serves t.get? calls results t'.get? ∧
      (memory t).serve (calls.map (·.inPlace)) = (results, memory t') ∧
      (database (inRows t)).serve calls = (results, database (inRows t')) := by
  induction calls generalizing t with
  | nil => exact ⟨[], t, h, .done _, rfl, rfl⟩
  | cons c calls ih =>
    obtain ⟨result, t₁, h₁, hcall, hmemory, hdatabase⟩ := call_inRows h c
    obtain ⟨results, t', h', hcalls, hmemories, hdatabases⟩ := ih h₁
    refine ⟨result :: results, t', h', .call hcall hcalls, ?_, ?_⟩
    · simp only [List.map_cons, serve, hmemory, hmemories]
    · simp only [serve, hdatabase, hdatabases]

/-- Stores without rules that are called alike, a memory that stays open and a database that
may be opened again before any call, answer as one map does and then list its rules. -/
theorem serve_shows (calls : List Replacement) :
    ∃ results m mem db,
      RuleMap.Serves (fun _ => none) calls results m ∧
      (new .memory).serve (calls.map (·.inPlace)) = (results, mem) ∧ mem.Shows m ∧
      (new .sqlite).serve calls = (results, db) ∧ db.Shows m := by
  obtain ⟨results, t, ht, hserves, hmemory, hdatabase⟩ := serve_inRows calls InOrder.empty
  exact ⟨results, t.get?, memory t, database (inRows t), hserves, hmemory, ht.shows_memory,
    hdatabase, ht.shows_database⟩

end RuleStore

end FilterSync
