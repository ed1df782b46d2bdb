import FilterSync.Proofs.Store.Codec
import FilterSync.Proofs.Store.Table
import FilterSync.Store.Rules
import FilterSync.Store.States
import Mathlib.Data.List.Perm.Basic

/-!
# What stores keep

Both kinds of stores keep what they are given. A saved state is loaded again. A rule
store whose listed rules are all replaced holds the new rules and nothing else, whatever
it held before; it can only refuse if two of the new rules have one identifier.

Main statements: `StateStore.load_save` and `RuleStore.replace_live`.
-/

namespace FilterSync

/-! ## The state -/

namespace StateStore

@[simp] theorem load_save (store : StateStore) (s : SyncState) :
    (store.save s).load = .ok (some s) := by
  cases store with
  | memory state => rfl
  | database t => simp [save, load, Table.get?_put_self, SyncState.decode?_encode]

end StateStore

/-! ## The rules -/

namespace RuleStore

/-- In memory each rule is kept at its own identifier. A row of a database may hold any
text: it is found by its number alone. -/
def Keyed : RuleStore → Prop
  | memory t => ∀ e ∈ t.entries, e.1 = e.2.id
  | database _ => True

/-- The store shows exactly the given rules, in ascending order of their identifiers. -/
def Holds (store : RuleStore) (rules : List Rule) : Prop :=
  ∃ live, store.rules = .ok live ∧ store.ids = .ok (live.map (·.id)) ∧ live.Perm rules ∧
    live.Pairwise (fun a b => a.id < b.id)

theorem keyed_new (backend : Config.Backend) : (RuleStore.new backend).Keyed := by
  cases backend with
  | memory =>
    intro e he
    cases he
  | sqlite => trivial

theorem holds_new (backend : Config.Backend) : (RuleStore.new backend).Holds [] := by
  cases backend <;> exact ⟨[], rfl, rfl, List.Perm.refl _, List.Pairwise.nil⟩

/-! ### Identifiers and row numbers -/

theorem idOfRow_rowNumber (id : UInt32) : idOfRow (rowNumber id) = .ok id := by
  have h := id.toNat_lt
  have hrange : 0 ≤ rowNumber id ∧ rowNumber id < UInt32.size := by
    simp only [rowNumber, UInt32.size]
    omega
  unfold idOfRow
  rw [if_pos hrange]
  simp [rowNumber]

theorem rowNumber_idOfRow {n : Int} {id : UInt32} (h : idOfRow n = .ok id) :
    rowNumber id = n := by
  unfold idOfRow at h
  split at h
  · next hn =>
    cases h
    simp only [rowNumber, UInt32.toNat_ofNat']
    simp only [UInt32.size] at hn
    omega
  · cases h

theorem rowNumber_injective {a b : UInt32} (h : rowNumber a = rowNumber b) : a = b := by
  apply UInt32.toNat_inj.1
  exact Int.ofNat.inj h

/-- A list that arranges images arranges what they are images of. -/
theorem exists_map_of_perm {α β : Type} {f : α → β} {l : List β} {rs : List α}
    (h : l.Perm (rs.map f)) : ∃ rs' : List α, l = rs'.map f ∧ rs'.Perm rs := by
  have himage : List.Forall₂ (fun b a => b = f a) (rs.map f) rs := by
    rw [List.forall₂_map_left_iff]
    exact List.forall₂_same.2 fun _ _ => rfl
  obtain ⟨rs', hrs, hperm⟩ := List.perm_comp_forall₂ h himage
  refine ⟨rs', ?_, hperm⟩
  have hmap : List.Forall₂ (· = ·) l (rs'.map f) := List.forall₂_map_right_iff.2 hrs
  rwa [List.forall₂_eq_eq_eq] at hmap

/-! ### Listing -/

/-- Every key of a database whose row numbers can all be read is listed. -/
theorem mem_of_mapM_idOfRow {ns : List Int} {live : List UInt32}
    (h : ns.mapM idOfRow = .ok live) : ∀ n ∈ ns, n ∈ live.map rowNumber := by
  induction ns generalizing live with
  | nil => simp
  | cons n ns ih =>
    rw [List.mapM_cons] at h
    cases hn : idOfRow n with
    | error e =>
      rw [hn] at h
      cases h
    | ok id =>
      cases hns : ns.mapM idOfRow with
      | error e =>
        rw [hn, hns] at h
        cases h
      | ok ids =>
        rw [hn, hns] at h
        cases h
        intro m hm
        rw [List.map_cons, List.mem_cons]
        rcases List.mem_cons.1 hm with rfl | hm
        · exact Or.inl (rowNumber_idOfRow hn).symm
        · exact Or.inr (ih hns m hm)

theorem mapM_decode_ofRule (live : List Rule) :
    (live.map RuleRow.ofRule).mapM RuleRow.decode = .ok live := by
  induction live with
  | nil => rfl
  | cons r live ih =>
    have hr : (RuleRow.ofRule r).decode = .ok r := by
      simp [RuleRow.ofRule, RuleRow.decode, Rule.decode?_encode]
    rw [List.map_cons, List.mapM_cons, hr, ih]
    rfl

theorem mapM_idOfRow_rowNumber (ids : List UInt32) :
    (ids.map rowNumber).mapM idOfRow = .ok ids := by
  induction ids with
  | nil => rfl
  | cons id ids ih =>
    rw [List.map_cons, List.mapM_cons, idOfRow_rowNumber, ih]
    rfl

/-- A store that lists no rules has none. -/
theorem holds_nil {store : RuleStore} (h : store.ids = .ok []) : store.Holds [] := by
  refine ⟨[], ?_, h, List.Perm.refl _, List.Pairwise.nil⟩
  cases store with
  | memory t =>
    obtain ⟨_ | ⟨e, es⟩⟩ := t
    · rfl
    · simp [ids, Table.values] at h
  | database t =>
    have hkeys : t.keys = [] := by
      rw [List.eq_nil_iff_forall_not_mem]
      intro n hn
      simpa using mem_of_mapM_idOfRow h n hn
    have hentries : t.entries = [] := List.map_eq_nil_iff.1 hkeys
    simp [rules, Table.values, hentries]
    rfl

/-! ### Replacing everything -/

theorem uint32_lt_trans {a b c : UInt32} (hab : a < b) (hbc : b < c) : a < c :=
  UInt32.lt_trans hab hbc

theorem uint32_lt_of_not_lt {a b : UInt32} (h : ¬a < b) (hne : a ≠ b) : b < a := by
  rw [UInt32.lt_iff_toNat_lt] at h ⊢
  have : a.toNat ≠ b.toNat := fun heq => hne (UInt32.toNat_inj.1 heq)
  omega

/-- A memory of rules at their identifiers, in order, shows these rules. -/
theorem holds_memory {t : Table UInt32 Rule} {live rules : List Rule}
    (hentries : t.entries = live.map fun r => (r.id, r)) (hsorted : t.Sorted)
    (hperm : live.Perm rules) : (memory t).Holds rules := by
  have hvalues : t.values = live := by simp [Table.values, hentries, Function.comp_def]
  have hkeys : t.keys = live.map (·.id) := by simp [Table.keys, hentries, Function.comp_def]
  refine ⟨live, ?_, ?_, hperm, ?_⟩
  · simp [RuleStore.rules, hvalues]
  · simp [ids, hvalues]
  · unfold Table.Sorted at hsorted
    rw [hkeys, List.pairwise_map] at hsorted
    exact hsorted

/-- A database with the rows of rules at their identifiers, in order, shows these rules. -/
theorem holds_database {t : Table Int RuleRow} {live rules : List Rule}
    (hentries : t.entries = live.map fun r => (rowNumber r.id, RuleRow.ofRule r))
    (hsorted : t.Sorted) (hperm : live.Perm rules) : (database t).Holds rules := by
  have hvalues : t.values = live.map RuleRow.ofRule := by
    simp [Table.values, hentries, Function.comp_def]
  have hkeys : t.keys = (live.map (·.id)).map rowNumber := by
    simp [Table.keys, hentries, Function.comp_def]
  refine ⟨live, ?_, ?_, hperm, ?_⟩
  · simp only [RuleStore.rules, hvalues, mapM_decode_ofRule]
  · simp only [ids, hkeys, mapM_idOfRow_rowNumber]
  · unfold Table.Sorted at hsorted
    rw [hkeys, List.pairwise_map, List.pairwise_map] at hsorted
    refine hsorted.imp ?_
    intro a b hab
    rw [UInt32.lt_iff_toNat_lt]
    exact Int.ofNat_lt.1 hab

/-- Replacing everything that is listed by rules with distinct identifiers is never
refused, and leaves these rules. -/
theorem replace_live {store : RuleStore} {live : List UInt32} {rules : List Rule}
    (hkeyed : store.Keyed) (hlive : store.ids = .ok live)
    (hdistinct : (rules.map (·.id)).Nodup) :
    ∃ store', store.replace live rules = .ok store' ∧ store'.Keyed ∧ store'.Holds rules := by
  cases store with
  | memory t =>
    have hids : live = t.values.map (·.id) := by
      simp only [ids, Except.ok.injEq] at hlive
      exact hlive.symm
    have hempty : t.eraseAll live = .empty := by
      apply Table.eraseAll_eq_empty
      intro e he
      rw [hids, hkeyed e he]
      exact List.mem_map_of_mem (List.mem_map_of_mem he)
    have hkeys : ((rules.map fun r => (r.id, r)).map (·.1)).Nodup := by
      rw [List.map_map]
      exact hdistinct
    obtain ⟨t', hadd, hperm⟩ :=
      Table.addNew_perm (t := (.empty : Table UInt32 Rule)) (by simp [Table.keys, Table.empty])
        hkeys
    obtain ⟨live', hentries, hperm⟩ := exists_map_of_perm hperm
    have hsorted := Table.sorted_empty.addNew uint32_lt_trans uint32_lt_of_not_lt hadd
    refine ⟨memory t', ?_, ?_, holds_memory hentries hsorted hperm⟩
    · simp [replace, hempty, hadd]
    · intro e he
      rw [hentries] at he
      obtain ⟨r, -, rfl⟩ := List.mem_map.1 he
      rfl
  | database t =>
    have hempty : t.eraseAll (live.map rowNumber) = .empty := by
      apply Table.eraseAll_eq_empty
      intro e he
      exact mem_of_mapM_idOfRow hlive e.1 (List.mem_map_of_mem he)
    have hkeys : ((rules.map fun r => (rowNumber r.id, RuleRow.ofRule r)).map (·.1)).Nodup := by
      have hmap : ((rules.map (·.id)).map rowNumber).Nodup := by
        unfold List.Nodup at hdistinct ⊢
        rw [List.pairwise_map]
        exact hdistinct.imp fun hne heq => hne (rowNumber_injective heq)
      rwa [List.map_map] at hmap ⊢
    obtain ⟨t', hadd, hperm⟩ :=
      Table.addNew_perm (t := (.empty : Table Int RuleRow)) (by simp [Table.keys, Table.empty])
        hkeys
    obtain ⟨live', hentries, hperm⟩ := exists_map_of_perm hperm
    have hsorted := Table.sorted_empty.addNew Int.lt_trans (fun h hne => by omega) hadd
    refine ⟨database t', ?_, trivial, holds_database hentries hsorted hperm⟩
    simp [replace, hempty, hadd]

end RuleStore

end FilterSync
