import FilterSync.Proofs.Json.RoundTrip
import FilterSync.Rule.Codec
import FilterSync.State.Codec

/-!
# Stored documents

What a database holds is text: a document of the state, and a document per rule. Each
is read back as the value that was written, so that a store in a database keeps what a
store in memory keeps.

Main statements: `SyncState.decode?_encode` and `Rule.decode?_encode`.
-/

namespace FilterSync

/-! ## Values -/

namespace Json

@[simp] theorem uint64?_nat (n : UInt64) : uint64? (nat n.toNat) = some n := by
  have h := n.toNat_lt
  simp [uint64?, natBelow?, nat, UInt64.size, h]

@[simp] theorem uint32?_nat (n : UInt32) : uint32? (nat n.toNat) = some n := by
  have h := n.toNat_lt
  simp [uint32?, natBelow?, nat, UInt32.size, h]

/-- An optional value is read back, as long as no value is written as `null`. -/
theorem optional?_optional {α : Type} {encode : α → Json} {decode : Json → Option α}
    (hread : ∀ a, decode (encode a) = some a) (hnull : ∀ a, encode a ≠ null)
    (value : Option α) : optional? decode (optional encode value) = some value := by
  cases value with
  | none => rfl
  | some a =>
    show optional? decode (encode a) = _
    unfold optional?
    split
    · next heq => exact absurd heq (hnull a)
    · rw [hread]
      rfl

theorem array?_map {α : Type} {encode : α → Json} {decode : Json → Option α}
    (hread : ∀ a, decode (encode a) = some a) (values : List α) :
    array? decode (array (values.map encode)) = some values := by
  show (values.map encode).mapM decode = some values
  induction values with
  | nil => rfl
  | cons a values ih => simp [hread, ih]

/-- An object in which no name appears twice gives its members as the fields. -/
theorem Dialect.fields?_object {dialect : Dialect} {names : List String}
    {members : List (String × Json)} (h : (members.map (·.1)).Nodup) :
    dialect.fields? names (object members) = some (members.lookup ·) := by
  have honce : (names.all fun n => occurrences n members ≤ 1) = true := by
    rw [List.all_eq_true]
    intro n _
    have hcount := List.nodup_iff_count.1 h n
    rw [List.count, List.countP_map] at hcount
    exact decide_eq_true hcount
  exact if_pos honce

theorem isIntact_optional {α : Type} {encode : α → Json}
    (h : ∀ a, isIntact (encode a) = true) (value : Option α) :
    isIntact (optional encode value) = true := by
  cases value with
  | none => rfl
  | some a => exact h a

theorem isIntact_array_map {α : Type} {encode : α → Json}
    (h : ∀ a, isIntact (encode a) = true) (values : List α) :
    isIntact (array (values.map encode)) = true := by
  show areIntact (values.map encode) = true
  rw [areIntact_iff]
  intro j hj
  obtain ⟨a, -, rfl⟩ := List.mem_map.1 hj
  exact h a

end Json

open Json (isIntact_optional isIntact_array_map optional?_optional array?_map)

/-- A timestamp or a count is written as a number. -/
theorem optional?_timestamp (t : Option Timestamp) :
    Json.optional? Json.uint64? (.optional (fun t => .nat t.toNat) t) = some t := by
  apply optional?_optional
  · exact Json.uint64?_nat
  · intro n h
    cases h

theorem optional?_text (s : Option String) :
    Json.optional? Json.text? (.optional .text s) = some s := by
  apply optional?_optional
  · intro s
    rfl
  · intro s h
    cases h

/-! ## The state -/

namespace ListSource

theorem ofJson?_toJson (l : ListSource) : ofJson? l.toJson = some l := by
  simp only [ofJson?, Option.bind_eq_bind, Option.bind_eq_some_iff]
  refine ⟨_, Json.Dialect.fields?_object (by simp), l.key, ?_, l.name, ?_, l.url, ?_,
    l.enabled, ?_, l.ruleCount, ?_, l.lastUpdated, ?_, l.lastError, ?_, rfl⟩ <;>
  simp [Json.required?, Json.withDefault?, Json.absent?, List.lookup_cons, Json.text?,
    Json.bool?, optional?_timestamp, optional?_text]

theorem isIntact_toJson (l : ListSource) : l.toJson.isIntact = true := by
  have hupdated : Json.isIntact (.optional (fun t => .nat t.toNat) l.lastUpdated) = true :=
    isIntact_optional (fun _ => rfl) _
  have herror : Json.isIntact (.optional .text l.lastError) = true :=
    isIntact_optional (fun _ => rfl) _
  show Json.membersIntact _ = true
  simp only [Json.membersIntact, hupdated, herror]
  rfl

end ListSource

namespace CustomFilter

theorem ofJson?_toJson (dialect : Json.Dialect) (f : CustomFilter) :
    ofJson? dialect f.toJson = some f := by
  simp only [ofJson?, Option.bind_eq_bind, Option.bind_eq_some_iff]
  refine ⟨_, Json.Dialect.fields?_object (by simp), f.id, ?_, f.expression, ?_, f.action, ?_,
    f.enabled, ?_, rfl⟩ <;>
  simp [Json.required?, Json.withDefault?, List.lookup_cons, Json.text?, Json.bool?,
    Json.Dialect.choice?, Action.ofName?_name]

theorem isIntact_toJson (f : CustomFilter) : f.toJson.isIntact = true := by
  simp [toJson, Json.isIntact, Json.membersIntact]

end CustomFilter

namespace SyncState

theorem ofJson?_toJson (s : SyncState) : ofJson? s.toJson = some s := by
  have hlists := array?_map ListSource.ofJson?_toJson s.lists
  have hfilters := array?_map (CustomFilter.ofJson?_toJson .plain) s.customFilters
  simp only [ofJson?, Option.bind_eq_bind, Option.bind_eq_some_iff]
  refine ⟨_, Json.Dialect.fields?_object (by simp), s.lists, ?_, s.customFilters, ?_,
    s.lastSync, ?_, s.blockedRequests, ?_, s.protectionEnabled, ?_, rfl⟩ <;>
  simp [Json.required?, Json.withDefault?, Json.absent?, List.lookup_cons, Json.bool?,
    optional?_timestamp, hlists, hfilters]

theorem isIntact_toJson (s : SyncState) : s.toJson.isIntact = true := by
  have hlists := isIntact_array_map ListSource.isIntact_toJson s.lists
  have hfilters := isIntact_array_map CustomFilter.isIntact_toJson s.customFilters
  have hsync : Json.isIntact (.optional (fun t => .nat t.toNat) s.lastSync) = true :=
    isIntact_optional (fun _ => rfl) _
  show Json.membersIntact _ = true
  simp only [Json.membersIntact, hlists, hfilters, hsync]
  rfl

/-- The document of a state is read back. -/
theorem decode?_encode (s : SyncState) : decode? s.encode = some s := by
  unfold decode? encode
  rw [Json.parse?_render s.isIntact_toJson]
  exact s.ofJson?_toJson

end SyncState

/-! ## Rules -/

namespace Filter.TypeSet

theorem ofJson?_toJson (s : TypeSet) : ofJson? s.toJson = some s := by
  unfold ofJson? toJson
  rw [array?_map (fun t => by simp [Json.Dialect.choice?, ResourceType.ofName?_name])]
  simp

end Filter.TypeSet

namespace Rule

/-- The member for the resource types is read back, if there is one. -/
theorem absent?_typesMember (types : Option Filter.TypeSet) :
    Json.absent? ((typesMember types).lookup ·) "resourceTypes" Filter.TypeSet.ofJson? =
      some types := by
  cases types with
  | none => rfl
  | some types =>
    show (Filter.TypeSet.ofJson? types.toJson).map some = _
    rw [Filter.TypeSet.ofJson?_toJson]
    rfl

theorem ofJson?_toJson (r : Rule) : ofJson? r.toJson = some r := by
  have htypes := absent?_typesMember r.resourceTypes
  have hnames : ((typesMember r.resourceTypes).map (·.1)).Sublist ["resourceTypes"] := by
    cases r.resourceTypes with
    | none => exact List.nil_sublist _
    | some types => exact List.Sublist.refl _
  have honce : (["id", "priority", "actionType", "urlFilter"] ++
      (typesMember r.resourceTypes).map (·.1)).Nodup :=
    (hnames.append_left _).nodup (by decide)
  simp only [ofJson?, Option.bind_eq_bind, Option.bind_eq_some_iff]
  refine ⟨_, Json.Dialect.fields?_object honce, r.id, ?_, r.priority, ?_, r.action, ?_,
    r.urlFilter, ?_, r.resourceTypes, htypes, rfl⟩ <;>
  simp [Json.required?, List.lookup_cons, Json.text?, Json.Dialect.choice?,
    Action.ofName?_name]

theorem membersIntact_typesMember (types : Option Filter.TypeSet) :
    Json.membersIntact (typesMember types) = true := by
  cases types with
  | none => rfl
  | some types =>
    have htext : ∀ t : Filter.ResourceType, Json.isIntact (.text t.name) = true := fun _ => rfl
    have h := isIntact_array_map htext types.toList
    simp [typesMember, Json.membersIntact, Filter.TypeSet.toJson, h]

theorem isIntact_toJson (r : Rule) : r.toJson.isIntact = true := by
  have htypes := membersIntact_typesMember r.resourceTypes
  simp [toJson, Json.isIntact, Json.membersIntact, Json.nat, htypes]

/-- The document of a rule is read back. -/
theorem decode?_encode (r : Rule) : decode? r.encode = some r := by
  unfold decode? encode
  rw [Json.parse?_render r.isIntact_toJson]
  exact r.ofJson?_toJson

end Rule

end FilterSync
