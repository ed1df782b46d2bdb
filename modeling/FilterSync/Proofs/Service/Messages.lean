import FilterSync.Proofs.State.Documents
import FilterSync.Sync.Message

/-!
# Documents of messages

A message is read as what was written, wherever its type stands among its members. Its type and
its fields must be there, and none of them twice: the type says which request it is, and with it
which fields there are. A response is read as what was written too.

A message is held before it is read, so what is put in must be short of a number that is out of
range; truth values and texts always are.

Main statements: `Message.ofJson?_rephrases` and `Message.ofJson?_eq_none`.
-/

namespace FilterSync

open Json (Shape Rephrase Rephrases Keeps)

namespace Message

/-! ## Kinds -/

def kind : Message → Kind
  | refresh => .refresh
  | toggleList _ _ => .toggleList
  | customFilters _ => .customFilters
  | toggleProtection _ => .toggleProtection
  | getState => .getState
  | ruleMatched => .ruleMatched

namespace Kind

/-- What a request has besides its type. -/
def fields : Kind → List (String × Shape)
  | toggleList => [("key", .plain), ("enabled", .plain)]
  | customFilters => [("filters", .array CustomFilter.shape)]
  | toggleProtection => [("enabled", .plain)]
  | refresh | getState | ruleMatched => []

def names (k : Kind) : List String := k.fields.map (·.1)

def shape (k : Kind) : Shape := .object ((typeName, .plain) :: k.fields) []

theorem typeName_not_mem_names (k : Kind) : typeName ∉ k.names := by cases k <;> decide

theorem ofName?_eq_some_iff {s : String} {k : Kind} : ofName? s = some k ↔ k.name = s := by
  constructor
  · intro h
    simpa using List.find?_some h
  · rintro rfl
    exact ofName?_name k

end Kind

theorem typeMember_injective {k k' : Kind} (h : typeMember k = typeMember k') : k = k' := by
  have hname : k.name = k'.name := by simpa [typeMember] using h
  have hread := Kind.ofName?_name k'
  rw [← hname, Kind.ofName?_name] at hread
  exact Option.some.inj hread

/-! ## The type and the fields -/

variable {k : Kind} {m : Message} {j j' rest : Json} {ms ms' : List (String × Json)}
  {name : String}

theorem split?_object_eq_some_iff : split? (.object ms) = some (k, rest) ↔
    ms.filter (·.1 = typeName) = [typeMember k] ∧
      rest = .object (ms.filter (·.1 ≠ typeName)) := by
  simp only [split?]
  constructor
  · intro h
    split at h
    · next type name htype =>
      obtain ⟨k', hk', heq⟩ := Option.map_eq_some_iff.1 h
      obtain ⟨rfl, rfl⟩ := Prod.mk.inj heq
      have hfirst : type = typeName := by
        have hmem : (type, Json.text name) ∈ ms.filter (·.1 = typeName) := by simp [htype]
        simpa using (List.mem_filter.1 hmem).2
      rw [htype, hfirst, ← Kind.ofName?_eq_some_iff.1 hk']
      exact ⟨rfl, rfl⟩
    · cases h
  · rintro ⟨htype, rfl⟩
    rw [htype]
    show (Kind.ofName? k.name).map _ = _
    rw [Kind.ofName?_name, Option.map_some]

/-- A change of a message leaves its type, and is no change of its fields or one of them. -/
theorem split?_rephrase {extra : Json → Bool} (step : Rephrase extra k.shape j j')
    (h : split? j = some (k, rest)) :
    ∃ rest', split? j' = some (k, rest') ∧
      Rephrase extra (.object k.fields []) rest rest' := by
  cases step with
  | reorder hperm =>
    obtain ⟨htype, rfl⟩ := split?_object_eq_some_iff.1 h
    refine ⟨_, split?_object_eq_some_iff.2 ⟨?_, rfl⟩, .reorder (hperm.filter _)⟩
    have hperm' := hperm.filter (·.1 = typeName)
    rw [htype] at hperm'
    exact (List.singleton_perm.1 hperm').symm
  | leaveOut before after hm => cases hm
  | putIn name i before after unknown hi =>
    obtain ⟨htype, rfl⟩ := split?_object_eq_some_iff.1 h
    simp only [List.map_cons, List.mem_cons, not_or] at unknown
    refine ⟨_, split?_object_eq_some_iff.2 ⟨?_, rfl⟩, ?_⟩
    · rw [← htype]
      simp [List.filter_append, unknown.1]
    · rw [List.filter_append, List.filter_append, List.filter_cons_of_pos (by simp [unknown.1])]
      exact .putIn name i _ _ unknown.2 hi
  | @member _ _ name shape i i' before after hfield step =>
    obtain ⟨htype, rfl⟩ := split?_object_eq_some_iff.1 h
    rcases List.mem_cons.1 hfield with heq | hfield
    · -- the type is a text, in which nothing changes
      obtain ⟨rfl, rfl⟩ := Prod.mk.inj heq
      cases step
    · have hname : name ≠ typeName := by
        rintro rfl
        exact k.typeName_not_mem_names (List.mem_map_of_mem hfield)
      refine ⟨_, split?_object_eq_some_iff.2 ⟨?_, rfl⟩, ?_⟩
      · rw [← htype]
        simp [List.filter_append, hname]
      · rw [List.filter_append, List.filter_append, List.filter_cons_of_pos (by simp [hname]),
          List.filter_cons_of_pos (by simp [hname])]
        exact .member _ _ hfield step

theorem plain?_keeps (extra : Json → Bool) (m : Message) :
    Keeps extra (.object [] []) (plain? m) := by
  intro j j' m' step h
  cases step <;> exact h

theorem ofFields?_keeps (extra : Json → Bool) (k : Kind) :
    Keeps extra (.object k.fields []) (ofFields? · k) := by
  intro j j' m step h
  cases k with
  | refresh | getState | ruleMatched => exact plain?_keeps extra _ j j' m step h
  | toggleList =>
    simp only [ofFields?, Option.bind_eq_bind, Option.bind_eq_some_iff] at h ⊢
    obtain ⟨f, hf, key, hkey, enabled, henabled, hm⟩ := h
    obtain ⟨f', hf', hfollows⟩ := Json.fields?_rephrase step hf
    refine ⟨f', hf', key, ?_, enabled, ?_, hm⟩
    · exact hfollows.required (by simp [Kind.fields]) (by simp)
        (keeps_of_plain (by simp [Kind.fields])) hkey
    · exact hfollows.required (by simp [Kind.fields]) (by simp)
        (keeps_of_plain (by simp [Kind.fields])) henabled
  | customFilters =>
    simp only [ofFields?, Option.bind_eq_bind, Option.bind_eq_some_iff] at h ⊢
    obtain ⟨f, hf, filters, hfilters, hm⟩ := h
    obtain ⟨f', hf', hfollows⟩ := Json.fields?_rephrase step hf
    refine ⟨f', hf', filters, ?_, hm⟩
    apply hfollows.required (by simp [Kind.fields]) (by simp) _ hfilters
    intro shape hshape
    obtain rfl : shape = .array CustomFilter.shape := by simpa [Kind.fields] using hshape
    exact (CustomFilter.keeps dialect).array
  | toggleProtection =>
    simp only [ofFields?, Option.bind_eq_bind, Option.bind_eq_some_iff] at h ⊢
    obtain ⟨f, hf, enabled, henabled, hm⟩ := h
    obtain ⟨f', hf', hfollows⟩ := Json.fields?_rephrase step hf
    refine ⟨f', hf', enabled, ?_, hm⟩
    exact hfollows.required (by simp [Kind.fields]) (by simp)
      (keeps_of_plain (by simp [Kind.fields])) henabled

theorem occurrences_eq_one_of_required {α : Type} {names : List String} {f : Json.Fields}
    {decode : Json → Option α} {a : α} (hfields : Json.fields? names (.object ms) = some f)
    (hname : name ∈ names) (hread : Json.required? f name decode = some a) :
    Json.occurrences name ms = 1 := by
  obtain ⟨honce, rfl⟩ := Json.fields?_object_eq_some_iff.1 hfields
  obtain ⟨j, hj, -⟩ := Option.bind_eq_some_iff.1 hread
  have hmem := (Json.lookup_eq_some_iff_mem (honce name hname)).1 hj
  have hpos : Json.occurrences name ms ≠ 0 := fun h => Json.occurrences_eq_zero_iff.1 h j hmem
  have hle := honce name hname
  omega

theorem occurrences_filter_ne (h : name ≠ typeName) :
    Json.occurrences name (ms.filter (·.1 ≠ typeName)) = Json.occurrences name ms := by
  rw [Json.occurrences, List.countP_filter, Json.occurrences]
  apply List.countP_congr
  intro m _
  have hne : m.1 = name → m.1 ≠ typeName := fun heq => heq ▸ h
  simpa using hne

/-- Each field of a request is there once. -/
theorem occurrences_eq_one_of_ofFields? (h : ofFields? (.object ms) k = some m)
    (hname : name ∈ k.names) : Json.occurrences name ms = 1 := by
  cases k with
  | refresh | getState | ruleMatched => cases hname
  | toggleList =>
    simp only [ofFields?, Option.bind_eq_bind, Option.bind_eq_some_iff] at h
    obtain ⟨f, hf, key, hkey, enabled, henabled, -⟩ := h
    have hnames : name ∈ ["key", "enabled"] := hname
    rcases List.mem_pair.1 hnames with rfl | rfl
    · exact occurrences_eq_one_of_required hf hname hkey
    · exact occurrences_eq_one_of_required hf hname henabled
  | customFilters =>
    simp only [ofFields?, Option.bind_eq_bind, Option.bind_eq_some_iff] at h
    obtain ⟨f, hf, filters, hfilters, -⟩ := h
    obtain rfl := List.mem_singleton.1 hname
    exact occurrences_eq_one_of_required hf hname hfilters
  | toggleProtection =>
    simp only [ofFields?, Option.bind_eq_bind, Option.bind_eq_some_iff] at h
    obtain ⟨f, hf, enabled, henabled, -⟩ := h
    obtain rfl := List.mem_singleton.1 hname
    exact occurrences_eq_one_of_required hf hname henabled

theorem kind_of_ofFields? (h : ofFields? rest k = some m) : m.kind = k := by
  cases k with
  | refresh | getState | ruleMatched =>
    simp only [ofFields?, plain?] at h
    split at h <;> cases h <;> rfl
  | toggleList | customFilters | toggleProtection =>
    simp only [ofFields?, Option.bind_eq_bind, Option.bind_eq_some_iff, Option.some.injEq] at h
    grind [kind]

/-! ## Reading a message -/

theorem ofJson?_eq_some_iff : ofJson? j = some m ↔
    Json.isHoldable Json.maxDepth j = true ∧
      ∃ rest, split? j = some (m.kind, rest) ∧ ofFields? rest m.kind = some m := by
  unfold ofJson?
  by_cases hhold : Json.isHoldable Json.maxDepth j = true
  · simp only [hhold, Option.bind_eq_bind, Bool.not_true, Bool.false_eq_true, if_false,
      Option.bind_eq_some_iff, true_and]
    constructor
    · rintro ⟨⟨k, rest⟩, hsplit, hread⟩
      have hkind := kind_of_ofFields? hread
      subst hkind
      exact ⟨rest, hsplit, hread⟩
    · rintro ⟨rest, hsplit, hread⟩
      exact ⟨(m.kind, rest), hsplit, hread⟩
  · simp [hhold]

theorem ofJson?_rephrases (hsteps : Rephrases Json.isWord m.kind.shape j j')
    (h : ofJson? j = some m) : ofJson? j' = some m := by
  induction hsteps with
  | refl => exact h
  | tail _ step ih =>
    obtain ⟨hhold, rest, hsplit, hread⟩ := ofJson?_eq_some_iff.1 ih
    obtain ⟨rest', hsplit', hstep⟩ := split?_rephrase step hsplit
    refine ofJson?_eq_some_iff.2 ⟨step.isHoldable hhold, rest', hsplit', ?_⟩
    exact ofFields?_keeps _ _ _ _ m hstep hread

/-- The type, or a field of the request that the type names, is missing or there again. -/
def Misses (ms : List (String × Json)) : Prop :=
  Json.occurrences typeName ms ≠ 1 ∨
    ∃ k, typeMember k ∈ ms ∧ ∃ name ∈ k.names, Json.occurrences name ms ≠ 1

theorem ofJson?_eq_none (h : Misses ms) : ofJson? (.object ms) = none := by
  rw [Option.eq_none_iff_forall_ne_some]
  intro m hread
  obtain ⟨-, rest, hsplit, hfields⟩ := ofJson?_eq_some_iff.1 hread
  obtain ⟨htype, rfl⟩ := split?_object_eq_some_iff.1 hsplit
  rcases h with hcount | ⟨k, hk, name, hname, hcount⟩
  · apply hcount
    rw [Json.occurrences, List.countP_eq_length_filter, htype]
    rfl
  · have hmem : typeMember k ∈ ms.filter (·.1 = typeName) :=
      List.mem_filter.2 ⟨hk, by simp [typeMember]⟩
    rw [htype, List.mem_singleton] at hmem
    obtain rfl := typeMember_injective hmem
    have hne : name ≠ typeName := by
      rintro rfl
      exact m.kind.typeName_not_mem_names hname
    have honce := occurrences_eq_one_of_ofFields? hfields hname
    rw [occurrences_filter_ne hne] at honce
    exact hcount honce

/-! ## Reading what was written -/

theorem isHoldable_toJson (m : Message) : Json.isHoldable Json.maxDepth m.toJson = true := by
  cases m with
  | customFilters filters =>
    have hfilter : ∀ f : CustomFilter, Json.isHoldable 125 f.toJson = true := by
      intro f
      rfl
    have hitems : Json.areHoldable 125 (filters.map CustomFilter.toJson) = true := by
      rw [Json.areHoldable_iff]
      intro j hj
      obtain ⟨f, -, rfl⟩ := List.mem_map.1 hj
      exact hfilter f
    simp [toJson, typeMember, Json.maxDepth, Json.isHoldable, Json.membersHoldable, hitems]
  | refresh | toggleList | toggleProtection | getState | ruleMatched => rfl

theorem isIntact_toJson (m : Message) : m.toJson.isIntact = true := by
  cases m with
  | customFilters filters =>
    have hfilters := Json.isIntact_array_map CustomFilter.isIntact_toJson filters
    simp [toJson, typeMember, Json.isIntact, Json.membersIntact] at hfilters ⊢
    exact hfilters
  | refresh | toggleList | toggleProtection | getState | ruleMatched => rfl

theorem ofJson?_toJson (m : Message) : ofJson? m.toJson = some m := by
  rw [ofJson?_eq_some_iff]
  refine ⟨m.isHoldable_toJson, ?_⟩
  cases m with
  | refresh | getState | ruleMatched => exact ⟨_, split?_object_eq_some_iff.2 ⟨rfl, rfl⟩, rfl⟩
  | toggleList | toggleProtection => exact ⟨_, split?_object_eq_some_iff.2 ⟨rfl, rfl⟩, rfl⟩
  | customFilters filters =>
    refine ⟨.object [("filters", .array (filters.map CustomFilter.toJson))],
      split?_object_eq_some_iff.2 ⟨rfl, rfl⟩, ?_⟩
    have hfilters := Json.array?_map (CustomFilter.ofJson?_toJson dialect) filters
    simp only [kind, ofFields?, Option.bind_eq_bind, Option.bind_eq_some_iff]
    exact ⟨_, Json.Dialect.fields?_object (by simp), filters, hfilters, rfl⟩

end Message

/-! ## Responses -/

namespace Response

variable {α : Type} {encode : α → Json} {decode : Json → Option α} {name name' : String}

theorem lookup_memberOf (name name' : String) (encode : α → Json) (value : Option α) :
    (memberOf name' encode value).lookup name =
      if name = name' then value.map encode else none := by
  cases value with
  | none => simp [memberOf]
  | some a =>
    by_cases h : name = name'
    · simp [memberOf, h]
    · simp [memberOf, List.lookup_cons, beq_false_of_ne h, h]

theorem names_memberOf (name : String) (encode : α → Json) (value : Option α) :
    ((memberOf name encode value).map (·.1)).Sublist [name] := by
  cases value with
  | none => exact List.nil_sublist _
  | some a => exact List.Sublist.refl _

theorem absent?_of_eq_map {f : Json.Fields} {value : Option α} (encode : α → Json)
    (h : f name = value.map encode)
    (hread : ∀ a, decode (encode a) = some a) (hnull : ∀ a, encode a ≠ .null) :
    Json.absent? f name decode = some value := by
  unfold Json.absent? Json.withDefault?
  rw [h]
  cases value with
  | none => rfl
  | some a => exact Json.optional?_optional hread hnull (some a)

theorem ofJson?_toJson (r : Response) : ofJson? r.toJson = some r := by
  have honce : (["ok"] ++ (memberOf "error" .text r.error).map (·.1) ++
      (memberOf "state" SyncState.toJson r.state).map (·.1)).Nodup :=
    (((names_memberOf "error" .text r.error).append_left _).append
      (names_memberOf "state" SyncState.toJson r.state)).nodup (by decide)
  simp only [ofJson?, Option.bind_eq_bind, Option.bind_eq_some_iff]
  refine ⟨_, Json.Dialect.fields?_object (by simpa using honce), r.ok, rfl, r.error, ?_,
    r.state, ?_, rfl⟩
  · apply absent?_of_eq_map Json.text
    · simp [List.lookup_cons, List.lookup_append, lookup_memberOf]
    · intro s
      rfl
    · intro s h
      cases h
  · apply absent?_of_eq_map SyncState.toJson
    · simp [List.lookup_cons, List.lookup_append, lookup_memberOf]
    · exact SyncState.ofJson?_toJson
    · intro s h
      cases h

theorem isIntact_toJson (r : Response) : r.toJson.isIntact = true := by
  have herror : Json.membersIntact (memberOf "error" .text r.error) = true := by
    cases r.error <;> rfl
  have hstate : Json.membersIntact (memberOf "state" SyncState.toJson r.state) = true := by
    cases r.state with
    | none => rfl
    | some s => simp [memberOf, Json.membersIntact, s.isIntact_toJson]
  rw [Json.membersIntact_iff] at herror hstate
  show Json.membersIntact _ = true
  rw [Json.membersIntact_iff]
  intro m hm
  rcases List.mem_cons.1 hm with rfl | hm
  · rfl
  · rcases List.mem_append.1 hm with hm | hm
    · exact herror m hm
    · exact hstate m hm

end Response

namespace Message

/-- A document that says what the document of a message says is read as that message. No text is
read as a message if the type or a field is missing or there again. A response is read as it was
written. -/
theorem read_as_written (r : Response) {m : Message} {j : Json}
    (h : Rephrases Json.isWord m.kind.shape m.toJson j) :
    decode? j.render = some m ∧
    (∀ text ms, Json.parse? text = some (.object ms) → Misses ms → decode? text = none) ∧
    Response.decode? r.toJson.render = some r := by
  refine ⟨?_, ?_, ?_⟩
  · have hintact := h.isIntact (fun _ => Json.isIntact_of_isWord) m.isIntact_toJson
    unfold decode?
    rw [Json.parse?_render hintact]
    exact ofJson?_rephrases h m.ofJson?_toJson
  · intro text ms htext hms
    unfold decode?
    rw [htext]
    exact ofJson?_eq_none hms
  · unfold Response.decode?
    rw [Json.parse?_render r.isIntact_toJson]
    exact r.ofJson?_toJson

/-- The type comes last, the members of the filter are in another order, it is enabled without
saying so, and there is a member more. Without the type, nothing is read. -/
theorem read_as_written_typeLast :
    let m := customFilters [⟨"f", "||a^", .block, true⟩]
    let filter : Json := .object [("type", .text "block"), ("expression", .text "||a^"),
      ("id", .text "f")]
    let filters : String × Json := ("filters", .array [filter])
    let j : Json := .object [filters, ("seen", .bool false), typeMember .customFilters]
    Rephrases Json.isWord m.kind.shape m.toJson j ∧ decode? j.render = some m ∧
      decode? (Json.object [filters]).render = none ∧
      Response.decode? (Response.failed "full").toJson.render = some (.failed "full") := by
  intro m filter filters j
  have henabled : ("enabled", Json.bool true) ∈ CustomFilter.defaults := List.mem_cons_self
  have hfilter : Rephrases Json.isWord CustomFilter.shape
      (CustomFilter.toJson ⟨"f", "||a^", .block, true⟩) filter :=
    .tail (.single (.leaveOut [("id", .text "f"), ("expression", .text "||a^"),
      ("type", .text "block")] [] henabled)) (.reorder (List.reverse_perm _).symm)
  have hfield : ("filters", Shape.array CustomFilter.shape) ∈ (Kind.customFilters).fields :=
    List.mem_cons_self
  have hfilters : Rephrases Json.isWord m.kind.shape m.toJson
      (.object [typeMember .customFilters, filters]) :=
    .member [_] [] (List.mem_cons_of_mem _ hfield) (.item [] [] hfilter)
  have hunknown : "seen" ∉ ((typeName, Shape.plain) :: (Kind.customFilters).fields).map (·.1) := by
    decide
  have hall : Rephrases Json.isWord m.kind.shape m.toJson j :=
    (hfilters.tail (.reorder (List.Perm.swap _ _ _))).tail
      (.putIn "seen" (.bool false) [filters] [_] hunknown rfl)
  obtain ⟨hread, hmisses, hresponse⟩ := read_as_written (.failed "full") hall
  refine ⟨hall, hread, ?_, hresponse⟩
  exact hmisses _ [filters] (Json.parse?_render rfl) (Or.inl (by decide))

end Message

end FilterSync
