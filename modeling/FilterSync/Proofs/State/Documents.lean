import FilterSync.Proofs.Json.Rephrasing
import FilterSync.Proofs.Store.Backends
import Mathlib.Data.List.Induction

/-!
# Documents of the state

Whatever is done to the document of a state that leaves what it says, it is read as that state:
its members, those of its lists and those of its filters may change places, what has the value
of its default may be left out, and members with other names may be put in. What is absent is
written as `null`, which is its default, so it may be written or not.

A store gives back the state that was saved last. A database does so also when it was opened
again, as it keeps the document of the state and reads it.

Main statements: `SyncState.keeps` and `StateStore.load_afterUses`.
-/

namespace FilterSync

open Json (Shape Keeps Follows Rephrases)

variable {extra : Json → Bool}

/-! ## Shapes -/

namespace ListSource

def fields : List (String × Shape) :=
  [("key", .plain), ("name", .plain), ("url", .plain), ("enabled", .plain),
    ("ruleCount", .plain), ("lastUpdated", .plain), ("lastError", .plain)]

def defaults : List (String × Json) :=
  [("ruleCount", .nat 0), ("lastUpdated", .null), ("lastError", .null)]

def shape : Shape := .object fields defaults

end ListSource

namespace CustomFilter

def fields : List (String × Shape) :=
  [("id", .plain), ("expression", .plain), ("type", .plain), ("enabled", .plain)]

def defaults : List (String × Json) := [("enabled", .bool true)]

def shape : Shape := .object fields defaults

end CustomFilter

namespace SyncState

def fields : List (String × Shape) :=
  [("lists", .array ListSource.shape), ("customFilters", .array CustomFilter.shape),
    ("lastSync", .plain), ("blockedRequests", .plain), ("protectionEnabled", .plain)]

def defaults : List (String × Json) :=
  [("customFilters", .array []), ("lastSync", .null), ("blockedRequests", .nat 0),
    ("protectionEnabled", .bool true)]

def shape : Shape := .object fields defaults

end SyncState

/-! ## Reading after a change -/

/-- A field that holds no objects. -/
theorem keeps_of_plain {fields : List (String × Shape)} {name : String} {α : Type}
    {decode : Json → Option α} (h : ∀ shape, (name, shape) ∈ fields → shape = .plain) :
    ∀ shape, (name, shape) ∈ fields → Keeps extra shape decode := by
  intro shape hshape
  rw [h shape hshape]
  exact Keeps.plain decode

theorem ListSource.keeps : Keeps extra shape ofJson? := by
  intro j j' l step h
  simp only [ofJson?, Option.bind_eq_bind, Option.bind_eq_some_iff, Option.some.injEq] at h ⊢
  obtain ⟨f, hf, key, hkey, name, hname, url, hurl, enabled, henabled, count, hcount, updated,
    hupdated, error, herror, rfl⟩ := h
  obtain ⟨f', hf', hfollows⟩ := Json.fields?_rephrase step hf
  refine ⟨f', hf', key, ?_, name, ?_, url, ?_, enabled, ?_, count, ?_, updated, ?_, error, ?_, rfl⟩
  · exact hfollows.required (by simp [fields]) (by simp [defaults])
      (keeps_of_plain (by simp [fields])) hkey
  · exact hfollows.required (by simp [fields]) (by simp [defaults])
      (keeps_of_plain (by simp [fields])) hname
  · exact hfollows.required (by simp [fields]) (by simp [defaults])
      (keeps_of_plain (by simp [fields])) hurl
  · exact hfollows.required (by simp [fields]) (by simp [defaults])
      (keeps_of_plain (by simp [fields])) henabled
  · exact hfollows.withDefault (by simp [fields]) (by simp [defaults]; rfl)
      (keeps_of_plain (by simp [fields])) hcount
  · exact hfollows.absent (by simp [fields]) (by simp [defaults])
      (keeps_of_plain (by simp [fields])) hupdated
  · exact hfollows.absent (by simp [fields]) (by simp [defaults])
      (keeps_of_plain (by simp [fields])) herror

theorem CustomFilter.keeps (dialect : Json.Dialect) : Keeps extra shape (ofJson? dialect) := by
  intro j j' filter step h
  simp only [ofJson?, Option.bind_eq_bind, Option.bind_eq_some_iff, Option.some.injEq] at h ⊢
  obtain ⟨f, hf, id, hid, expression, hexpression, action, haction, enabled, henabled, rfl⟩ := h
  obtain ⟨f', hf', hfollows⟩ := Json.fields?_rephrase step hf
  refine ⟨f', hf', id, ?_, expression, ?_, action, ?_, enabled, ?_, rfl⟩
  · exact hfollows.required (by simp [fields]) (by simp [defaults])
      (keeps_of_plain (by simp [fields])) hid
  · exact hfollows.required (by simp [fields]) (by simp [defaults])
      (keeps_of_plain (by simp [fields])) hexpression
  · exact hfollows.required (by simp [fields]) (by simp [defaults])
      (keeps_of_plain (by simp [fields])) haction
  · exact hfollows.withDefault (by simp [fields]) (by simp [defaults]; rfl)
      (keeps_of_plain (by simp [fields])) henabled

theorem SyncState.keeps : Keeps extra shape ofJson? := by
  intro j j' s step h
  simp only [ofJson?, Option.bind_eq_bind, Option.bind_eq_some_iff, Option.some.injEq] at h ⊢
  obtain ⟨f, hf, lists, hlists, filters, hfilters, sync, hsync, blocked, hblocked, protection,
    hprotection, rfl⟩ := h
  obtain ⟨f', hf', hfollows⟩ := Json.fields?_rephrase step hf
  refine ⟨f', hf', lists, ?_, filters, ?_, sync, ?_, blocked, ?_, protection, ?_, rfl⟩
  · apply hfollows.required (by simp [fields]) (by simp [defaults]) _ hlists
    intro shape hshape
    obtain rfl : shape = .array ListSource.shape := by simpa [fields] using hshape
    exact ListSource.keeps.array
  · apply hfollows.withDefault (by simp [fields]) (by simp [defaults]; rfl) _ hfilters
    intro shape hshape
    obtain rfl : shape = .array CustomFilter.shape := by simpa [fields] using hshape
    exact (CustomFilter.keeps .plain).array
  · exact hfollows.absent (by simp [fields]) (by simp [defaults])
      (keeps_of_plain (by simp [fields])) hsync
  · exact hfollows.withDefault (by simp [fields]) (by simp [defaults]; rfl)
      (keeps_of_plain (by simp [fields])) hblocked
  · exact hfollows.withDefault (by simp [fields]) (by simp [defaults]; rfl)
      (keeps_of_plain (by simp [fields])) hprotection

/-! ## Saving and loading -/

namespace StateStore

/-- What is done to a store between its making and a load. -/
inductive Use
  | save (s : SyncState)
  | load
  | reopen
  deriving DecidableEq, Repr

def afterUse (store : StateStore) : Use → StateStore
  | .save s => store.save s
  | .load => store
  | .reopen => store.reopen

def afterUses (store : StateStore) (uses : List Use) : StateStore := uses.foldl afterUse store

def Use.saved? : Use → Option SyncState
  | .save s => some s
  | .load | .reopen => none

/-- The state that was saved last. -/
def lastSaved (uses : List Use) : Option SyncState := uses.reverse.findSome? Use.saved?

theorem afterUses_concat (store : StateStore) (uses : List Use) (u : Use) :
    store.afterUses (uses ++ [u]) = (store.afterUses uses).afterUse u := by
  simp [afterUses]

theorem lastSaved_concat (uses : List Use) (u : Use) :
    lastSaved (uses ++ [u]) = u.saved?.or (lastSaved uses) := by
  unfold lastSaved
  rw [List.reverse_append, List.findSome?_append]
  cases u <;> rfl

/-- Only opening a memory again could lose what was saved. -/
theorem load_afterUse {store : StateStore} {saved : Option SyncState} {u : Use}
    (h : store.load = .ok saved) (hopen : u = .reopen → store.reopen.load = store.load) :
    (store.afterUse u).load = .ok (u.saved?.or saved) := by
  cases u with
  | save s => exact load_save store s
  | load => exact h
  | reopen => exact (hopen rfl).trans h

theorem exists_database (uses : List Use) : ∃ t, (new .sqlite).afterUses uses = database t := by
  induction uses using List.reverseRecOn with
  | nil => exact ⟨_, rfl⟩
  | append_singleton uses u ih =>
    obtain ⟨t, ht⟩ := ih
    rw [afterUses_concat, ht]
    cases u <;> exact ⟨_, rfl⟩

theorem load_database_afterUses (uses : List Use) :
    ((new .sqlite).afterUses uses).load = .ok (lastSaved uses) := by
  induction uses using List.reverseRecOn with
  | nil => rfl
  | append_singleton uses u ih =>
    rw [afterUses_concat, lastSaved_concat]
    apply load_afterUse ih
    intro _
    obtain ⟨t, ht⟩ := exists_database uses
    rw [ht]
    rfl

theorem load_memory_afterUses (uses : List Use) :
    ((new .memory).afterUses (uses.filter (· ≠ .reopen))).load = .ok (lastSaved uses) := by
  induction uses using List.reverseRecOn with
  | nil => rfl
  | append_singleton uses u ih =>
    rw [lastSaved_concat, List.filter_append, List.filter_singleton]
    by_cases hu : u = .reopen
    · subst hu
      simpa [Use.saved?] using ih
    · rw [decide_eq_true hu, cond_true, afterUses_concat]
      exact load_afterUse ih fun h => absurd h hu

end StateStore

namespace SyncState

/-- A document that says what the document of a state says is read as that state. So a store
gives back what was saved last: a database whether or not it was opened again, a memory as long
as it stays open. -/
theorem document_faithful {s : SyncState} {j : Json}
    (h : Rephrases Json.isScalar shape s.toJson j) (uses : List StateStore.Use) :
    decode? j.render = some s ∧
    ((StateStore.new .sqlite).afterUses uses).load = .ok (StateStore.lastSaved uses) ∧
    ((StateStore.new .memory).afterUses (uses.filter (· ≠ .reopen))).load =
      .ok (StateStore.lastSaved uses) := by
  refine ⟨?_, StateStore.load_database_afterUses uses, StateStore.load_memory_afterUses uses⟩
  exact keeps.parse h (fun _ => Json.isIntact_of_isScalar) s.isIntact_toJson s.ofJson?_toJson

/-- A catalog of one list, with fewer and more members than are written of it, in another
order. -/
theorem document_faithful_rearranged :
    let s := ofCatalog [⟨"a", "A", "https://a", false⟩]
    let list : Json := .object [("lastError", .null), ("lastUpdated", .null),
      ("enabled", .bool false), ("url", .text "https://a"), ("name", .text "A"),
      ("key", .text "a")]
    let j : Json := .object [("theme", .text "dark"), ("protectionEnabled", .bool true),
      ("blockedRequests", .nat 0), ("lastSync", .null), ("lists", .array [list])]
    Rephrases Json.isScalar shape s.toJson j ∧ decode? j.render = some s ∧
      ((StateStore.new .sqlite).afterUses [.save s, .reopen, .load]).load = .ok (some s) := by
  intro s list j
  have hlist : Rephrases Json.isScalar ListSource.shape
      (ListSource.ofEntry ⟨"a", "A", "https://a", false⟩).toJson list := by
    have hcount : ("ruleCount", Json.nat 0) ∈ ListSource.defaults := List.mem_cons_self
    exact .tail (.single (.leaveOut [("key", .text "a"), ("name", .text "A"),
      ("url", .text "https://a"), ("enabled", .bool false)]
      [("lastUpdated", .null), ("lastError", .null)] hcount)) (.reorder (List.reverse_perm _).symm)
  have hlists : Rephrases Json.isScalar shape s.toJson (.object [("lists", .array [list]),
      ("customFilters", .array []), ("lastSync", .null), ("blockedRequests", .nat 0),
      ("protectionEnabled", .bool true)]) :=
    .member [] _ List.mem_cons_self (.item [] [] hlist)
  have hfilters : ("customFilters", Json.array []) ∈ defaults := List.mem_cons_self
  have hunknown : "theme" ∉ fields.map (·.1) := by decide
  have hall : Rephrases Json.isScalar shape s.toJson j :=
    ((hlists.tail (.leaveOut [("lists", .array [list])] _ hfilters)).tail
      (.reorder (List.reverse_perm _).symm)).tail
      (.putIn "theme" (.text "dark") [] _ hunknown rfl)
  have hfaithful := document_faithful hall [.save s, .reopen, .load]
  exact ⟨hall, hfaithful.1, hfaithful.2.1⟩

end SyncState

end FilterSync
