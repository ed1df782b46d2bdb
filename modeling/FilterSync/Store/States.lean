import FilterSync.Config.Basic
import FilterSync.State.Codec
import FilterSync.Store.Error
import FilterSync.Store.Table

/-!
# Stores of the state

The state is kept either in memory or as a document under a name in a database. Saving
replaces it as a whole. A document that is no state makes loading fail.
-/

namespace FilterSync

/-- The persisted state, if any. -/
inductive StateStore
  | memory (state : Option SyncState)
  | database (documents : Table String String)
  deriving DecidableEq, Repr

namespace StateStore

/-- The name of the state's document. -/
def stateKey : String := "uorigin-state"

/-- A store without a state. -/
def new : Config.Backend → StateStore
  | .memory => memory none
  | .sqlite => database .empty

/-- The store after its process was started again: a database keeps its documents. -/
def reopen : StateStore → StateStore
  | memory _ => memory none
  | database documents => database documents

/-- The persisted state. -/
def load : StateStore → Except StoreError (Option SyncState)
  | memory state => .ok state
  | database t =>
    match t.get? stateKey with
    | none => .ok none
    | some text =>
      match SyncState.decode? text with
      | some s => .ok (some s)
      | none => .error .undecodable

/-- The store with another state. -/
def save (store : StateStore) (s : SyncState) : StateStore :=
  match store with
  | memory _ => memory (some s)
  | database t => database (t.put stateKey s.encode)

/-- Writes a document under a name whatever it says; memory has no documents. -/
def putDocument (store : StateStore) (key text : String) : StateStore :=
  match store with
  | memory s => memory s
  | database t => database (t.put key text)

end StateStore

end FilterSync
