import FilterSync.Config.Basic
import FilterSync.Rule.Basic

/-!
# The persisted state

The state holds what the user chose and what is known of each filter list. It begins
with the catalog, and grows at the end of its lists when the catalog does.

A list is found by its key; where several lists have one key, the first counts.
-/

namespace FilterSync

/-- Milliseconds since the beginning of 1970. -/
abbrev Timestamp := UInt64

/-- A filter list that rules are taken from. -/
structure ListSource where
  key : String
  name : String
  url : String
  enabled : Bool
  /-- The number of live rules from this list. -/
  ruleCount : UInt64 := 0
  /-- The time of the last successful download. -/
  lastUpdated : Option Timestamp := none
  /-- Why the last download failed, if it did. -/
  lastError : Option String := none
  deriving DecidableEq, Repr

namespace ListSource

/-- A list that was never downloaded. -/
def ofEntry (e : CatalogEntry) : ListSource where
  key := e.key
  name := e.name
  url := e.url
  enabled := e.defaultEnabled

/-- The list after a download at time `now` that gave `count` rules. -/
def recordSuccess (l : ListSource) (count : Nat) (now : Timestamp) : ListSource :=
  { l with ruleCount := UInt64.ofNat count, lastUpdated := some now, lastError := none }

/-- The list after a download that failed. -/
def recordFailure (l : ListSource) (error : String) : ListSource :=
  { l with ruleCount := 0, lastError := some error }

/-- The list with what is known of its download taken from another. -/
def withMetadata (l m : ListSource) : ListSource :=
  { l with ruleCount := m.ruleCount, lastUpdated := m.lastUpdated, lastError := m.lastError }

end ListSource

/-- A filter that the user wrote. -/
structure CustomFilter where
  id : String
  expression : String
  action : Action
  enabled : Bool := true
  deriving DecidableEq, Repr

/-- The persisted state. -/
structure SyncState where
  lists : List ListSource
  customFilters : List CustomFilter := []
  /-- The time of the last finished pass. -/
  lastSync : Option Timestamp := none
  blockedRequests : UInt64 := 0
  protectionEnabled : Bool := true
  deriving DecidableEq, Repr

namespace SyncState

/-- The state of a first run. -/
def ofCatalog (catalog : List CatalogEntry) : SyncState where
  lists := catalog.map ListSource.ofEntry

/-- Whether a list has the given key. -/
def hasKey (lists : List ListSource) (key : String) : Bool :=
  lists.any (·.key = key)

/-- Appends the entries whose keys no list has yet. -/
def appendMissing (catalog : List CatalogEntry) (lists : List ListSource) : List ListSource :=
  catalog.foldl
    (fun lists e => if hasKey lists e.key then lists else lists ++ [ListSource.ofEntry e]) lists

/-- The state with the catalog's missing lists appended. -/
def reconcile (s : SyncState) (catalog : List CatalogEntry) : SyncState :=
  { s with lists := appendMissing catalog s.lists }

/-- Whether the catalog has an entry whose key no list has. -/
def isMissingFrom (s : SyncState) (catalog : List CatalogEntry) : Bool :=
  catalog.any fun e => !hasKey s.lists e.key

/-- Changes the first list with a key. -/
def modifyFirst (key : String) (change : ListSource → ListSource) :
    List ListSource → List ListSource
  | [] => []
  | l :: ls => if l.key = key then change l :: ls else l :: modifyFirst key change ls

/-- Enables or disables a list; a key that no list has changes nothing. -/
def setListEnabled (s : SyncState) (key : String) (enabled : Bool) : SyncState :=
  { s with lists := modifyFirst key (fun l => { l with enabled }) s.lists }

/-- Takes over what is known of the downloads of some lists. -/
def mergeMetadata (s : SyncState) (updated : List ListSource) : SyncState :=
  { s with lists := updated.foldl (fun ls m => modifyFirst m.key (·.withMetadata m) ls) s.lists }

/-- Counts one more blocked request; the largest count stays. -/
def countBlocked (s : SyncState) : SyncState :=
  let n := s.blockedRequests
  { s with blockedRequests := if n.toNat + 1 < UInt64.size then n + 1 else n }

end SyncState

end FilterSync
