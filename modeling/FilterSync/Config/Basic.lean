/-!
# Configuration

The catalog of known filter lists, and the settings of rules, updates, storage, logging
and the HTTP interface. Every setting has a default, and the default catalog has five
lists.
-/

namespace FilterSync

/-- A filter list of the catalog. -/
structure CatalogEntry where
  key : String
  name : String
  url : String
  defaultEnabled : Bool := true
  deriving DecidableEq, Repr

namespace Config

/-- Settings of the rule set. -/
structure Rules where
  /-- The largest number of rules that may be live at once. -/
  maxRules : UInt64 := 30000
  /-- The identifier of the first rule of a pass. -/
  firstRuleId : UInt32 := 1000
  deriving DecidableEq, Repr

/-- Settings of downloads. -/
structure Updates where
  intervalHours : UInt64 := 6
  concurrentDownloads : UInt64 := 4
  fetchTimeoutSecs : UInt64 := 30
  userAgent : String := "uOrigin/1.0"
  deriving DecidableEq, Repr

/-- Where rules and state are kept. -/
inductive Backend
  | sqlite
  | memory
  deriving DecidableEq, Repr

namespace Backend

/-- The name in a configuration. -/
def name : Backend → String
  | sqlite => "sqlite"
  | memory => "memory"

/-- The backend of a given name. -/
def ofName? (s : String) : Option Backend :=
  [sqlite, memory].find? (·.name = s)

end Backend

/-- Settings of the stores. -/
structure Storage where
  backend : Backend := .sqlite
  sqlitePath : String := "uorigin.db"
  deriving DecidableEq, Repr

/-- Settings of the log. -/
structure Logging where
  level : String := "info"
  format : String := "text"
  deriving DecidableEq, Repr

/-- Settings of the HTTP interface. -/
structure Api where
  host : String := "127.0.0.1"
  port : UInt16 := 8080
  deriving DecidableEq, Repr

/-- The catalog of a configuration that names no lists. -/
def defaultLists : List CatalogEntry :=
  let assets := "https://raw.githubusercontent.com/uBlockOrigin/uAssets/master/filters/"
  [{ key := "easylist", name := "EasyList"
     url := "https://easylist.to/easylist/easylist.txt" },
   { key := "easyprivacy", name := "EasyPrivacy"
     url := "https://easylist.to/easylist/easyprivacy.txt" },
   { key := "ublock-filters", name := "uBlock Filters", url := assets ++ "filters.txt" },
   { key := "ublock-badware", name := "uBlock Badware Risks", url := assets ++ "badware.txt" },
   { key := "ublock-privacy", name := "uBlock Privacy", url := assets ++ "privacy.txt"
     defaultEnabled := false }]

end Config

/-- A configuration. -/
structure Config where
  lists : List CatalogEntry := Config.defaultLists
  rules : Config.Rules := {}
  updates : Config.Updates := {}
  storage : Config.Storage := {}
  logging : Config.Logging := {}
  api : Config.Api := {}
  deriving DecidableEq, Repr

end FilterSync
