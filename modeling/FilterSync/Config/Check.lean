import FilterSync.Config.Basic

/-!
# Problems of a configuration

A configuration is usable if the keys of its catalog are distinct, the URLs are URLs, and
the settings are within their limits. The first problem counts: entries in their order, a
repeated key before a bad URL of the same entry, then the settings.

What a URL is, is a parameter here.
-/

namespace FilterSync.Config

/-- The largest number of hours between refreshes: those of a year. -/
def maxIntervalHours : UInt64 := 24 * 365

/-- Why a configuration is not usable, where `φ` holds the faults of URLs. -/
inductive Problem (φ : Type)
  /-- A key occurs a second time in the catalog. -/
  | repeatedKey (key : String)
  /-- The URL of the list with this key is no URL. -/
  | badUrl (key : String) (fault : φ)
  /-- The rule set may hold no rule. -/
  | noRules
  | noInterval
  | longInterval
  /-- No list may be downloaded. -/
  | noDownloads
  deriving DecidableEq, Repr

namespace Problem

variable {φ : Type}

/-- The wording of a problem. -/
def message : Problem φ → String
  | repeatedKey key => "Duplicate list key '" ++ key ++ "' in catalog"
  | badUrl key _ => "Invalid URL for list '" ++ key ++ "'"
  | noRules => "rules.max_rules must be greater than zero"
  | noInterval => "updates.interval_hours must be greater than zero"
  | longInterval =>
    "updates.interval_hours must be at most " ++ toString maxIntervalHours.toNat
  | noDownloads => "updates.concurrent_downloads must be greater than zero"

end Problem

variable {φ : Type} (urlFault? : String → Option φ)

/-- The problem of an entry behind entries with the keys `seen`. -/
def entryProblem? (seen : List String) (e : CatalogEntry) : Option (Problem φ) :=
  if seen.contains e.key then some (.repeatedKey e.key)
  else (urlFault? e.url).map (.badUrl e.key)

/-- The first problem of entries behind entries with the keys `seen`. -/
def entriesProblem? (seen : List String) : List CatalogEntry → Option (Problem φ)
  | [] => none
  | e :: es => (entryProblem? urlFault? seen e).or (entriesProblem? (e.key :: seen) es)

/-- The first setting beyond its limits. -/
def settingsProblem? (c : Config) : Option (Problem φ) :=
  if c.rules.maxRules = 0 then some .noRules
  else if c.updates.intervalHours = 0 then some .noInterval
  else if maxIntervalHours < c.updates.intervalHours then some .longInterval
  else if c.updates.concurrentDownloads = 0 then some .noDownloads
  else none

/-- The first problem of a configuration. -/
def problem? (c : Config) : Option (Problem φ) :=
  (entriesProblem? urlFault? [] c.lists).or c.settingsProblem?

end FilterSync.Config
