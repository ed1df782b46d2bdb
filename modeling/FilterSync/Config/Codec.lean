import FilterSync.Config.Basic
import FilterSync.Json.Decode

/-!
# Documents of configurations

A configuration has a document whose members are the settings. Decoding takes the
defaults for what a document leaves out. The dialect of the document depends on the
notation that it was written in, and is a parameter here.
-/

namespace FilterSync

open Json (Dialect required? withDefault?)

namespace CatalogEntry

/-- The document of an entry. -/
def toJson (e : CatalogEntry) : Json :=
  .object
    [("key", .text e.key), ("name", .text e.name), ("url", .text e.url),
      ("default_enabled", .bool e.defaultEnabled)]

/-- Decodes an entry. -/
def ofJson? (dialect : Dialect) (j : Json) : Option CatalogEntry := do
  let fields ← dialect.fields? ["key", "name", "url", "default_enabled"] j
  let key ← required? fields "key" Json.text?
  let name ← required? fields "name" Json.text?
  let url ← required? fields "url" Json.text?
  let defaultEnabled ← withDefault? fields "default_enabled" true Json.bool?
  some { key, name, url, defaultEnabled }

end CatalogEntry

namespace Config

namespace Rules

def toJson (r : Rules) : Json :=
  .object [("max_rules", .nat r.maxRules.toNat), ("first_rule_id", .nat r.firstRuleId.toNat)]

def ofJson? (dialect : Dialect) (j : Json) : Option Rules := do
  let default : Rules := {}
  let fields ← dialect.fields? ["max_rules", "first_rule_id"] j
  let maxRules ← withDefault? fields "max_rules" default.maxRules Json.uint64?
  let firstRuleId ← withDefault? fields "first_rule_id" default.firstRuleId Json.uint32?
  some { maxRules, firstRuleId }

end Rules

namespace Updates

def toJson (u : Updates) : Json :=
  .object
    [("interval_hours", .nat u.intervalHours.toNat),
      ("concurrent_downloads", .nat u.concurrentDownloads.toNat),
      ("fetch_timeout_secs", .nat u.fetchTimeoutSecs.toNat),
      ("user_agent", .text u.userAgent)]

def ofJson? (dialect : Dialect) (j : Json) : Option Updates := do
  let default : Updates := {}
  let fields ←
    dialect.fields? ["interval_hours", "concurrent_downloads", "fetch_timeout_secs", "user_agent"] j
  let intervalHours ← withDefault? fields "interval_hours" default.intervalHours Json.uint64?
  let concurrentDownloads ←
    withDefault? fields "concurrent_downloads" default.concurrentDownloads Json.uint64?
  let fetchTimeoutSecs ←
    withDefault? fields "fetch_timeout_secs" default.fetchTimeoutSecs Json.uint64?
  let userAgent ← withDefault? fields "user_agent" default.userAgent Json.text?
  some { intervalHours, concurrentDownloads, fetchTimeoutSecs, userAgent }

end Updates

namespace Storage

def toJson (s : Storage) : Json :=
  .object [("backend", .text s.backend.name), ("sqlite_path", .text s.sqlitePath)]

def ofJson? (dialect : Dialect) (j : Json) : Option Storage := do
  let default : Storage := {}
  let fields ← dialect.fields? ["backend", "sqlite_path"] j
  let backend ←
    withDefault? fields "backend" default.backend (dialect.choice? Backend.ofName?)
  let sqlitePath ← withDefault? fields "sqlite_path" default.sqlitePath Json.text?
  some { backend, sqlitePath }

end Storage

namespace Logging

def toJson (l : Logging) : Json :=
  .object [("level", .text l.level), ("format", .text l.format)]

def ofJson? (dialect : Dialect) (j : Json) : Option Logging := do
  let default : Logging := {}
  let fields ← dialect.fields? ["level", "format"] j
  let level ← withDefault? fields "level" default.level Json.text?
  let format ← withDefault? fields "format" default.format Json.text?
  some { level, format }

end Logging

namespace Api

def toJson (a : Api) : Json :=
  .object [("host", .text a.host), ("port", .nat a.port.toNat)]

def ofJson? (dialect : Dialect) (j : Json) : Option Api := do
  let default : Api := {}
  let fields ← dialect.fields? ["host", "port"] j
  let host ← withDefault? fields "host" default.host Json.text?
  let port ← withDefault? fields "port" default.port Json.uint16?
  some { host, port }

end Api

/-- The document of a configuration. -/
def toJson (c : Config) : Json :=
  .object
    [("lists", .array (c.lists.map CatalogEntry.toJson)), ("rules", c.rules.toJson),
      ("updates", c.updates.toJson), ("storage", c.storage.toJson),
      ("logging", c.logging.toJson), ("api", c.api.toJson)]

/-- Decodes a configuration from a document in some dialect. -/
def ofJson? (dialect : Dialect) (j : Json) : Option Config := do
  let fields ← dialect.fields? ["lists", "rules", "updates", "storage", "logging", "api"] j
  let lists ←
    withDefault? fields "lists" defaultLists (Json.array? (CatalogEntry.ofJson? dialect))
  let rules ← withDefault? fields "rules" {} (Rules.ofJson? dialect)
  let updates ← withDefault? fields "updates" {} (Updates.ofJson? dialect)
  let storage ← withDefault? fields "storage" {} (Storage.ofJson? dialect)
  let logging ← withDefault? fields "logging" {} (Logging.ofJson? dialect)
  let api ← withDefault? fields "api" {} (Api.ofJson? dialect)
  some { lists, rules, updates, storage, logging, api }

end Config

end FilterSync
