import FilterSync.Config.Check
import FilterSync.Config.Codec
import FilterSync.Text.Utf8
import FilterSync.Toml.Reader
import FilterSync.Url.Check

/-!
# Loading a configuration

A configuration is a file in TOML. It has to be read, decoded and found usable.
-/

namespace FilterSync.Config

/-- Why a configuration could not be loaded. -/
inductive LoadError
  /-- There is no file, or it is no text. -/
  | unreadable
  /-- The text is no document of a configuration. -/
  | malformed
  | unusable (p : Problem Url.Fault)
  deriving DecidableEq, Repr

/-- The wording of an error. -/
def LoadError.message : LoadError → String
  | unreadable => "Failed to read config file"
  | malformed => "Failed to parse config TOML"
  | unusable p => p.message

/-- The configuration itself, if it is usable. -/
def checked (c : Config) : Except LoadError Config :=
  match c.problem? Url.fault? with
  | none => .ok c
  | some p => .error (.unusable p)

/-- Whether a payload of a choice in TOML counts as empty. -/
def isEmptyTable : Json → Bool
  | .object members => members.isEmpty
  | .array items => items.isEmpty
  | _ => false

/-- The rules for documents that are written in TOML. -/
def tomlDialect : Json.Dialect where
  isEmpty := isEmptyTable
  allowsMore := true

/-- The configuration of a text in TOML. -/
def ofText (text : String) : Except LoadError Config :=
  match (Toml.parse? text).bind (ofJson? tomlDialect) with
  | none => .error .malformed
  | some c => c.checked

/-- The configuration of the bytes of a file, if there is the file. -/
def ofFile (bytes : Option (List UInt8)) : Except LoadError Config :=
  match bytes.bind Text.decode? with
  | none => .error .unreadable
  | some text => ofText (String.ofList text)

end FilterSync.Config
