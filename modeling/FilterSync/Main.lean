import FilterSync.Config.Load
import FilterSync.Json.Printer
import FilterSync.Rule.Batch
import FilterSync.Rule.Codec

/-!
# Command line

The first argument names a configuration file, `config.toml` by default; where there is no
such file, the defaults count. The other arguments name files that hold filter lists. The
command prints the configuration, and then the declarative rules of all lists, one in each
line.
-/

namespace FilterSync.CommandLine

/-- The bytes of a file, if there is one that can be read. -/
def bytesOf? (path : String) : IO (Option (List UInt8)) := do
  match ← (IO.FS.readBinFile path).toBaseIO with
  | .ok bytes => return some bytes.toList
  | .error _ => return none

/-- Whether there is a file. -/
def isThere (path : String) : IO Bool := do
  match ← (IO.FS.Handle.mk path .read).toBaseIO with
  | .error (.noFileOrDirectory ..) => return false
  | _ => return true

/-- The configuration in a file, or the defaults where there is no file. -/
def configOf (path : String) : IO (Except Config.LoadError Config) := do
  if ← isThere path then return Config.ofFile (← bytesOf? path) else return .ok {}

/-- Prints the rules of lists, with one cursor for the identifiers of all. -/
def printRules (ceiling : Nat) : IdCursor → List String → IO UInt32
  | _, [] => return 0
  | cursor, path :: paths => do
    match ← bytesOf? path with
    | none =>
      IO.eprintln ("cannot read " ++ path)
      return 1
    | some bytes =>
      let batch := Batch.ofText cursor ceiling (Text.decodeLossy bytes)
      for rule in batch.rules do
        IO.println rule.declarative.render
      printRules ceiling batch.cursor paths

/-- Prints a configuration and the rules of some lists. -/
def run (args : List String) : IO UInt32 := do
  match ← configOf (args.headD "config.toml") with
  | .error e =>
    IO.eprintln e.message
    return 1
  | .ok config =>
    IO.println config.toJson.render
    printRules config.rules.maxRules.toNat ⟨config.rules.firstRuleId⟩ args.tail

end FilterSync.CommandLine

/-- The command. -/
def main (args : List String) : IO UInt32 := FilterSync.CommandLine.run args
