import FilterSync.Json.Basic

/-!
# Tables of TOML

A text builds up a tree of tables. A table comes into being by its own header, by a
header of one of its descendants, or by a dotted key, and this decides what may still be
added to it: a header may name only a table that no header or dotted key has named, and
a dotted key may not lead into a table that has a header of its own.
-/

namespace FilterSync.Toml

/-- How a table came into being. -/
inductive Origin
  /-- By its own header. -/
  | header
  /-- By the header of a descendant. -/
  | path
  /-- By a dotted key. -/
  | dotted
  deriving DecidableEq, Repr

/-- A value, a table, or an array of tables with its elements in order. -/
inductive Node
  | value (j : Json)
  | table (origin : Origin) (entries : List (String × Node))
  | tables (elements : List (List (String × Node)))

/-- The entries of a table in order. -/
abbrev Entries := List (String × Node)

/-- Puts a node under a key, in place of one that is there. -/
def set (key : String) (node : Node) : Entries → Entries
  | [] => [(key, node)]
  | e :: es => if e.1 = key then (key, node) :: es else e :: set key node es

/-- Changes the table that a header's path leads to, making the tables on the way. In an
array of tables the path leads to the last element. -/
def within? (change : Entries → Option Entries) : List String → Entries → Option Entries
  | [], es => change es
  | key :: path, es => do
    match es.lookup key with
    | none => some (set key (.table .path (← within? change path [])) es)
    | some (.value _) => none
    | some (.table origin inner) =>
      some (set key (.table origin (← within? change path inner)) es)
    | some (.tables elements) =>
      match elements.getLast? with
      | none => none
      | some last =>
        some (set key (.tables (elements.dropLast ++ [← within? change path last])) es)

/-- Opens the table of a header. -/
def openTable? (key : String) (es : Entries) : Option Entries :=
  match es.lookup key with
  | none => some (set key (.table .header []) es)
  | some (.table .path inner) => some (set key (.table .header inner) es)
  | some _ => none

/-- Opens another element of an array of tables. -/
def openElement? (key : String) (es : Entries) : Option Entries :=
  match es.lookup key with
  | none => some (set key (.tables [[]]) es)
  | some (.tables elements) => some (set key (.tables (elements ++ [[]])) es)
  | some _ => none

/-- Puts a node under a key that is not there yet. -/
def insertNew? (key : String) (node : Node) (es : Entries) : Option Entries :=
  match es.lookup key with
  | none => some (es ++ [(key, node)])
  | some _ => none

/-- Puts a node under a dotted key, making the tables on the way. A table that some header
has named or passed through may lie on the way, but the table right above the node has to
be one that a dotted key made. -/
def insertDotted? (node : Node) : List String → String → Entries → Option Entries
  | [], key, es => insertNew? key node es
  | part :: path, key, es => do
    match es.lookup part with
    | none => some (set part (.table .dotted (← insertDotted? node path key [])) es)
    | some (.table .dotted inner) =>
      some (set part (.table .dotted (← insertDotted? node path key inner)) es)
    | some (.table .path inner) =>
      if path.isEmpty then none
      else some (set part (.table .path (← insertDotted? node path key inner)) es)
    | some (.tables elements) =>
      match elements.getLast? with
      | none => none
      | some last =>
        if path.isEmpty then none
        else
          let last ← insertDotted? node path key last
          some (set part (.tables (elements.dropLast ++ [last])) es)
    | some _ => none

mutual

/-- The document of a node. -/
def Node.toJson : Node → Json
  | .value j => j
  | .table _ es => .object (entriesJson es)
  | .tables elements => .array (elementsJson elements)

/-- The members of a table. -/
def entriesJson : List (String × Node) → List (String × Json)
  | [] => []
  | (key, node) :: es => (key, node.toJson) :: entriesJson es

/-- The documents of the elements of an array of tables. -/
def elementsJson : List (List (String × Node)) → List Json
  | [] => []
  | es :: rest => .object (entriesJson es) :: elementsJson rest

end

end FilterSync.Toml
