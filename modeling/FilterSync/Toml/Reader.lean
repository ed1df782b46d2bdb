import FilterSync.Toml.Scan
import FilterSync.Toml.Tree

/-!
# Reading TOML

A text is a sequence of lines: headers, settings, and lines that say nothing. A header
opens a table, or an element of an array of tables, and the settings below it go there.
The document of the text is the object of the topmost table.
-/

namespace FilterSync.Toml

/-- The largest number of values within each other, and of parts of a dotted key. -/
def maxDepth : Nat := 79

/-! ## Keys -/

/-- A dotted key: the parts that lead to a table, and the last part. -/
structure Key where
  path : List String
  last : String
  deriving DecidableEq, Repr

/-- Whether a character may stand in a key without quotes. -/
def isKeyChar (c : Char) : Bool := c.isAlphanum || c = '_' || c = '-'

/-- Takes one part of a key off the front: a plain word, or a string of one line. -/
def part? (s : List Char) : Option (String × List Char) :=
  match s with
  | '"' :: s => (basic? (s.length + 1) s).map fun (name, rest) => (String.ofList name, rest)
  | '\'' :: s => (literal? s).map fun (name, rest) => (String.ofList name, rest)
  | s =>
    let name := s.takeWhile isKeyChar
    if name.isEmpty then none else some (String.ofList name, s.drop name.length)

/-- Takes a key of at most the given number of parts off the front, with the blanks around
each part. -/
def keyWithin? : Nat → List Char → Option (Key × List Char)
  | 0, _ => none
  | parts + 1, s => do
    let (part, s) ← part? (skipBlanks s)
    match skipBlanks s with
    | '.' :: s => do
      let (key, s) ← keyWithin? parts s
      some ({ key with path := part :: key.path }, s)
    | s => some ({ path := [], last := part }, s)

/-- Takes a key off the front. -/
def key? (s : List Char) : Option (Key × List Char) := keyWithin? maxDepth s

/-! ## Values -/

/-- A reader that takes a document off the front. -/
abbrev Take := List Char → Option (Json × List Char)

/-- Takes a setting off the front: a key, an equals sign and a value. -/
def setting? (value? : Take) (s : List Char) : Option (Key × Json × List Char) := do
  let (key, s) ← key? s
  let (j, s) ← value? (skipBlanks (← char? '=' s))
  some (key, j, s)

/-- Reads the items of an array behind its opening bracket, up to and with the closing
one. Items stand on any number of lines, and a comma may follow the last. The fuel bounds
their number. -/
def items? (value? : Take) : Nat → List Char → Option (List Json × List Char)
  | 0, _ => none
  | fuel + 1, s =>
    match skipLines s.length s with
    | ']' :: s => some ([], s)
    | s => do
      let (j, s) ← value? s
      match skipLines s.length s with
      | ']' :: s => some ([j], s)
      | ',' :: s =>
        let (js, s) ← items? value? fuel s
        some (j :: js, s)
      | _ => none

/-- Reads the settings of an inline table behind its opening brace or a comma, up to and
with the closing brace, and adds them to the given entries. The fuel bounds their
number. -/
def inlineSettings? (value? : Take) : Nat → Entries → List Char → Option (Entries × List Char)
  | 0, _, _ => none
  | fuel + 1, es, s => do
    let (key, j, s) ← setting? value? s
    let es ← insertDotted? (.value j) key.path key.last es
    match skipBlanks s with
    | '\x7d' :: s => some (es, s)
    | ',' :: s => inlineSettings? value? fuel es s
    | _ => none

/-- Takes a value off the front that has at most the given number of values within each
other besides itself. -/
def valueWithin? : Nat → Take
  | 0, s => single? s
  | depth + 1, s =>
    match s with
    | '[' :: s =>
      (items? (valueWithin? depth) (s.length + 1) s).map fun (js, rest) => (.array js, rest)
    | '\x7b' :: s =>
      match skipBlanks s with
      | '\x7d' :: s => some (.object [], s)
      | s =>
        (inlineSettings? (valueWithin? depth) (s.length + 1) [] s).map fun (es, rest) =>
          (.object (entriesJson es), rest)
    | s => single? s
where
  /-- Takes a string or a word off the front. -/
  single? (s : List Char) : Option (Json × List Char) :=
    match s with
    | '"' :: _ => (text? s).map fun (t, rest) => (.text (String.ofList t), rest)
    | '\'' :: _ => (text? s).map fun (t, rest) => (.text (String.ofList t), rest)
    | s => (wordDocument? (word s).1).map (·, (word s).2)

/-- Takes a value off the front. -/
def value? : Take := valueWithin? maxDepth

/-! ## Lines -/

/-- What the lines so far have built: the topmost table, and where the settings of the next
lines go. -/
structure Progress where
  top : Entries
  current : List String

/-- What one line adds, and the text behind it. -/
def line? (p : Progress) (s : List Char) : Option (Progress × List Char) :=
  match s with
  | '[' :: '[' :: s => do
    let (key, s) ← key? s
    let rest ← lineEnd? (← char? ']' (← char? ']' s))
    let top ← within? (openElement? key.last) key.path p.top
    some (⟨top, key.path ++ [key.last]⟩, rest)
  | '[' :: s => do
    let (key, s) ← key? s
    let rest ← lineEnd? (← char? ']' s)
    let top ← within? (openTable? key.last) key.path p.top
    some (⟨top, key.path ++ [key.last]⟩, rest)
  | s => do
    let (key, j, s) ← setting? value? s
    let rest ← lineEnd? s
    let top ← within? (insertDotted? (.value j) key.path key.last) p.current p.top
    some (⟨top, p.current⟩, rest)

/-- The topmost table behind all lines. The fuel bounds their number. -/
def lines? : Nat → Progress → List Char → Option Entries
  | 0, _, _ => none
  | fuel + 1, p, s =>
    match skipBlanks s with
    | [] => some p.top
    | s =>
      match lineEnd? s with
      | some rest => lines? fuel p rest
      | none => do
        let (p, rest) ← line? p s
        lines? fuel p rest

/-- The document of a text, which may start with a byte-order mark. -/
def parse? (text : String) : Option Json :=
  let s :=
    match text.toList with
    | '\uFEFF' :: s => s
    | s => s
  (lines? (s.length + 1) ⟨[], []⟩ s).map fun es => .object (entriesJson es)

example : (parse? "a.b = 1\n[a]").isNone ∧ (parse? "[a.b]\n[a]\nc = [1,]").isSome := by
  decide +kernel

end FilterSync.Toml
