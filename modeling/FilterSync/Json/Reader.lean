import FilterSync.Json.Basic
import FilterSync.Text.Digit

/-!
# Reading JSON

The reader follows the standard strictly: no comments, no trailing commas, no leading
zeros, no raw control characters in strings. It takes one document off the front of a
text. A whole text is a document if only blanks follow it.

Numbers of any size and documents of any depth are read; limits on either are for the
decoders that have them.
-/

namespace FilterSync.Json

/-- A blank between the tokens of a document. -/
def isBlank (c : Char) : Bool :=
  c = ' ' || c = '\n' || c = '\r' || c = '\t'

/-- A text without leading blanks. -/
def skipBlanks (s : List Char) : List Char :=
  s.dropWhile isBlank

/-! ## Numbers -/

/-- The value of a decimal digit. -/
def digit? (c : Char) : Option (Fin 10) :=
  if h : '0'.toNat ≤ c.toNat ∧ c.toNat < '0'.toNat + 10 then
    some ⟨c.toNat - '0'.toNat, by omega⟩
  else none

/-- The digits at the front of a text. -/
def digits : List Char → List (Fin 10) × List Char
  | [] => ([], [])
  | c :: s =>
    match digit? c with
    | none => ([], c :: s)
    | some d =>
      let more := digits s
      (d :: more.1, more.2)

/-- The number that a run of digits writes. -/
def digitsValue (ds : List (Fin 10)) : Nat :=
  ds.foldl (fun n d => 10 * n + d.val) 0

/-- Reads the digits in front of the point: `0`, or digits that do not begin with `0`. -/
def whole? (s : List Char) : Option (Nat × List Char) :=
  match digits s with
  | ([], _) => none
  | (d :: ds, rest) => if d = 0 && !ds.isEmpty then none else some (digitsValue (d :: ds), rest)

/-- Reads a point and the digits behind it, if there is a point. -/
def fraction? (s : List Char) : Option (List (Fin 10) × List Char) :=
  match s with
  | '.' :: s =>
    let ds := digits s
    if ds.1.isEmpty then none else some ds
  | s => some ([], s)

/-- Reads the sign of an exponent. -/
def exponentSign (s : List Char) : Option Bool × List Char :=
  match s with
  | '+' :: s => (some false, s)
  | '-' :: s => (some true, s)
  | s => (none, s)

/-- Reads an exponent, if there is one. -/
def exponent? (s : List Char) : Option (Option Exponent × List Char) :=
  match s with
  | c :: s' =>
    if c = 'e' || c = 'E' then
      let sign := exponentSign s'
      match digits sign.2 with
      | ([], _) => none
      | (d :: ds, rest) => some (some ⟨c = 'E', sign.1, d, ds⟩, rest)
    else some (none, s)
  | [] => some (none, [])

/-- Reads the sign of a number. -/
def minus (s : List Char) : Bool × List Char :=
  match s with
  | '-' :: s => (true, s)
  | s => (false, s)

/-- Reads a number. -/
def number? (s : List Char) : Option (Number × List Char) := do
  let (negative, s) := minus s
  let (whole, s) ← whole? s
  let (fraction, s) ← fraction? s
  let (exponent, s) ← exponent? s
  some (⟨negative, whole, fraction, exponent⟩, s)

/-! ## Strings -/

/-- A piece of a string literal: a character, or a code unit that is written in
hexadecimal. -/
inductive Piece
  | char (c : Char)
  | unit (n : Nat)

/-- The code unit of four hexadecimal digits. -/
def unit? (a b c d : Char) : Option Nat :=
  Text.numeral? 16 [a, b, c, d]

/-- The letters that may follow a backslash, with the characters they write. -/
def escapedLetters : List (Char × Char) :=
  [('"', '"'), ('\\', '\\'), ('/', '/'), ('b', '\x08'), ('f', '\x0c'), ('n', '\n'),
    ('r', '\r'), ('t', '\t')]

/-- Reads the pieces of a literal behind its opening quote, up to and with the closing one. -/
def pieces? : List Char → Option (List Piece × List Char)
  | [] => none
  | '"' :: s => some ([], s)
  | '\\' :: 'u' :: a :: b :: c :: d :: s => do
    let n ← unit? a b c d
    let (ps, rest) ← pieces? s
    some (.unit n :: ps, rest)
  | '\\' :: letter :: s => do
    let c ← escapedLetters.lookup letter
    let (ps, rest) ← pieces? s
    some (.char c :: ps, rest)
  | c :: s => do
    if c.toNat < 0x20 || c = '\\' then none
    let (ps, rest) ← pieces? s
    some (.char c :: ps, rest)

/-- Whether a code unit is the first half of a surrogate pair. -/
def isHighSurrogate (n : Nat) : Bool := 0xD800 ≤ n && n < 0xDC00

/-- Whether a code unit is the second half of a surrogate pair. -/
def isLowSurrogate (n : Nat) : Bool := 0xDC00 ≤ n && n < 0xE000

/-- The text of a literal's pieces. Halves of surrogate pairs count only together. -/
def assemble : List Piece → Option (List Char)
  | [] => some []
  | .char c :: ps => (assemble ps).map (c :: ·)
  | .unit n :: .unit m :: ps =>
    if isHighSurrogate n then
      if isLowSurrogate m then
        (assemble ps).map (Char.ofNat (0x10000 + (n - 0xD800) * 0x400 + (m - 0xDC00)) :: ·)
      else none
    else if isLowSurrogate n then none
    else (assemble (.unit m :: ps)).map (Char.ofNat n :: ·)
  | .unit n :: ps =>
    if isHighSurrogate n || isLowSurrogate n then none
    else (assemble ps).map (Char.ofNat n :: ·)

/-- Reads a literal behind its opening quote: the text that it stands for, if any. -/
def literal? (s : List Char) : Option (Option String × List Char) := do
  let (ps, rest) ← pieces? s
  some ((assemble ps).map String.ofList, rest)

/-! ## Documents -/

mutual

/-- Reads a document. The fuel bounds the nesting and the number of neighbours. -/
def document? : Nat → List Char → Option (Json × List Char)
  | 0, _ => none
  | fuel + 1, s =>
    match skipBlanks s with
    | 'n' :: 'u' :: 'l' :: 'l' :: s => some (null, s)
    | 't' :: 'r' :: 'u' :: 'e' :: s => some (bool true, s)
    | 'f' :: 'a' :: 'l' :: 's' :: 'e' :: s => some (bool false, s)
    | '"' :: s => (literal? s).map fun (t, rest) => (t.elim garbled text, rest)
    | '[' :: s =>
      match skipBlanks s with
      | ']' :: s => some (array [], s)
      | s => (items? fuel s).map fun (js, rest) => (array js, rest)
    | '\x7b' :: s =>
      match skipBlanks s with
      | '\x7d' :: s => some (object [], s)
      | s => (members? fuel s).map fun (ms, rest) => (ms.elim garbled object, rest)
    | s => (number? s).map fun (n, rest) => (number n, rest)

/-- Reads the items of an array up to and with its closing bracket. -/
def items? : Nat → List Char → Option (List Json × List Char)
  | 0, _ => none
  | fuel + 1, s => do
    let (j, s) ← document? fuel s
    match skipBlanks s with
    | ']' :: s => some ([j], s)
    | ',' :: s =>
      let (js, rest) ← items? fuel s
      some (j :: js, rest)
    | _ => none

/-- Reads the members of an object up to and with its closing brace; no members if a name
stands for no text. -/
def members? : Nat → List Char → Option (Option (List (String × Json)) × List Char)
  | 0, _ => none
  | fuel + 1, s => do
    let (name, s) ← name? s
    let (j, s) ← document? fuel s
    match skipBlanks s with
    | '\x7d' :: s => some (name.map fun n => [(n, j)], s)
    | ',' :: s =>
      let (ms, rest) ← members? fuel s
      some ((do some ((← name, j) :: (← ms))), rest)
    | _ => none
where
  /-- Reads the name of a member and the colon behind it. -/
  name? (s : List Char) : Option (Option String × List Char) :=
    match skipBlanks s with
    | '"' :: s => do
      let (name, s) ← literal? s
      match skipBlanks s with
      | ':' :: s => some (name, s)
      | _ => none
    | _ => none

end

/-- Takes a document off the front of a text. -/
def take? (s : List Char) : Option (Json × List Char) :=
  document? (s.length + 1) s

/-- The document that a text is. -/
def parse? (s : String) : Option Json := do
  let (j, rest) ← take? s.toList
  if (skipBlanks rest).isEmpty then some j else none

end FilterSync.Json
