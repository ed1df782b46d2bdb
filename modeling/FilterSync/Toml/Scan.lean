import FilterSync.Json.Decode
import FilterSync.Json.Reader
import FilterSync.Text.Digit

/-!
# Tokens of TOML

Blanks, comments, line ends, strings, and the values that are written as one word:
truth values, numbers, dates and times. Each reader takes its token off the front of a
text.

A value stands for a JSON document. Infinities and not-a-number stand for none and are
`garbled`; a date or time is an object with one member.
-/

namespace FilterSync.Toml

open Text (digitBelow? numeral? valueIn)

/-! ## Blanks and line ends -/

/-- A blank within a line. -/
def isBlank (c : Char) : Bool := c = ' ' || c = '\t'

/-- A text without leading blanks. -/
def skipBlanks (s : List Char) : List Char := s.dropWhile isBlank

/-- Characters that comments and strings of one line may hold. -/
def isTextChar (c : Char) : Bool := c = '\t' || (0x20 ≤ c.toNat && c.toNat ≠ 0x7F)

/-- Takes a line end off the front. -/
def newline? : List Char → Option (List Char)
  | '\n' :: s => some s
  | '\r' :: '\n' :: s => some s
  | _ => none

/-- A text without a comment at its front. -/
def skipComment (s : List Char) : List Char :=
  match s with
  | '#' :: s => s.dropWhile isTextChar
  | s => s

/-- What follows a line of which only blanks and a comment are left. -/
def lineEnd? (s : List Char) : Option (List Char) :=
  match skipComment (skipBlanks s) with
  | [] => some []
  | s => newline? s

/-- A text without leading blanks, line ends and comments, each comment with its line end.
The fuel bounds their number. -/
def skipLines : Nat → List Char → List Char
  | 0, s => s
  | fuel + 1, s =>
    let s := skipBlanks s
    match newline? (skipComment s) with
    | some rest => skipLines fuel rest
    | none => s

/-! ## Strings -/

/-- The letters that may follow a backslash, with the characters they write. -/
def escapedLetters : List (Char × Char) :=
  [('"', '"'), ('\\', '\\'), ('b', '\x08'), ('f', '\x0c'), ('n', '\n'), ('r', '\r'), ('t', '\t')]

/-- The character of a code point that is written in hexadecimal. -/
def codePoint? (ds : List Char) : Option Char := do
  let n ← numeral? 16 ds
  if n.isValidChar then some (Char.ofNat n) else none

/-- Reads an escape behind its backslash. -/
def escape? : List Char → Option (Char × List Char)
  | 'u' :: s => if s.length < 4 then none else (codePoint? (s.take 4)).map (·, s.drop 4)
  | 'U' :: s => if s.length < 8 then none else (codePoint? (s.take 8)).map (·, s.drop 8)
  | c :: s => (escapedLetters.lookup c).map (·, s)
  | [] => none

/-- Reads a string of one line behind its opening quote. The fuel bounds its length. -/
def basic? : Nat → List Char → Option (List Char × List Char)
  | 0, _ => none
  | _ + 1, [] => none
  | _ + 1, '"' :: s => some ([], s)
  | fuel + 1, '\\' :: s => do
    let (c, s) ← escape? s
    let (cs, s) ← basic? fuel s
    some (c :: cs, s)
  | fuel + 1, c :: s => do
    if !isTextChar c then none
    let (cs, s) ← basic? fuel s
    some (c :: cs, s)

/-- Reads a string of one line without escapes behind its opening quote. -/
def literal? (s : List Char) : Option (List Char × List Char) :=
  let body := s.takeWhile fun c => c ≠ '\'' && isTextChar c
  match s.drop body.length with
  | '\'' :: s => some (body, s)
  | _ => none

/-- Splits the quotes at the front of a text into those that belong to a string of many
lines and the three that close it, if there are three; at most two belong to it then. -/
def closing (quote : Char) (s : List Char) : List Char × Option (List Char) :=
  let run := s.takeWhile (· = quote)
  if run.length < 3 then (run, none)
  else
    let inside := min (run.length - 3) 2
    (run.take inside, some (s.drop (inside + 3)))

/-- What follows a backslash at the end of a line: the text behind all blanks and line
ends. -/
def joinLines? (s : List Char) : Option (List Char) :=
  (newline? (skipBlanks s)).map (skip s.length)
where
  /-- A text without leading blanks and line ends. -/
  skip : Nat → List Char → List Char
    | 0, s => s
    | fuel + 1, s =>
      match newline? (skipBlanks s) with
      | some rest => skip fuel rest
      | none => skipBlanks s

/-- Reads a string of many lines behind its opening quotes and the line end that may
follow them. A line end within it is a line feed. The fuel bounds its length. -/
def manyLines? (quote : Char) (escapes : Bool) : Nat → List Char → Option (List Char × List Char)
  | 0, _ => none
  | _ + 1, [] => none
  | fuel + 1, c :: s =>
    if c = quote then
      match closing quote (c :: s) with
      | (inside, some rest) => some (inside, rest)
      | (inside, none) => do
        let (cs, rest) ← manyLines? quote escapes fuel ((c :: s).drop inside.length)
        some (inside ++ cs, rest)
    else if c = '\\' && escapes then
      match joinLines? s with
      | some rest => manyLines? quote escapes fuel rest
      | none => do
        let (c, s) ← escape? s
        let (cs, s) ← manyLines? quote escapes fuel s
        some (c :: cs, s)
    else
      match newline? (c :: s) with
      | some rest => do
        let (cs, rest) ← manyLines? quote escapes fuel rest
        some ('\n' :: cs, rest)
      | none => do
        if !isTextChar c then none
        let (cs, s) ← manyLines? quote escapes fuel s
        some (c :: cs, s)

/-- Reads a string of any kind. -/
def text? (s : List Char) : Option (List Char × List Char) :=
  match s with
  | '"' :: '"' :: '"' :: s => manyLines? '"' true (s.length + 1) ((newline? s).getD s)
  | '"' :: s => basic? (s.length + 1) s
  | '\'' :: '\'' :: '\'' :: s => manyLines? '\'' false (s.length + 1) ((newline? s).getD s)
  | '\'' :: s => literal? s
  | _ => none

/-! ## Numbers -/

/-- Digits of which neighbours may be separated by an underscore; at least one. -/
def digitsWith? (digit? : Char → Option Nat) (s : List Char) : Option (List Nat) :=
  match s with
  | [] => none
  | [c] => (digit? c).map ([·])
  | c :: '_' :: s => do some ((← digit? c) :: (← digitsWith? digit? s))
  | c :: s => do some ((← digit? c) :: (← digitsWith? digit? s))

/-- A leading sign, `true` for minus. -/
def sign (s : List Char) : Option Bool × List Char := Json.exponentSign s

/-- The digits of a decimal number without a leading zero. -/
def plainDigits? (s : List Char) : Option (List Nat) :=
  (digitsWith? (digitBelow? 10) s).filter fun ds => ds.length = 1 || ds.head? ≠ some 0

/-- An integer. -/
def integer? (s : List Char) : Option Int :=
  match s with
  | '0' :: 'x' :: s => (digitsWith? (digitBelow? 16) s).map fun ds => (valueIn 16 ds : Int)
  | '0' :: 'o' :: s => (digitsWith? (digitBelow? 8) s).map fun ds => (valueIn 8 ds : Int)
  | '0' :: 'b' :: s => (digitsWith? (digitBelow? 2) s).map fun ds => (valueIn 2 ds : Int)
  | s =>
    let (minus, s) := sign s
    (plainDigits? s).map fun ds =>
      if minus = some true then -(valueIn 10 ds : Int) else (valueIn 10 ds : Int)

/-- The document of an integer of sixty-four bits. -/
def integerDocument? (s : List Char) : Option Json :=
  (integer? s).bind fun n =>
    if -0x8000000000000000 ≤ n ∧ n < 0x8000000000000000 then
      some (.number ⟨n < 0, n.natAbs, [], none⟩)
    else none

/-- Decimal digits as digits of a number literal. -/
def toDigits (ds : List Nat) : List (Fin 10) :=
  ds.map fun d => ⟨d % 10, Nat.mod_lt d (by decide)⟩

/-- An exponent behind its letter. -/
def exponent? (s : List Char) : Option Json.Exponent := do
  let (minus?, s) := sign s
  match toDigits (← digitsWith? (digitBelow? 10) s) with
  | [] => none
  | first :: more => some { capital := false, minus?, first, more }

/-- A number with a point or an exponent. A positive one has to be finite. -/
def float? (s : List Char) : Option Json.Number := do
  let (minus, s) := sign s
  let isMark := fun c => c = '.' || c = 'e' || c = 'E'
  let whole := valueIn 10 (← plainDigits? (s.takeWhile (!isMark ·)))
  let (fraction, s) ←
    match s.dropWhile (!isMark ·) with
    | '.' :: s => do
      let isMark := fun c => c = 'e' || c = 'E'
      let digits ← digitsWith? (digitBelow? 10) (s.takeWhile (!isMark ·))
      some (toDigits digits, s.dropWhile (!isMark ·))
    | s => some ([], s)
  let exponent ←
    match s with
    | [] => if fraction.isEmpty then none else some none
    | _ :: s => (exponent? s).map some
  let n : Json.Number := { negative := minus = some true, whole, fraction, exponent }
  if n.negative || n.isFinite then some n else none

/-- The names of infinity and not-a-number, with and without a sign. -/
def specialFloats : List (List Char) :=
  ["inf", "+inf", "-inf", "nan", "+nan", "-nan"].map String.toList

/-! ## Dates and times -/

/-- Takes a number of exactly `n` digits off the front. -/
def fixed? (n : Nat) (s : List Char) : Option (Nat × List Char) := do
  if s.length < n then none
  let ds ← (s.take n).mapM (digitBelow? 10)
  some (valueIn 10 ds, s.drop n)

/-- Takes a character off the front. -/
def char? (c : Char) (s : List Char) : Option (List Char) :=
  match s with
  | d :: s => if d = c then some s else none
  | [] => none

/-- The number of days of a month. -/
def daysOf (year month : Nat) : Nat :=
  if month = 2 then
    if year % 4 = 0 && (year % 100 ≠ 0 || year % 400 = 0) then 29 else 28
  else if [4, 6, 9, 11].contains month then 30
  else 31

/-- Takes a date off the front. -/
def date? (s : List Char) : Option (List Char) := do
  let (year, s) ← fixed? 4 s
  let (month, s) ← fixed? 2 (← char? '-' s)
  let (day, s) ← fixed? 2 (← char? '-' s)
  if 1 ≤ month && month ≤ 12 && 1 ≤ day && day ≤ daysOf year month then some s else none

/-- Takes a time of day off the front; a minute may have a leap second. -/
def time? (s : List Char) : Option (List Char) := do
  let (hour, s) ← fixed? 2 s
  let (minute, s) ← fixed? 2 (← char? ':' s)
  let (second, s) ← fixed? 2 (← char? ':' s)
  if 24 ≤ hour || 60 ≤ minute || 61 ≤ second then none
  match s with
  | '.' :: s =>
    let ds := s.takeWhile Char.isDigit
    if ds.isEmpty then none else some (s.drop ds.length)
  | s => some s

/-- Whether a text is nothing or an offset from universal time. -/
def isOffset (s : List Char) : Bool :=
  match s with
  | [] => true
  | ['Z'] => true
  | ['z'] => true
  | c :: s =>
    (c = '+' || c = '-') &&
      (do
        let (hour, s) ← fixed? 2 s
        let (minute, s) ← fixed? 2 (← char? ':' s)
        some (s.isEmpty && hour < 24 && minute < 60)).getD false

/-- Whether a word is a date, a time of day, or both with or without an offset. -/
def isMoment (s : List Char) : Bool :=
  match date? s with
  | some [] => true
  | some (c :: s) =>
    (c = 'T' || c = 't' || c = ' ') && (time? s).elim false isOffset
  | none => time? s = some []

/-- The document of a date or a time. -/
def momentDocument (s : List Char) : Json :=
  .object [("date-time", .text (String.ofList s))]

/-! ## Words -/

/-- Whether a character ends a word. -/
def endsWord (c : Char) : Bool :=
  isBlank c || c = '\n' || c = '\r' || c = ',' || c = ']' || c = '\x7d' || c = '#'

/-- Takes a word off the front. A date and a time of day behind one blank are one word. -/
def word (s : List Char) : List Char × List Char :=
  let first := s.takeWhile (!endsWord ·)
  let rest := s.drop first.length
  match rest with
  | ' ' :: s =>
    let second := s.takeWhile (!endsWord ·)
    if date? first = some [] && (fixed? 2 second).isSome then
      (first ++ ' ' :: second, s.drop second.length)
    else (first, rest)
  | _ => (first, rest)

/-- The document of a word. -/
def wordDocument? (s : List Char) : Option Json :=
  if s = "true".toList then some (.bool true)
  else if s = "false".toList then some (.bool false)
  else if specialFloats.contains s then some .garbled
  else if isMoment s then some (momentDocument s)
  else (integerDocument? s).orElse fun _ => (float? s).map .number

end FilterSync.Toml
