import FilterSync.Json.Basic

/-!
# Writing JSON

A document is written without blanks. In a string the quote, the backslash and the
characters below U+0020 are escaped, with a letter where there is one and with four
lower-case hexadecimal digits otherwise; every other character stands for itself.
-/

namespace FilterSync.Json

/-- The characters that an escape of one letter writes, with that letter. -/
def letterEscapes : List (Char × Char) :=
  [('"', '"'), ('\\', '\\'), ('\x08', 'b'), ('\x0c', 'f'), ('\n', 'n'), ('\r', 'r'), ('\t', 't')]

/-- One character of a string literal. -/
def escape (c : Char) : List Char :=
  match letterEscapes.lookup c with
  | some letter => ['\\', letter]
  | none =>
    if c.toNat < 0x20 then
      ['\\', 'u', '0', '0', Nat.digitChar (c.toNat / 16), Nat.digitChar (c.toNat % 16)]
    else [c]

/-- The string literal of a text. -/
def quote (s : String) : List Char :=
  '"' :: (s.toList.flatMap escape ++ ['"'])

/-- A digit. -/
def digit (d : Fin 10) : Char := Nat.digitChar d.val

/-- The exponent of a number literal. -/
def Exponent.render (e : Exponent) : List Char :=
  (if e.capital then 'E' else 'e') ::
    ((match e.minus? with
      | none => []
      | some false => ['+']
      | some true => ['-']) ++ digit e.first :: e.more.map digit)

/-- A number literal. -/
def Number.render (n : Number) : List Char :=
  (if n.negative then ['-'] else []) ++ Nat.toDigits 10 n.whole ++
    (if n.fraction.isEmpty then [] else '.' :: n.fraction.map digit) ++
    (n.exponent.elim [] Exponent.render)

mutual

/-- The text of a document. -/
def chars : Json → List Char
  | null => "null".toList
  | bool true => "true".toList
  | bool false => "false".toList
  | number n => n.render
  | text s => quote s
  | garbled => "\"\\ud800\"".toList
  | array items => '[' :: (itemChars items ++ [']'])
  | object members => '\x7b' :: (memberChars members ++ ['\x7d'])

/-- The items of an array, separated by commas. -/
def itemChars : List Json → List Char
  | [] => []
  | [j] => chars j
  | j :: js => chars j ++ ',' :: itemChars js

/-- The members of an object, separated by commas. -/
def memberChars : List (String × Json) → List Char
  | [] => []
  | [(name, j)] => quote name ++ ':' :: chars j
  | (name, j) :: ms => quote name ++ ':' :: (chars j ++ ',' :: memberChars ms)

end

/-! The equations of the mutual block, which simplification cannot derive in reasonable time. -/

theorem chars_array (items : List Json) :
    chars (.array items) = '[' :: (itemChars items ++ [']']) := rfl

theorem chars_object (members : List (String × Json)) :
    chars (.object members) = '\x7b' :: (memberChars members ++ ['\x7d']) := rfl

theorem itemChars_singleton (j : Json) : itemChars [j] = chars j := rfl

theorem itemChars_cons (j j' : Json) (js : List Json) :
    itemChars (j :: j' :: js) = chars j ++ ',' :: itemChars (j' :: js) := rfl

theorem memberChars_singleton (name : String) (j : Json) :
    memberChars [(name, j)] = quote name ++ ':' :: chars j := rfl

theorem memberChars_cons (name : String) (j : Json) (m : String × Json)
    (ms : List (String × Json)) :
    memberChars ((name, j) :: m :: ms) =
      quote name ++ ':' :: (chars j ++ ',' :: memberChars (m :: ms)) := rfl

/-- Writes a document. -/
def render (j : Json) : String :=
  String.ofList (chars j)

end FilterSync.Json
