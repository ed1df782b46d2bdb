import FilterSync.Text.Digit

/-!
# Decoding Punycode

A label of a domain name with characters beyond ASCII is written in ASCII: its ASCII
characters, a hyphen, and numbers in base thirty-six that say which characters are to be
inserted and where. A number says how far to go on in the enumeration of all pairs of a
character and a place; its digits have thresholds that adapt to the numbers before.
-/

namespace FilterSync.Url.Punycode

/-- The threshold of a digit: a digit below it is the last of its number. -/
def threshold (place bias : Nat) : Nat :=
  if place ≤ bias + 1 then 1 else min 26 (place - bias)

/-- Divides by the span of the digits until a number is small, with the places passed. -/
def reduce (n places : Nat) : Nat × Nat :=
  if 455 < n then reduce (n / 35) (places + 36) else (n, places)
termination_by n
decreasing_by exact Nat.div_lt_self (by omega) (by decide)

/-- The bias behind a number that led to a text of the given length. -/
def adapt (n length : Nat) (isFirst : Bool) : Nat :=
  let n := if isFirst then n / 700 else n / 2
  let (n, places) := reduce (n + n / length) 0
  places + 36 * n / (n + 38)

/-- How far a label is decoded. -/
structure Progress where
  /-- The characters so far. -/
  text : List Char
  /-- The least character that may be inserted next, and the place from which on. -/
  point : Nat := 0x80
  start : Nat := 0
  bias : Nat := 72
  /-- The number that is being read: its digits so far on top of `start`, the weight of
  its next digit, and the place of that digit. -/
  sum : Nat := 0
  weight : Nat := 1
  place : Nat := 36

/-- What a digit does. -/
def Progress.digit? (p : Progress) (d : Nat) : Option Progress :=
  let least := threshold p.place p.bias
  let sum := p.sum + d * p.weight
  if least ≤ d then
    some { p with sum, weight := p.weight * (36 - least), place := p.place + 36 }
  else
    let length := p.text.length + 1
    let point := p.point + sum / length
    let spot := sum % length
    if point.isValidChar then
      some
        { text := p.text.take spot ++ Char.ofNat point :: p.text.drop spot
          point, start := spot + 1, sum := spot + 1
          bias := adapt (sum - p.start) length (p.start = 0) }
    else none

/-- The value of a digit: letters first. -/
def digit? (c : Char) : Option Nat :=
  (Text.digitBelow? 36 c).map fun n => if n < 10 then n + 26 else n - 10

/-- Reads digits. The last number has to be complete. -/
def insertions? : Progress → List Char → Option (List Char)
  | p, [] => if p.place = 36 then some p.text else none
  | p, c :: s => do insertions? (← p.digit? (← digit? c)) s

/-- The label that an ASCII text encodes. -/
def decode? (s : List Char) : Option (List Char) :=
  let tail := (s.reverse.takeWhile (· ≠ '-')).reverse
  let text := s.take (s.length - tail.length - 1)
  insertions? { text } (if text.isEmpty then s else tail)

example : decode? "bcher-kva".toList = some "bücher".toList := by decide +kernel

example : decode? "zckzah".toList = some "テスト".toList := by decide +kernel

end FilterSync.Url.Punycode
