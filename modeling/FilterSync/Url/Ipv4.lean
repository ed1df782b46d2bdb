import FilterSync.Text.Digit
import FilterSync.Text.Search

/-!
# IPv4 addresses

An address has up to four parts, in decimal, or in octal or hexadecimal with a lead. The
last part fills all bytes that the others leave. A host whose last part is a number has
to be an address.
-/

namespace FilterSync.Url.Ipv4

open Text (numeral? pieces)

/-- The number that a part writes. A lead alone writes zero. -/
def part? (s : List Char) : Option Nat :=
  match s with
  | [] => none
  | '0' :: 'x' :: s => numeral? 16 s
  | '0' :: 'X' :: s => numeral? 16 s
  | ['0'] => some 0
  | '0' :: s => numeral? 8 s
  | s => numeral? 10 s

/-- The parts of a host; a full stop at its end is passed over. -/
def parts (host : List Char) : List (List Char) :=
  let ps := pieces '.' host
  if ps.getLast? = some [] then ps.dropLast else ps

/-- Whether the last part of a host is a number. Decimal digits are one even where they
make up no part of an address. -/
def endsInNumber (host : List Char) : Bool :=
  match (parts host).getLast? with
  | none => false
  | some last => (!last.isEmpty && last.all Char.isDigit) || (part? last).isSome

/-- The address that a host writes. -/
def parse? (host : List Char) : Option Nat := do
  let numbers ← (parts host).mapM part?
  let last ← numbers.getLast?
  let bytes := numbers.dropLast
  let size := Nat.pow 0x100 (4 - bytes.length)
  if bytes.length < 4 ∧ (∀ b ∈ bytes, b < 0x100) ∧ last < size then
    some (Text.valueIn 0x100 bytes * size + last)
  else none

example : parse? "0x7f.1".toList = parse? "127.0.0.1".toList := by decide

example : endsInNumber "1.2.3.08".toList ∧ parse? "1.2.3.08".toList = none := by decide

example : parse? "255.16777216".toList = none := by decide

end FilterSync.Url.Ipv4
