import FilterSync.Text.Digit
import FilterSync.Text.Search

/-!
# IPv6 addresses

An address has eight pieces of sixteen bits in hexadecimal. The last two may be written
as four decimal bytes, and one run of zeros may be left out between two colons.
-/

namespace FilterSync.Url.Ipv6

open Text (after? numeral? pieces)

/-- The number of a piece: one to four hexadecimal digits. -/
def piece? (s : List Char) : Option Nat :=
  if s.isEmpty || 4 < s.length then none else numeral? 16 s

/-- The number of a decimal byte, without leading zeros. -/
def byte? (s : List Char) : Option Nat :=
  if s.isEmpty || (1 < s.length && s.head? = some '0') then none
  else (numeral? 10 s).filter (· < 0x100)

/-- The two pieces that four decimal bytes write. -/
def fromBytes? (s : List Char) : Option (List Nat) := do
  match ← (pieces '.' s).mapM byte? with
  | [a, b, c, d] => some [a * 0x100 + b, c * 0x100 + d]
  | _ => none

/-- The pieces that colons separate; decimal bytes may stand for the last two. -/
def run? : List (List Char) → Option (List Nat)
  | [] => some []
  | [s] => ((piece? s).map ([·])).orElse fun _ => fromBytes? s
  | s :: more => do some ((← piece? s) :: (← run? more))

/-- The pieces of a part of an address, which may be empty. -/
def part? (s : List Char) : Option (List Nat) :=
  if s.isEmpty then some [] else run? (pieces ':' s)

/-- Splits a text at the first two neighbouring colons. -/
def splitGap : List Char → Option (List Char × List Char)
  | [] => none
  | c :: s =>
    match after? [':', ':'] (c :: s) with
    | some rest => some ([], rest)
    | none => (splitGap s).map fun (front, rest) => (c :: front, rest)

/-- The eight pieces of the address that a text writes. -/
def parse? (s : List Char) : Option (List Nat) :=
  match splitGap s with
  | none => (part? s).filter (·.length = 8)
  | some (front, back) => do
    let front ← frontPart? front
    let back ← part? back
    if front.length + back.length < 8 then
      some (front ++ List.replicate (8 - front.length - back.length) 0 ++ back)
    else none
where
  /-- The pieces in front of a gap; no decimal bytes there. -/
  frontPart? (s : List Char) : Option (List Nat) :=
    if s.isEmpty then some [] else (pieces ':' s).mapM piece?

example : parse? "::1.2.3.4".toList = some [0, 0, 0, 0, 0, 0, 0x102, 0x304] := by decide

example : parse? "1:2:3:4:5:6:7::".toList = some [1, 2, 3, 4, 5, 6, 7, 0] := by decide

example : parse? "1:2:3:4:5:6:7:8:".toList = none ∧ parse? ":::".toList = none := by decide

end FilterSync.Url.Ipv6
