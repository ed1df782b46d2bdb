/-!
# UTF-8

Bytes are read one at a time. A byte either is a character, begins one of two to four
bytes, or continues one. Where a byte does neither, the bytes that could have begun a
character up to there are one undecodable piece, and reading goes on with that byte. So
an undecodable piece never swallows a byte that could begin a character, a line feed
least of all.
-/

namespace FilterSync.Text

/-- A character of which some bytes are still to come. -/
structure Partial where
  /-- The bits read so far. -/
  value : Nat
  /-- How many bytes are still to come, less one. -/
  more : Nat
  /-- The least and the greatest byte that may come next. -/
  low : UInt8
  high : UInt8
  deriving DecidableEq, Repr

/-- What a byte means where a character may begin: a character, an undecodable byte, or
the beginning of a character. -/
def firstByte (b : UInt8) : Option (Option Char) × Option Partial :=
  if b < 0x80 then (some (some (Char.ofNat b.toNat)), none)
  else if 0xC2 ≤ b ∧ b ≤ 0xDF then (none, some ⟨b.toNat - 0xC0, 0, 0x80, 0xBF⟩)
  else if b = 0xE0 then (none, some ⟨0, 1, 0xA0, 0xBF⟩)
  else if b = 0xED then (none, some ⟨0xD, 1, 0x80, 0x9F⟩)
  else if 0xE1 ≤ b ∧ b ≤ 0xEF then (none, some ⟨b.toNat - 0xE0, 1, 0x80, 0xBF⟩)
  else if b = 0xF0 then (none, some ⟨0, 2, 0x90, 0xBF⟩)
  else if 0xF1 ≤ b ∧ b ≤ 0xF3 then (none, some ⟨b.toNat - 0xF0, 2, 0x80, 0xBF⟩)
  else if b = 0xF4 then (none, some ⟨4, 2, 0x80, 0x8F⟩)
  else (some none, none)

/-- What a byte means where a character goes on; none if it does not continue it. -/
def nextByte (p : Partial) (b : UInt8) : Option (Option (Option Char) × Option Partial) :=
  if p.low ≤ b ∧ b ≤ p.high then
    let value := p.value * 0x40 + (b.toNat - 0x80)
    match p.more with
    | 0 => some (some (some (Char.ofNat value)), none)
    | n + 1 => some (none, some ⟨value, n, 0x80, 0xBF⟩)
  else none

/-- The characters of bytes behind the beginning of a character, if one has begun; none
for each undecodable piece. -/
def decodeFrom (begun : Option Partial) : List UInt8 → List (Option Char)
  | [] => if begun.isSome then [none] else []
  | b :: bs =>
    match begun.bind (nextByte · b) with
    | some (piece, begun) => piece.toList ++ decodeFrom begun bs
    | none =>
      let (piece, next) := firstByte b
      (if begun.isSome then [none] else []) ++ (piece.toList ++ decodeFrom next bs)

/-- Stands for an undecodable piece. -/
def replacement : Char := '\uFFFD'

/-- The text of bytes, with the replacement character for each undecodable piece. -/
def decodeLossy (bytes : List UInt8) : List Char :=
  (decodeFrom none bytes).map (·.getD replacement)

/-- The text of bytes that have no undecodable piece. -/
def decode? (bytes : List UInt8) : Option (List Char) :=
  (decodeFrom none bytes).mapM id

/-- The bytes of a character. -/
def encodeChar (c : Char) : List UInt8 :=
  let n := c.toNat
  if n < 0x80 then [UInt8.ofNat n]
  else if n < 0x800 then [UInt8.ofNat (0xC0 + n / 0x40), UInt8.ofNat (0x80 + n % 0x40)]
  else if n < 0x10000 then
    [UInt8.ofNat (0xE0 + n / 0x1000), UInt8.ofNat (0x80 + n / 0x40 % 0x40),
      UInt8.ofNat (0x80 + n % 0x40)]
  else
    [UInt8.ofNat (0xF0 + n / 0x40000), UInt8.ofNat (0x80 + n / 0x1000 % 0x40),
      UInt8.ofNat (0x80 + n / 0x40 % 0x40), UInt8.ofNat (0x80 + n % 0x40)]

example : decodeLossy [0x43, 0xE9, 0x0A, 0xE2, 0x82, 0x41, 0xF0, 0x9F] =
    ['C', replacement, '\n', replacement, 'A', replacement] := by decide

example : decode? ("aß€😀".toList.flatMap encodeChar) = some "aß€😀".toList := by decide

end FilterSync.Text
