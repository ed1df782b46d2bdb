import FilterSync.Text.Composite
import FilterSync.Text.Search
import FilterSync.Url.Domain.Refused
import FilterSync.Url.Domain.Words

/-!
# Mapping of domain names

Each character of a domain name is replaced by what it stands for, passed over, or refused,
and the text that comes out is brought into its canonical spelling.
-/

namespace FilterSync.Url.Domain

open Text (isIn)

/-- Code points of the characters that are passed over. -/
def ignoredRanges : List (Nat × Nat) :=
  [(0xAD, 0xAD), (0x34F, 0x34F), (0x115F, 0x1160), (0x17B4, 0x17B5), (0x180B, 0x180F),
    (0x200B, 0x200B), (0x2060, 0x2064), (0x206A, 0x206F), (0x3164, 0x3164), (0xFE00, 0xFE0F),
    (0xFEFF, 0xFEFF), (0xFFA0, 0xFFA0), (0x1BCA0, 0x1BCA3), (0x1D173, 0x1D17A),
    (0xE0100, 0xE01EF)]

/-- What a character of a run stands for. -/
def Run.target? (r : Run) (c : Char) : Option Char :=
  let n := c.toNat - r.first
  if r.first ≤ c.toNat && n < r.length * r.stride && n % r.stride = 0 then
    some (Char.ofNat (r.target + n))
  else none

/-- The words one by one. -/
def wordLists : List (Nat × List (List Char)) :=
  words.map fun (first, text) => (first, Text.pieces ' ' text.toList)

/-- The word that a character stands for. -/
def word? (c : Char) : Option (List Char) :=
  wordLists.findSome? fun (first, ws) =>
    if first ≤ c.toNat then ws[c.toNat - first]? else none

/-- What a character is replaced by, unless it is refused. -/
def mapped? (c : Char) : Option (List Char) :=
  if c.toNat < 0x80 then some [c.toLower]
  else if isIn ignoredRanges c then some []
  else if isIn refusedRanges c then none
  else
    match runs.findSome? (·.target? c) with
    | some d => some [d]
    | none => some ((word? c).getD [c])

/-- Whether a character stands for itself. -/
def isLasting (c : Char) : Bool := mapped? c = some [c]

/-- The mapped form of a text. -/
def mappedText? (s : List Char) : Option (List Char) :=
  (s.mapM mapped?).map fun words => Text.canonical words.flatten

/-- Whether a text is its own mapped form and has no character that is passed over. -/
def isMapped (s : List Char) : Bool := s.all isLasting && Text.canonical s = s

end FilterSync.Url.Domain
