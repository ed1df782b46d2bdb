import FilterSync.Text.Composite.Pairs
import FilterSync.Text.Mark

/-!
# Composite characters

A letter with a mark can often be written by one character or by two, and the marks on one
letter in several orders. The canonical text of all these spellings writes as few characters
as it can and sorts marks that do not meet by their classes.
-/

namespace FilterSync.Text

/-- Code points of the first syllable of Hangul, of the first initial and vowel, and of the
character before the first final. There are 19 initials, 21 vowels and 27 finals. -/
def firstSyllable : Nat := 0xAC00
def firstInitial : Nat := 0x1100
def firstVowel : Nat := 0x1161
def noFinal : Nat := 0x11A7

/-- The two parts of a composite character. -/
def parts? (c : Char) : Option (Char × Char) :=
  let n := c.toNat - firstSyllable
  if firstSyllable ≤ c.toNat && n < 19 * 21 * 28 then
    if n % 28 = 0 then
      some (Char.ofNat (firstInitial + n / 28 / 21), Char.ofNat (firstVowel + n / 28 % 21))
    else some (Char.ofNat (c.toNat - n % 28), Char.ofNat (noFinal + n % 28))
  else
    (compositePairs.find? (·.1 = c.toNat)).map fun (_, a, b) => (Char.ofNat a, Char.ofNat b)

/-- The composite character of two parts. -/
def composite? (a b : Char) : Option Char :=
  let initial := a.toNat - firstInitial
  let vowel := b.toNat - firstVowel
  let syllable := a.toNat - firstSyllable
  let final := b.toNat - noFinal
  if firstInitial ≤ a.toNat && initial < 19 && firstVowel ≤ b.toNat && vowel < 21 then
    some (Char.ofNat (firstSyllable + (initial * 21 + vowel) * 28))
  else if firstSyllable ≤ a.toNat && syllable < 19 * 21 * 28 && syllable % 28 = 0 &&
      noFinal < b.toNat && final < 28 then
    some (Char.ofNat (a.toNat + final))
  else
    (compositePairs.find? fun (_, x, y) => x = a.toNat && y = b.toNat).map (Char.ofNat ·.1)

/-- The characters that a character is composed of, taken apart as often as `depth` says. -/
def takeApart (depth : Nat) (c : Char) : List Char :=
  match depth with
  | 0 => [c]
  | depth + 1 =>
    match parts? c with
    | some (a, b) => takeApart depth a ++ [b]
    | none => [c]

/-- The characters that a character is composed of. No character is composed of more than
four. -/
def decompose (c : Char) : List Char :=
  if c.toNat < 0x80 then [c] else takeApart 3 c

/-- A text with one more character in front, which is moved behind the marks that have to
come first. -/
def sink (c : Char) : List Char → List Char
  | [] => [c]
  | d :: s =>
    let k := combiningClass d
    if k ≠ 0 && k < combiningClass c then d :: sink c s else c :: d :: s

/-- A text in which neighbouring marks are sorted by their classes. -/
def sortMarks : List Char → List Char
  | [] => []
  | c :: s => sink c (sortMarks s)

theorem sink_perm (c : Char) (s : List Char) : (sink c s).Perm (c :: s) := by
  induction s with
  | nil => exact List.Perm.refl _
  | cons d s ih =>
    simp only [sink]
    split
    · exact (ih.cons d).trans (List.Perm.swap c d s)
    · exact List.Perm.refl _

/-- Sorting neither adds nor loses a character. -/
theorem sortMarks_perm (s : List Char) : (sortMarks s).Perm s := by
  induction s with
  | nil => exact List.Perm.refl _
  | cons c s ih => exact (sink_perm c (sortMarks s)).trans (ih.cons c)

/-- Composes a text, where `start` is the character that a mark would compose with and
`kept` holds the marks behind it that did not compose, the last one first. -/
def composeFrom (start : Char) (kept : List Char) : List Char → List Char
  | [] => start :: kept.reverse
  | c :: s =>
    let k := combiningClass c
    let reaches := kept.head?.all (combiningClass · < k)
    match if reaches then composite? start c else none with
    | some d => composeFrom d kept s
    | none =>
      if k = 0 then start :: kept.reverse ++ composeFrom c [] s
      else composeFrom start (c :: kept) s

/-- A text with as few characters as can be. -/
def compose : List Char → List Char
  | [] => []
  | c :: s => composeFrom c [] s

/-- The canonical spelling of a text. -/
def canonical (s : List Char) : List Char :=
  compose (sortMarks (s.flatMap decompose))

example : canonical "e\u0301".toList = "é".toList := by decide +kernel

example : canonical "각".toList = "각".toList := by decide +kernel

example : canonical "q\u0307\u0323".toList = "q\u0323\u0307".toList := by decide +kernel

end FilterSync.Text
