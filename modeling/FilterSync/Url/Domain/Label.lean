import FilterSync.Text.Direction
import FilterSync.Text.Joining
import FilterSync.Text.Mark
import FilterSync.Url.Domain.Mapping
import FilterSync.Url.Punycode

/-!
# Labels of domain names

A label does not begin with a mark, its joiners stand where they matter, and it is not too
long to be encoded. A label that begins with `xn--` encodes one with a character beyond ASCII.

Where a label of a name has a character written from right to left, all of its labels have
to begin with a letter, to keep to one direction, and to end so that the next label is seen
to come next.
-/

namespace FilterSync.Url.Domain

open Text (Direction Joining direction joining)

/-- Whether a character of ASCII may not stand in a domain name. -/
def isRefusedAscii (c : Char) : Bool :=
  c.toNat ≤ 0x20 || c.toNat = 0x7F || "%#/:<>?@[\\]^|".toList.contains c

/-- A character that keeps its neighbours from being joined, and one that joins them. -/
def nonJoiner : Char := '\u200C'
def joiner : Char := '\u200D'

/-- Whether the first character that is not transparent to joining joins in one of some
ways. -/
def reaches (ways : List Joining) (s : List Char) : Bool :=
  ((s.map joining).find? (· ≠ .transparent)).any ways.contains

/-- Whether each joiner of a text stands behind a sign that takes a vowel away, or keeps
apart letters that would be joined. The text in front is given from its end on. -/
def joinersMatter (before : List Char) : List Char → Bool
  | [] => true
  | c :: s =>
    let matters := before.head?.any Text.isVirama ||
      c = nonJoiner && reaches [.left, .both] before && reaches [.right, .both] s
    (matters || c ≠ nonJoiner && c ≠ joiner) && joinersMatter (c :: before) s

/-- The greatest length of a label that is to be encoded, and of a code to be decoded. -/
def maxDecoded : Nat := 1000
def maxEncoded : Nat := 2000

/-- Whether a mapped text may be a label, but for its directions. -/
def isPlainLabel (s : List Char) : Bool :=
  !s.any isRefusedAscii && !s.head?.any Text.isMark && joinersMatter [] s &&
    (s.all (·.toNat < 0x80) || s.length ≤ maxDecoded)

/-- The label that a mapped text is or encodes. -/
def label? (s : List Char) : Option (List Char) :=
  match Text.after? "xn--".toList s with
  | none => if isPlainLabel s then some s else none
  | some code => do
    if !code.all (·.toNat < 0x80) || maxEncoded < code.length then none
    let label ← Punycode.decode? code
    if label.any (0x80 ≤ ·.toNat) && isMapped label && isPlainLabel label then some label
    else none

/-- Whether a label asks for the directions of all labels to be looked at. -/
def runsLeft (label : List Char) : Bool :=
  label.any fun c => direction c = .right || direction c = .arabic

/-- Whether a label keeps to one direction. -/
def keepsDirection (label : List Char) : Bool :=
  match label.map direction with
  | [] => true
  | first :: rest =>
    let rest := (rest.reverse.dropWhile (· = .mark)).reverse
    match first with
    | .left =>
      rest.getLast?.all (fun d => d = .left || d = .european) &&
        !rest.contains .right && !rest.contains .arabic
    | .right =>
      rest.getLast?.all (fun d => d = .right || d = .european || d = .arabic) &&
        !rest.contains .left && !(rest.contains .european && rest.contains .arabic)
    | _ => false

end FilterSync.Url.Domain
