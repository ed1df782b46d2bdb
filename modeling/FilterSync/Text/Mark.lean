import FilterSync.Text.Mark.Classes
import FilterSync.Text.Mark.Ranges
import FilterSync.Text.Range

/-!
# Combining marks

A mark combines with the character in front of it: an accent, a vowel sign, or the sign that
takes the vowel away from a consonant.
-/

namespace FilterSync.Text

/-- Whether a character is a mark that takes no room of its own. -/
def isNonspacing (c : Char) : Bool := isIn nonspacingRanges c

/-- Whether a character is a mark. -/
def isMark (c : Char) : Bool := isNonspacing c || isIn spacingRanges c

/-- The combining class of a character; most are of class zero. -/
def combiningClass (c : Char) : Nat :=
  match classRanges.find? fun (first, last, _) => first ≤ c.toNat && c.toNat ≤ last with
  | some (_, _, k) => k
  | none => 0

/-- Whether a character takes the vowel away from the consonant in front of it. -/
def isVirama (c : Char) : Bool := combiningClass c = 9

end FilterSync.Text
