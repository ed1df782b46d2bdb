/-!
# Ranges of characters

A set of characters is given by the closed ranges of their code points.
-/

namespace FilterSync.Text

/-- Whether a character is in one of some ranges. -/
def isIn (ranges : List (Nat × Nat)) (c : Char) : Bool :=
  ranges.any fun r => r.1 ≤ c.toNat && c.toNat ≤ r.2

theorem isIn_append (xs ys : List (Nat × Nat)) (c : Char) :
    isIn (xs ++ ys) c = (isIn xs c || isIn ys c) := by
  simp [isIn]

end FilterSync.Text
