/-!
# Digits

Letters count as the digits from ten on, in either case. A number is written by its
digits in some base, the most significant first.
-/

namespace FilterSync.Text

/-- The value of a digit below a base of at most thirty-six. -/
def digitBelow? (base : Nat) (c : Char) : Option Nat :=
  let value :=
    if c.isDigit then c.toNat - '0'.toNat
    else if c.isLower then c.toNat - 'a'.toNat + 10
    else if c.isUpper then c.toNat - 'A'.toNat + 10
    else base
  if value < base then some value else none

/-- The value of a hexadecimal digit. -/
def hexDigit? (c : Char) : Option Nat := digitBelow? 16 c

/-- The number of some digits. -/
def valueIn (base : Nat) (ds : List Nat) : Nat := ds.foldl (fun n d => base * n + d) 0

/-- The number that a text writes; no digits write zero. -/
def numeral? (base : Nat) (s : List Char) : Option Nat :=
  (s.mapM (digitBelow? base)).map (valueIn base)

theorem digitBelow?_lt {base d : Nat} {c : Char} (h : digitBelow? base c = some d) :
    d < base := by
  obtain ⟨hlt, heq⟩ := Option.ite_none_right_eq_some.1 h
  exact Option.some.inj heq ▸ hlt

theorem valueIn_concat (base : Nat) (ds : List Nat) (d : Nat) :
    valueIn base (ds ++ [d]) = base * valueIn base ds + d := by
  simp [valueIn]

example : numeral? 16 "0fF".toList = some 255 ∧ numeral? 8 "08".toList = none := by decide

end FilterSync.Text
