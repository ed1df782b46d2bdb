import FilterSync.Json.Basic

/-!
# Magnitudes of numbers

Whether a number is in the range of floating point numbers of sixty-four bits. There are two
answers. The exact one asks for the nearest floating point number. The other one takes a
number as a significand of sixty-four bits that is scaled by a power of ten: of more digits
than the significand has room for, only the first ones are kept, and the significand, the
power, and their product are each rounded. Near the limit the two may differ.
-/

namespace FilterSync.Json

/-- The number that an exponent writes. -/
def Exponent.value (e : Exponent) : Int :=
  let size : Nat := (e.first :: e.more).foldl (fun k d => 10 * k + d.val) 0
  if e.minus? = some true then -size else size

/-- The power of ten that an exponent stands for, zero without one. -/
def Number.power (n : Number) : Int := n.exponent.elim 0 Exponent.value

/-! ## The nearest floating point number -/

/-- The digits of a number without the point, and the power of ten they are scaled by. -/
def Number.digits (n : Number) : Nat × Int :=
  (n.fraction.foldl (fun k d => 10 * k + d.val) n.whole, n.power - n.fraction.length)

/-- Whether the nearest floating point number is finite: a number has to be below `2^1024` by
more than half of its last place. Only numbers from `10^308` up to `10^309` have to be compared
digit by digit. -/
def Number.isFinite (n : Number) : Bool :=
  let (digits, exponent) := n.digits
  let size := (Nat.toDigits 10 digits).length + exponent
  if digits = 0 || size ≤ 308 then true
  else if 310 ≤ size then false
  else
    digits * Nat.pow 10 exponent.toNat <
      (Nat.pow 2 1024 - Nat.pow 2 970) * Nat.pow 10 (-exponent).toNat

/-! ## Scaling a significand -/

/-- The nearest number of fifty-three significant binary digits; a tie goes to the even one. -/
def roundBinary (n : Nat) : Nat :=
  let unit := Nat.pow 2 (n.log2 + 1 - 53)
  let low := n / unit
  let rest := 2 * (n % unit)
  if unit < rest || (unit = rest && low % 2 = 1) then (low + 1) * unit else low * unit

/-- The leading digits of a number that sixty-four bits have room for, and how many digits
are left out. -/
def leadingDigits (n : Nat) : Nat × Nat :=
  if n < UInt64.size then (n, 0)
  else
    let (m, k) := leadingDigits (n / 10)
    (m, k + 1)
termination_by n
decreasing_by
  next h => exact Nat.div_lt_self (Nat.lt_of_lt_of_le (by decide) (Nat.not_lt.1 h)) (by decide)

theorem leadingDigits_lt (n : Nat) : (leadingDigits n).1 < UInt64.size := by
  fun_induction leadingDigits n with
  | case1 n h => exact h
  | case2 n h m k heq ih => simpa [heq] using ih

/-- A number with the further digits behind it that there is room for, and how many they
are. -/
def appendDigits (n : Nat) : List (Fin 10) → Nat × Nat
  | [] => (n, 0)
  | d :: ds =>
    if 10 * n + d.val < UInt64.size then
      let (m, k) := appendDigits (10 * n + d.val) ds
      (m, k + 1)
    else (n, 0)

/-- The significand of a number and the power of ten that it is scaled by. -/
def Number.scaled (n : Number) : Nat × Int :=
  let (whole, dropped) := leadingDigits n.whole
  let (significand, places) := appendDigits whole n.fraction
  (significand, n.power + dropped - places)

/-- Whether scaling its significand keeps a number finite. -/
def Number.isScalable (n : Number) : Bool :=
  let (significand, exponent) := n.scaled
  let power := exponent.toNat
  significand = 0 || exponent < 0 ||
    (power ≤ 308 &&
      roundBinary (roundBinary significand * roundBinary (Nat.pow 10 power)) < Nat.pow 2 1024)

example : roundBinary 9007199254740993 = 9007199254740992 := by decide +kernel

example : leadingDigits 18446744073709551616 = (1844674407370955161, 1) := by decide +kernel

end FilterSync.Json
