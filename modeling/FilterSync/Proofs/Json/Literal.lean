import FilterSync.Json.Printer
import FilterSync.Json.Reader

/-!
# Literals read back

A number or a string that was written is read back as itself, whatever stands behind it,
as long as that cannot be taken for more of the literal. Nothing can for a string, which
has a closing quote; for a number nothing can that begins with another character than a
digit, a point, or the `e` of an exponent.

Main statements: `number?_render` and `literal?_quote`.
-/

namespace FilterSync.Json

/-! ## Runs of digits -/

/-- A text that does not go on with a digit. -/
def EndsDigits (rest : List Char) : Prop := ∀ c s, rest = c :: s → digit? c = none

/-- A text that does not go on with more of a number. -/
def EndsNumber (rest : List Char) : Prop :=
  ∀ c s, rest = c :: s → digit? c = none ∧ c ≠ '.' ∧ c ≠ 'e' ∧ c ≠ 'E'

theorem EndsNumber.endsDigits {rest : List Char} (h : EndsNumber rest) : EndsDigits rest :=
  fun c s hc => (h c s hc).1

theorem endsNumber_nil : EndsNumber [] := by
  intro c s h
  cases h

/-- What may follow an item of an array or a member of an object ends a number. -/
theorem endsNumber_of_mem {c : Char} {rest : List Char} (h : c ∈ [',', ']', '\x7d']) :
    EndsNumber (c :: rest) := by
  intro c' s hc
  cases hc
  revert h
  simp only [List.mem_cons, List.not_mem_nil, or_false]
  rintro (rfl | rfl | rfl) <;> decide

theorem digit?_digit : ∀ d : Fin 10, digit? (digit d) = some d := by decide

/-- A written digit is no sign. -/
theorem digit_ne : ∀ d : Fin 10, digit d ≠ '-' ∧ digit d ≠ '+' := by decide

theorem digits_map_digit {ds : List (Fin 10)} {rest : List Char} (h : EndsDigits rest) :
    digits (ds.map digit ++ rest) = (ds, rest) := by
  induction ds with
  | nil =>
    cases rest with
    | nil => rfl
    | cons c s => simp [digits, h c s rfl]
  | cons d ds ih => simp [digits, digit?_digit, ih]

/-- The decimal digits of a number: they write it, and do not begin with `0` but for `0`
itself. -/
theorem toDigits_eq_map (n : Nat) :
    ∃ d ds, Nat.toDigits 10 n = (d :: ds).map digit ∧ digitsValue (d :: ds) = n ∧
      (d = 0 → ds = []) := by
  induction n using Nat.strongRecOn with
  | ind n ih =>
    by_cases hn : n < 10
    · refine ⟨⟨n, hn⟩, [], ?_, ?_, fun _ => rfl⟩
      · rw [Nat.toDigits_of_lt_base hn]
        rfl
      · simp [digitsValue]
    · have hlt : n / 10 < n := Nat.div_lt_self (by omega) (by decide)
      obtain ⟨d, ds, hds, hvalue, hzero⟩ := ih (n / 10) hlt
      have hmod : n % 10 < 10 := Nat.mod_lt _ (by decide)
      refine ⟨d, ds ++ [⟨n % 10, hmod⟩], ?_, ?_, ?_⟩
      · rw [Nat.toDigits_of_base_le (by decide) (by omega), hds]
        simp [digit]
      · simp only [digitsValue, ← List.cons_append, List.foldl_append] at hvalue ⊢
        rw [hvalue]
        simp only [List.foldl_cons, List.foldl_nil]
        omega
      · -- a leading zero would make the leading part zero, but there are ten or more
        intro hd
        have hds' := hzero hd
        subst hd hds'
        simp only [digitsValue, List.foldl_cons, List.foldl_nil] at hvalue
        simp only [Fin.val_zero] at hvalue
        omega

theorem whole?_toDigits {n : Nat} {rest : List Char} (h : EndsDigits rest) :
    whole? (Nat.toDigits 10 n ++ rest) = some (n, rest) := by
  obtain ⟨d, ds, hds, hvalue, hzero⟩ := toDigits_eq_map n
  have hread : digits (Nat.toDigits 10 n ++ rest) = (d :: ds, rest) := by
    rw [hds]
    exact digits_map_digit h
  unfold whole?
  rw [hread]
  by_cases hd : d = 0
  · simp [hzero hd, ← hvalue, hd]
  · simp [hd, hvalue]

/-! ## Numbers -/

theorem fraction?_render {ds : List (Fin 10)} {rest : List Char}
    (h : EndsDigits rest) (hpoint : ∀ s, rest ≠ '.' :: s) :
    fraction? ((if ds.isEmpty then [] else '.' :: ds.map digit) ++ rest) =
      some (ds, rest) := by
  cases ds with
  | nil =>
    unfold fraction?
    split
    · next s hs => exact absurd hs (hpoint s)
    · rfl
  | cons d ds =>
    have hread : digits ((d :: ds).map digit ++ rest) = (d :: ds, rest) := digits_map_digit h
    show (let ds' := digits ((d :: ds).map digit ++ rest)
      if ds'.1.isEmpty then none else some ds') = _
    rw [hread]
    rfl

/-- A digit is no sign. -/
theorem exponentSign_digit (d : Fin 10) (rest : List Char) :
    exponentSign (digit d :: rest) = (none, digit d :: rest) := by
  obtain ⟨hminus, hplus⟩ := digit_ne d
  unfold exponentSign
  split
  · next heq => exact absurd (List.cons.inj heq).1 hplus
  · next heq => exact absurd (List.cons.inj heq).1 hminus
  · rfl

theorem exponent?_render {e : Option Exponent} {rest : List Char} (h : EndsNumber rest) :
    exponent? (e.elim [] Exponent.render ++ rest) = some (e, rest) := by
  cases e with
  | none =>
    show exponent? rest = some (none, rest)
    cases rest with
    | nil => rfl
    | cons c s =>
      obtain ⟨-, -, he, hE⟩ := h c s rfl
      simp [exponent?, he, hE]
  | some e =>
    obtain ⟨capital, minus?, first, more⟩ := e
    have hread : digits ((first :: more).map digit ++ rest) = (first :: more, rest) :=
      digits_map_digit h.endsDigits
    rw [List.map_cons, List.cons_append] at hread
    rcases minus? with _ | _ | _
    · cases capital <;> simp [Exponent.render, exponent?, exponentSign_digit, hread]
    · cases capital <;> simp [Exponent.render, exponent?, exponentSign, hread]
    · cases capital <;> simp [Exponent.render, exponent?, exponentSign, hread]

/-- A fraction behind the whole part ends the digits of the whole part. -/
theorem endsDigits_fraction {ds : List (Fin 10)} {rest : List Char} (h : EndsDigits rest) :
    EndsDigits ((if ds.isEmpty then [] else '.' :: ds.map digit) ++ rest) := by
  cases ds with
  | nil => exact h
  | cons d ds =>
    intro c s hc
    cases hc
    decide

/-- An exponent is no digit and no point, and neither is what ends a number. -/
theorem ends_exponent {e : Option Exponent} {rest : List Char} (h : EndsNumber rest) :
    EndsDigits (e.elim [] Exponent.render ++ rest) ∧
      ∀ s, e.elim [] Exponent.render ++ rest ≠ '.' :: s := by
  cases e with
  | none => exact ⟨h.endsDigits, fun s hs => (h _ s hs).2.1 rfl⟩
  | some e =>
    constructor
    · intro c s hc
      cases hcap : e.capital <;> simp [Exponent.render, hcap] at hc <;>
        (rw [← hc.1]; decide)
    · intro s hs
      cases hcap : e.capital <;> simp [Exponent.render, hcap] at hs

theorem minus_render (negative : Bool) (n : Nat) (rest : List Char) :
    minus ((if negative then ['-'] else []) ++ (Nat.toDigits 10 n ++ rest)) =
      (negative, Nat.toDigits 10 n ++ rest) := by
  cases negative with
  | true => rfl
  | false =>
    obtain ⟨d, ds, hds, -, -⟩ := toDigits_eq_map n
    obtain ⟨hminus, -⟩ := digit_ne d
    simp only [Bool.false_eq_true, if_false, List.nil_append]
    rw [hds]
    unfold minus
    split
    · next heq => exact absurd (List.cons.inj heq).1 hminus
    · rfl

/-- A number that was written is read back. -/
theorem number?_render (n : Number) {rest : List Char} (h : EndsNumber rest) :
    number? (n.render ++ rest) = some (n, rest) := by
  obtain ⟨hdigits, hpoint⟩ := ends_exponent (e := n.exponent) h
  simp only [number?, Number.render, List.append_assoc, minus_render]
  rw [whole?_toDigits (endsDigits_fraction hdigits)]
  simp only [Option.bind_eq_bind, Option.bind_some]
  rw [fraction?_render hdigits hpoint]
  simp only [Option.bind_some]
  rw [exponent?_render h]
  rfl

/-! ## Strings -/

/-- The piece that a character is written as: itself, or a code unit in hexadecimal. -/
def pieceOf (c : Char) : Piece :=
  if (letterEscapes.lookup c).isNone && c.toNat < 0x20 then .unit c.toNat else .char c

theorem digitBelow?_digitChar : ∀ n < 16, Text.digitBelow? 16 (Nat.digitChar n) = some n := by
  decide

theorem unit?_hex {n : Nat} (h : n < 256) :
    unit? '0' '0' (Nat.digitChar (n / 16)) (Nat.digitChar (n % 16)) = some n := by
  have hzero : Text.digitBelow? 16 '0' = some 0 := by decide
  have hhigh := digitBelow?_digitChar (n / 16) (by omega)
  have hlow := digitBelow?_digitChar (n % 16) (by omega)
  simp only [unit?, Text.numeral?, List.mapM_cons, List.mapM_nil, hzero, hhigh, hlow]
  simp only [Option.pure_def, Option.bind_eq_bind, Option.bind_some, Option.map_some,
    Text.valueIn, List.foldl_cons, List.foldl_nil]
  congr 1
  omega

/-- An escape of one letter is read as the character that it was written for. -/
theorem lookup_letter {c letter : Char} (h : letterEscapes.lookup c = some letter) :
    escapedLetters.lookup letter = some c ∧ letter ≠ 'u' := by
  have hmem : (c, letter) ∈ letterEscapes := by
    obtain ⟨before, after, heq, -⟩ := List.lookup_eq_some_iff.1 h
    rw [heq]
    simp
  revert hmem
  simp only [letterEscapes, List.mem_cons, List.not_mem_nil, or_false, Prod.mk.injEq]
  rintro (⟨rfl, rfl⟩ | ⟨rfl, rfl⟩ | ⟨rfl, rfl⟩ | ⟨rfl, rfl⟩ | ⟨rfl, rfl⟩ | ⟨rfl, rfl⟩ |
    ⟨rfl, rfl⟩) <;> decide

theorem pieces?_letter {letter : Char} (h : letter ≠ 'u') (s : List Char) :
    pieces? ('\\' :: letter :: s) =
      (escapedLetters.lookup letter).bind fun c =>
        (pieces? s).map fun (ps, rest) => (.char c :: ps, rest) := by
  rw [pieces?]
  · simp only [Option.map_eq_bind]
    rfl
  · intro _ _ _ _ _ hu _
    exact h hu

theorem pieces?_plain {c : Char} (hquote : c ≠ '"') (hslash : c ≠ '\\')
    (hlow : ¬c.toNat < 0x20) (s : List Char) :
    pieces? (c :: s) = (pieces? s).map fun (ps, rest) => (.char c :: ps, rest) := by
  have hraw : ¬(decide (c.toNat < 0x20) || decide (c = '\\')) = true := by
    simp only [Bool.or_eq_true, decide_eq_true_eq, not_or]
    exact ⟨hlow, hslash⟩
  rw [pieces?]
  · rw [if_neg hraw, Option.map_eq_bind]
    rfl
  · exact hquote
  · intro _ _ _ _ _ hc _
    exact hslash hc
  · intro _ _ hc _
    exact hslash hc

theorem pieces?_unit {a b c d : Char} {n : Nat} (h : unit? a b c d = some n)
    (s : List Char) :
    pieces? ('\\' :: 'u' :: a :: b :: c :: d :: s) =
      (pieces? s).map fun (ps, rest) => (.unit n :: ps, rest) := by
  rw [pieces?, h, Option.map_eq_bind]
  rfl

theorem pieces?_escape (c : Char) (s : List Char) :
    pieces? (escape c ++ s) = (pieces? s).map fun (ps, rest) => (pieceOf c :: ps, rest) := by
  cases hletter : letterEscapes.lookup c with
  | some letter =>
    obtain ⟨hread, hu⟩ := lookup_letter hletter
    simp [escape, hletter, pieceOf, pieces?_letter hu, hread]
  | none =>
    by_cases hc : c.toNat < 0x20
    · have hunit := unit?_hex (n := c.toNat) (by omega)
      simp [escape, hletter, hc, pieceOf, pieces?_unit hunit]
    · have hquote : c ≠ '"' := by
        rintro rfl
        simp [letterEscapes] at hletter
      have hslash : c ≠ '\\' := by
        rintro rfl
        simp [letterEscapes] at hletter
      simp [escape, hletter, hc, pieceOf, pieces?_plain hquote hslash hc]

theorem pieces?_quote (cs rest : List Char) :
    pieces? (cs.flatMap escape ++ '"' :: rest) = some (cs.map pieceOf, rest) := by
  induction cs with
  | nil => rfl
  | cons c cs ih =>
    rw [List.flatMap_cons, List.append_assoc, pieces?_escape, ih]
    rfl

/-- Only a code unit below U+0020 is written in hexadecimal, so no half of a surrogate pair
is. -/
theorem assemble_pieceOf (c : Char) (ps : List Piece) :
    assemble (pieceOf c :: ps) = (assemble ps).map (c :: ·) := by
  unfold pieceOf
  split
  · next h =>
    have hc : c.toNat < 0x20 := by
      simp only [Bool.and_eq_true, decide_eq_true_eq] at h
      exact h.2
    have hhigh : isHighSurrogate c.toNat = false := by
      simp only [isHighSurrogate, Bool.and_eq_false_iff, decide_eq_false_iff_not]
      omega
    have hlow : isLowSurrogate c.toNat = false := by
      simp only [isLowSurrogate, Bool.and_eq_false_iff, decide_eq_false_iff_not]
      omega
    rcases ps with _ | ⟨p | m, ps⟩ <;> simp [assemble, hhigh, hlow, Char.ofNat_toNat]
  · rfl

theorem assemble_map_pieceOf (cs : List Char) : assemble (cs.map pieceOf) = some cs := by
  induction cs with
  | nil => rfl
  | cons c cs ih => rw [List.map_cons, assemble_pieceOf, ih, Option.map_some]

/-- A string that was written is read back. -/
theorem literal?_quote (s : String) (rest : List Char) :
    literal? (s.toList.flatMap escape ++ '"' :: rest) = some (some s, rest) := by
  simp [literal?, pieces?_quote, assemble_map_pieceOf]

end FilterSync.Json
