import FilterSync.Proofs.Filter.Options
import FilterSync.Proofs.Text.Boundaries

/-!
# Searching for the options

The `$` that opens the options can be searched for in the bytes of a body, round by round: from a
number of bytes on the next `$` is looked for, and the byte in front of it tells whether it is
escaped. If it is, the next round begins behind it. Each round cuts the body and looks at single
bytes of it, and nothing in it says that the numbers will do or that there is a last round.

They do, and there is. What has been searched has no `$` that opens the options, and that is all
that a round has to know of the ones before it.

Main statements: `Filter.OptionSearch.exists_ends` and `Filter.options_at_first_mark`.
-/

namespace FilterSync.Filter

open FilterSync.Text

/-! ## The search -/

/-- The byte of `$`. -/
def optionByte : UInt8 := 0x24

/-- The byte of a backslash. -/
def escapeByte : UInt8 := 0x5C

namespace OptionSearch

/-- Whether a backslash stands directly before the byte behind `n` others. -/
def isEscapedAt (body : List UInt8) (n : Nat) : Indexing Bool :=
  if n = 0 then pure false else return (← byteAt body (n - 1)) == escapeByte

/-- What a round comes to: the two parts of the body, or the place where the next round begins. -/
inductive Round
  | found (pattern : List UInt8) (options : Option (List UInt8))
  | onward (n : Nat)
  deriving DecidableEq, Repr

/-- One round, where the search has come to `n`. -/
def round (body : List UInt8) (n : Nat) : Indexing Round := do
  let rest ← cutFrom body n
  match rest.findIdx? (· = optionByte) with
  | none => return .found body none
  | some offset =>
    let mark := n + offset
    if ← isEscapedAt body mark then return .onward (mark + 1)
    else return .found (← cutTo body mark) (← cutFrom body (mark + 1))

/-- What the search comes to in the end, where it has come to `n`. Nothing says that there is an
end. -/
inductive Ends (body : List UInt8) : Nat → Indexing (List UInt8 × Option (List UInt8)) → Prop
  | broken {n : Nat} {bad : BadNumber} (h : round body n = .error bad) : Ends body n (.error bad)
  | found {n : Nat} {pattern : List UInt8} {options : Option (List UInt8)}
      (h : round body n = .ok (.found pattern options)) : Ends body n (.ok (pattern, options))
  | onward {n next : Nat} {outcome : Indexing (List UInt8 × Option (List UInt8))}
      (h : round body n = .ok (.onward next)) (hnext : Ends body next outcome) :
      Ends body n outcome

/-- The rounds leave the search no choice. -/
theorem Ends.unique {body : List UInt8} {n : Nat}
    {outcome outcome' : Indexing (List UInt8 × Option (List UInt8))}
    (h : Ends body n outcome) (h' : Ends body n outcome') : outcome = outcome' := by
  induction h with
  | broken h =>
    cases h' with
    | broken h' => exact congrArg Except.error (Except.error.inj (h.symm.trans h'))
    | found h' => cases h.symm.trans h'
    | onward h' => cases h.symm.trans h'
  | found h =>
    cases h' with
    | broken h' => cases h.symm.trans h'
    | found h' =>
      cases h.symm.trans h'
      rfl
    | onward h' => cases h.symm.trans h'
  | onward h _ ih =>
    cases h' with
    | broken h' => cases h.symm.trans h'
    | found h' => cases h.symm.trans h'
    | onward h' hnext =>
      cases h.symm.trans h'
      exact ih hnext

end OptionSearch

/-- Some `$` of the bytes has no backslash directly before it. -/
def HasBareMark (bytes : List UInt8) : Prop :=
  ∃ front back, bytes = front ++ optionByte :: back ∧ front.getLast? ≠ some escapeByte

/-! ## Marks in bytes and in characters -/

variable {s front mid back : List Char}

theorem exists_of_encode_eq_mark {q r : List UInt8} (h : encode s = q ++ optionByte :: r) :
    ∃ front back, s = front ++ optionMark :: back ∧ encode front = q ∧ encode back = r :=
  exists_of_encode_eq_byte (by decide) h

theorem getLast?_encode_escape_iff :
    (encode s).getLast? = some escapeByte ↔ s.getLast? = some escapeMark :=
  getLast?_encode_iff (by decide)

theorem hasBareMark_encode_iff : HasBareMark (encode s) ↔ HasOpening s := by
  constructor
  · rintro ⟨q, r, hs, hq⟩
    obtain ⟨front, back, rfl, rfl, rfl⟩ := exists_of_encode_eq_mark hs
    exact ⟨front, back, rfl, mt getLast?_encode_escape_iff.2 hq⟩
  · rintro ⟨front, back, rfl, hfront⟩
    exact ⟨encode front, encode back, encode_append _ _, mt getLast?_encode_escape_iff.1 hfront⟩

/-- A `$` that is not escaped stands behind bytes that have none. -/
theorem prefix_of_not_hasBareMark {p q r r' : List UInt8} (closed : ¬HasBareMark p)
    (h : p ++ r = q ++ optionByte :: r') (bare : q.getLast? ≠ some escapeByte) : p <+: q := by
  rcases List.append_eq_append_iff.1 h with ⟨more, rfl, -⟩ | ⟨more, hp, hmore⟩
  · exact List.prefix_append _ _
  · cases more with
    | nil => rw [hp, List.append_nil]
    | cons b more =>
      cases hmore
      exact absurd ⟨q, more, hp, bare⟩ closed

/-! ## What has been searched -/

theorem opens_of_not_mem (escaped : Bool) (h : optionMark ∉ s) : opens escaped s = false := by
  rw [Bool.eq_false_iff]
  intro hopens
  obtain ⟨front, back, rfl, -⟩ := opens_iff.1 hopens
  exact h (by simp)

theorem not_hasOpening_append (closed : ¬HasOpening front) (h : optionMark ∉ mid) :
    ¬HasOpening (front ++ mid) := by
  rw [not_hasOpening_iff] at closed ⊢
  rw [opens_append, closed, opens_of_not_mem _ h]
  rfl

theorem not_hasOpening_concat (closed : ¬HasOpening s) (escaped : s.getLast? = some escapeMark) :
    ¬HasOpening (s ++ [optionMark]) := by
  rw [not_hasOpening_iff] at closed ⊢
  have hescaped : escapedBehind false s = true := by
    rw [← Bool.not_eq_false, escapedBehind_false_iff]
    exact not_not_intro escaped
  rw [opens_append, closed, hescaped]
  rfl

/-! ## One round -/

namespace OptionSearch

theorem isEscapedAt_encode (s back : List Char) :
    isEscapedAt (encode (s ++ back)) (encode s).length =
      pure (decide (s.getLast? = some escapeMark)) := by
  unfold isEscapedAt
  cases hlast : (encode s).getLast? with
  | none =>
    have hs := encode_eq_nil_iff.1 (List.getLast?_eq_none_iff.1 hlast)
    rw [hs]
    rfl
  | some b =>
    have hne : (encode s).length ≠ 0 := by
      intro hzero
      rw [List.length_eq_zero_iff.1 hzero] at hlast
      cases hlast
    have hescape : (b == escapeByte) = decide (s.getLast? = some escapeMark) := by
      rw [Bool.eq_iff_iff, beq_iff_eq, decide_eq_true_eq, ← getLast?_encode_escape_iff, hlast,
        Option.some.injEq]
    rw [if_neg hne, byteAt_encode hlast, pure_bind, hescape]

/-- Without another `$` all of the body is the pattern. -/
theorem round_of_not_mem (h : optionMark ∉ back) :
    round (encode (front ++ back)) (encode front).length =
      .ok (.found (encode (front ++ back)) none) := by
  have hfind : (encode back).findIdx? (· = optionByte) = none :=
    (findIdx?_encode (b := optionByte) (by decide) h).1
  rw [round, cutFrom_encode, pure_bind, hfind]
  rfl

/-- The next `$` ends the search unless it is escaped. -/
theorem round_of_mark (h : optionMark ∉ mid) (rest : List Char) :
    round (encode (front ++ mid ++ optionMark :: rest)) (encode front).length =
      .ok (if (front ++ mid).getLast? = some escapeMark then
          .onward (encode (front ++ mid ++ [optionMark])).length
        else .found (encode (front ++ mid)) (some (encode rest))) := by
  have hfind : (encode (mid ++ optionMark :: rest)).findIdx? (· = optionByte) =
      some (encode mid).length := (findIdx?_encode (b := optionByte) (by decide) h).2 rest
  have hmark : (encode front).length + (encode mid).length = (encode (front ++ mid)).length := by
    rw [encode_append, List.length_append]
  have hbehind : (encode (front ++ mid)).length + 1 =
      (encode (front ++ mid ++ [optionMark])).length := by
    rw [encode_append _ [optionMark], List.length_append]
    rfl
  have hrest : cutFrom (encode (front ++ mid ++ optionMark :: rest))
      (encode (front ++ mid ++ [optionMark])).length = pure (encode rest) := by
    rw [← cutFrom_encode (front ++ mid ++ [optionMark]) rest, List.append_assoc _ [optionMark]]
    rfl
  rw [round, List.append_assoc, cutFrom_encode, pure_bind, hfind]
  dsimp only
  rw [hmark, ← List.append_assoc, isEscapedAt_encode, pure_bind, hbehind, hrest, cutTo_encode]
  simp only [pure_bind, decide_eq_true_eq]
  split <;> rfl

/-! ## The whole search -/

/-- From where the body has been searched without finding the options, the search comes to an end,
and finds what there is. -/
theorem exists_ends (closed : ¬HasOpening front) (back : List Char) :
    ∃ pattern options, Splits (front ++ back) pattern options ∧
      Ends (encode (front ++ back)) (encode front).length
        (.ok (encode pattern, options.map encode)) := by
  -- each round leaves less of the body to be searched
  induction hn : back.length using Nat.strong_induction_on generalizing front back with
  | _ n ih =>
    by_cases hmark : optionMark ∈ back
    · obtain ⟨mid, rest, rfl, hmid⟩ := List.eq_append_cons_of_mem hmark
      have hclosed := not_hasOpening_append closed hmid
      have hround := @round_of_mark front mid hmid rest
      rw [← List.append_assoc]
      split at hround
      · next escaped =>
        have hless : rest.length < n := by
          rw [← hn, List.length_append, List.length_cons]
          omega
        obtain ⟨pattern, options, hsplits, hends⟩ :=
          ih rest.length hless (not_hasOpening_concat hclosed escaped) rest rfl
        rw [← List.append_cons] at hsplits hends
        exact ⟨pattern, options, hsplits, .onward hround hends⟩
      · next bare => exact ⟨_, _, .atMark rest hclosed bare, .found hround⟩
    · exact ⟨_, _, .whole (not_hasOpening_append closed hmark), .found (round_of_not_mem hmark)⟩

end OptionSearch

/-- The search for the options comes to an end, and every number in it will do. It finds the two
parts of the body: with options there is a `$` between them that is not escaped, without them there
is none, and the pattern has no such `$` in either case. So every `$` of the body that is not
escaped stands behind the pattern. -/
theorem options_at_first_mark (body : List Char) :
    ∃ pattern options,
      (∀ outcome, OptionSearch.Ends (encode body) 0 outcome ↔
        outcome = .ok (encode pattern, options.map encode)) ∧
      splitOptions body = (pattern, options) ∧
      ¬HasBareMark (encode pattern) ∧
      (∀ o, options = some o → body = pattern ++ optionMark :: o ∧
        encode body = encode pattern ++ optionByte :: encode o ∧
        (encode pattern).getLast? ≠ some escapeByte) ∧
      (options = none → pattern = body) ∧
      ∀ front back, encode body = front ++ optionByte :: back →
        front.getLast? ≠ some escapeByte → options.isSome ∧ encode pattern <+: front := by
  have hnothing : ¬HasOpening [] := by decide
  obtain ⟨pattern, options, hsplits, hends⟩ := OptionSearch.exists_ends hnothing body
  have honly : ∀ outcome, OptionSearch.Ends (encode body) 0 outcome ↔
      outcome = .ok (encode pattern, options.map encode) := by
    intro outcome
    constructor
    · exact fun h => h.unique hends
    · rintro rfl
      exact hends
  have hclosed : ¬HasBareMark (encode pattern) := mt hasBareMark_encode_iff.1 hsplits.closed
  have hparts : ∀ o, options = some o → body = pattern ++ optionMark :: o ∧
      encode body = encode pattern ++ optionByte :: encode o ∧
      (encode pattern).getLast? ≠ some escapeByte := by
    rintro o rfl
    cases hsplits with
    | atMark _ _ bare => exact ⟨rfl, encode_append _ _, mt getLast?_encode_escape_iff.1 bare⟩
  have hwhole : options = none → pattern = body := by
    rintro rfl
    cases hsplits
    rfl
  refine ⟨pattern, options, honly, splits_iff.1 hsplits, hclosed, hparts, hwhole, ?_⟩
  intro front back hbody hbare
  cases options with
  | none =>
    rw [← hwhole rfl] at hbody
    exact absurd ⟨front, back, hbody, hbare⟩ hclosed
  | some o =>
    rw [(hparts o rfl).2.1] at hbody
    exact ⟨rfl, prefix_of_not_hasBareMark hclosed hbody hbare⟩

/-- The first of two `$` is escaped, the other one stands directly behind it. -/
theorem options_at_first_mark_besideEscaped :
    encode "ü\\$$x".toList = [0xC3, 0xBC, 0x5C, 0x24, 0x24, 0x78] ∧
      OptionSearch.Ends [0xC3, 0xBC, 0x5C, 0x24, 0x24, 0x78] 0
        (.ok ([0xC3, 0xBC, 0x5C, 0x24], some [0x78])) := by
  have hbody : encode "ü\\$$x".toList = [0xC3, 0xBC, 0x5C, 0x24, 0x24, 0x78] := by decide
  obtain ⟨pattern, options, honly, hsplit, -⟩ := options_at_first_mark "ü\\$$x".toList
  have hparts : splitOptions "ü\\$$x".toList = ("ü\\$".toList, some "x".toList) := by decide
  obtain ⟨rfl, rfl⟩ := Prod.mk.inj (hparts.symm.trans hsplit)
  exact ⟨hbody, hbody ▸ (honly _).2 rfl⟩

end FilterSync.Filter
