import FilterSync.Proofs.Text.Encoding

/-!
# A text by its bytes

The places of a text can be given as numbers of bytes. Not every number is one: a text is only cut
between two characters, and only in front of its end there is a byte to look at. Work that goes by
such numbers stops where a number will not do.

Whether a text may be cut at a number is seen from a single byte, because the first byte of a
character is never one that goes on with a character, and the others always are.

Main statements: `Text.isBoundary_iff` and `Text.exists_of_encode_eq`.
-/

namespace FilterSync.Text

/-- The bytes of a text. -/
def encode (text : List Char) : List UInt8 := text.flatMap encodeChar

/-- A byte goes on with a character that has begun before it. -/
def goesOn (b : UInt8) : Bool := 0x80 ≤ b && b < 0xC0

/-- Whether a text may be cut at a number of its bytes: at its beginning, at its end, and in front
of a byte that does not go on with a character. -/
def isBoundary (bytes : List UInt8) (n : Nat) : Bool :=
  n = 0 || n = bytes.length || bytes[n]?.any (!goesOn ·)

/-! ## Work with numbers of bytes -/

/-- A number of bytes that will not do. -/
inductive BadNumber
  /-- The text cannot be cut there. -/
  | cut (n : Nat)
  /-- There is no byte. -/
  | byte (n : Nat)
  deriving DecidableEq, Repr

/-- Work with numbers of bytes: its result, or the number that will not do. -/
abbrev Indexing := Except BadNumber

/-- What is left of a text behind a number of bytes. -/
def cutFrom (bytes : List UInt8) (n : Nat) : Indexing (List UInt8) :=
  if isBoundary bytes n then pure (bytes.drop n) else throw (.cut n)

/-- The first bytes of a text. -/
def cutTo (bytes : List UInt8) (n : Nat) : Indexing (List UInt8) :=
  if isBoundary bytes n then pure (bytes.take n) else throw (.cut n)

/-- The byte of a text that stands behind a number of others. -/
def byteAt (bytes : List UInt8) (n : Nat) : Indexing UInt8 :=
  match bytes[n]? with
  | some b => pure b
  | none => throw (.byte n)

/-! ## Where the characters are -/

variable {c : Char} {b : UInt8} {q r : List UInt8} {text front back : List Char}

@[simp] theorem encode_nil : encode [] = [] := rfl

@[simp] theorem encode_cons (c : Char) (text : List Char) :
    encode (c :: text) = encodeChar c ++ encode text := rfl

@[simp] theorem encode_append (text more : List Char) :
    encode (text ++ more) = encode text ++ encode more := List.flatMap_append

theorem goesOn_of_mem_tailBytes {k n : Nat} (h : b ∈ tailBytes k n) : goesOn b = true := by
  have hle := le_of_mem_tailBytes h
  induction k with
  | zero => cases h
  | succ k ih =>
    rcases List.mem_cons.1 h with rfl | h
    · unfold goesOn
      rw [decide_eq_true hle, Bool.true_and, decide_eq_true_eq, UInt8.lt_iff_toNat_lt,
        UInt8.toNat_ofNat']
      simp only [UInt8.reduceToNat]
      omega
    · exact ih h

/-- Of the bytes of a character all but the first one go on with it. -/
theorem exists_first (c : Char) :
    ∃ b q, encodeChar c = b :: q ∧ goesOn b = false ∧ ∀ b' ∈ q, goesOn b' = true := by
  have hsmall : ∀ n < 0x80, goesOn (UInt8.ofNat n) = false := by decide +kernel
  have hlarge : ∀ n < 0x40, goesOn (UInt8.ofNat (0xC0 + n)) = false := by decide +kernel
  rcases encodeChar_cases c with ⟨hc, ec⟩ | ⟨hc, hc', ec⟩ | ⟨hc, hc', ec⟩ | ⟨hc, hc', ec⟩
  · exact ⟨_, _, ec, hsmall _ hc, by simp⟩
  · exact ⟨_, _, ec, hlarge _ (by omega), fun b' => goesOn_of_mem_tailBytes⟩
  · refine ⟨_, _, ec, ?_, fun b' => goesOn_of_mem_tailBytes⟩
    have := hlarge (0x20 + c.toNat / 0x1000) (by omega)
    rwa [← Nat.add_assoc] at this
  · refine ⟨_, _, ec, ?_, fun b' => goesOn_of_mem_tailBytes⟩
    have := hlarge (0x30 + c.toNat / 0x40000) (by omega)
    rwa [← Nat.add_assoc] at this

theorem isBoundary_eq_true_iff {bytes : List UInt8} {n : Nat} :
    isBoundary bytes n = true ↔
      n = 0 ∨ n = bytes.length ∨ ∃ b, bytes[n]? = some b ∧ goesOn b = false := by
  simp only [isBoundary, Bool.or_eq_true, decide_eq_true_eq, Option.any_eq_true, Bool.not_eq_true',
    or_assoc]

theorem isBoundary_encode (front back : List Char) :
    isBoundary (encode (front ++ back)) (encode front).length = true := by
  rw [isBoundary_eq_true_iff]
  cases back with
  | nil => simp
  | cons c back =>
    obtain ⟨b, q, hc, hb, -⟩ := exists_first c
    refine Or.inr (Or.inr ⟨b, ?_, hb⟩)
    rw [encode_append, encode_cons, hc, List.getElem?_append_right (Nat.le_refl _), Nat.sub_self]
    rfl

/-- A text is cut between two characters, and may be cut there. -/
theorem isBoundary_iff {n : Nat} :
    isBoundary (encode text) n = true ↔
      ∃ front back, text = front ++ back ∧ (encode front).length = n := by
  constructor
  · intro h
    induction text generalizing n with
    | nil =>
      have hn : n = 0 := by simpa [isBoundary_eq_true_iff] using h
      exact ⟨[], [], rfl, hn.symm⟩
    | cons c text ih =>
      rcases Nat.eq_zero_or_pos n with rfl | hpos
      · exact ⟨[], c :: text, rfl, rfl⟩
      rw [isBoundary_eq_true_iff, encode_cons, List.length_append] at h
      rcases Nat.lt_or_ge n (encodeChar c).length with hinside | hbehind
      · -- inside the first character there are only bytes that go on with it
        exfalso
        rw [List.getElem?_append_left hinside] at h
        rcases h with hzero | hend | ⟨b, hbyte, hb⟩
        · omega
        · omega
        · obtain ⟨b', q, hc, -, hq⟩ := exists_first c
          obtain ⟨n, rfl⟩ := Nat.exists_eq_add_one_of_ne_zero (Nat.ne_of_gt hpos)
          rw [hc, List.getElem?_cons_succ] at hbyte
          rw [hq b (List.mem_of_getElem? hbyte)] at hb
          cases hb
      · obtain ⟨m, rfl⟩ := Nat.exists_eq_add_of_le hbehind
        rw [List.getElem?_append_right hbehind, Nat.add_sub_cancel_left] at h
        have hm : isBoundary (encode text) m = true := by
          rw [isBoundary_eq_true_iff]
          rcases h with hzero | hend | hbyte
          · exact Or.inl (by omega)
          · exact Or.inr (Or.inl (by omega))
          · exact Or.inr (Or.inr hbyte)
        obtain ⟨front, back, rfl, rfl⟩ := ih hm
        exact ⟨c :: front, back, rfl, List.length_append⟩
  · rintro ⟨front, back, rfl, rfl⟩
    exact isBoundary_encode front back

theorem encode_eq_nil_iff : encode text = [] ↔ text = [] := by
  cases text with
  | nil => simp
  | cons c text => simp [encodeChar_ne_nil]

/-- A byte that does not go on with a character begins one. -/
theorem exists_of_encode_eq (hb : goesOn b = false) (h : encode text = q ++ b :: r) :
    ∃ front back, text = front ++ back ∧ encode front = q ∧ encode back = b :: r := by
  have hcut : isBoundary (encode text) q.length = true := by simp [isBoundary_eq_true_iff, h, hb]
  obtain ⟨front, back, rfl, hlength⟩ := isBoundary_iff.1 hcut
  rw [encode_append] at h
  obtain ⟨hfront, hback⟩ := List.append_inj h hlength
  exact ⟨front, back, rfl, hfront, hback⟩

/-- A byte below 0x80 is a character wherever it stands. -/
theorem exists_of_encode_eq_byte (hb : b < 0x80) (h : encode text = q ++ b :: r) :
    ∃ front back, text = front ++ Char.ofNat b.toNat :: back ∧ encode front = q ∧
      encode back = r := by
  have hfirst : goesOn b = false := by
    unfold goesOn
    rw [decide_eq_false (UInt8.not_le.2 hb)]
    rfl
  obtain ⟨front, back, rfl, hfront, hback⟩ := exists_of_encode_eq hfirst h
  cases back with
  | nil => cases hback
  | cons c back =>
    obtain ⟨b', q', hc, -⟩ := exists_first c
    rw [encode_cons, hc, List.cons_append, List.cons.injEq] at hback
    obtain ⟨rfl, hback⟩ := hback
    obtain ⟨rfl, hone⟩ := encodeChar_of_mem (hc ▸ List.mem_cons_self) hb
    rw [hc, List.cons.injEq] at hone
    exact ⟨front, back, rfl, hfront, by rw [← hback, hone.2, List.nil_append]⟩

theorem getLast?_encode_iff (hb : b < 0x80) :
    (encode text).getLast? = some b ↔ text.getLast? = some (Char.ofNat b.toNat) := by
  constructor
  · intro h
    obtain ⟨q, hq⟩ := List.getLast?_eq_some_iff.1 h
    obtain ⟨front, back, rfl, -, hback⟩ := exists_of_encode_eq_byte hb hq
    rw [encode_eq_nil_iff.1 hback, List.getLast?_concat]
  · intro h
    obtain ⟨front, rfl⟩ := List.getLast?_eq_some_iff.1 h
    rw [encode_append, encode_cons, encodeChar_ofNat hb]
    exact List.getLast?_concat

/-! ## Cutting and looking -/

theorem cutFrom_encode (front back : List Char) :
    cutFrom (encode (front ++ back)) (encode front).length = pure (encode back) := by
  rw [cutFrom, if_pos (isBoundary_encode front back), encode_append, List.drop_left]

theorem cutTo_encode (front back : List Char) :
    cutTo (encode (front ++ back)) (encode front).length = pure (encode front) := by
  rw [cutTo, if_pos (isBoundary_encode front back), encode_append, List.take_left]

theorem byteAt_encode (h : (encode front).getLast? = some b) (back : List Char) :
    byteAt (encode (front ++ back)) ((encode front).length - 1) = pure b := by
  have hlt : (encode front).length - 1 < (encode front).length := by
    have hpos : (encode front).length ≠ 0 := by
      intro hzero
      rw [List.length_eq_zero_iff.1 hzero] at h
      cases h
    omega
  rw [List.getLast?_eq_getElem?] at h
  rw [byteAt, encode_append, List.getElem?_append_left hlt, h]

/-- The first of the bytes that are equal to a byte below 0x80 is found where the first of the
characters is. -/
theorem findIdx?_encode (hb : b < 0x80) (h : Char.ofNat b.toNat ∉ front) :
    (encode front).findIdx? (· = b) = none ∧
      ∀ back, (encode (front ++ Char.ofNat b.toNat :: back)).findIdx? (· = b) =
        some (encode front).length := by
  have hnone : (encode front).findIdx? (· = b) = none := by
    rw [List.findIdx?_eq_none_iff]
    rintro b' hmem
    rw [decide_eq_false_iff_not]
    rintro rfl
    obtain ⟨q, r, hq⟩ := List.append_of_mem hmem
    obtain ⟨_, _, rfl, -⟩ := exists_of_encode_eq_byte hb hq
    exact h (by simp)
  refine ⟨hnone, fun back => ?_⟩
  rw [encode_append, encode_cons, encodeChar_ofNat hb, List.findIdx?_append, hnone,
    List.singleton_append, List.findIdx?_cons, decide_eq_true rfl]
  simp

end FilterSync.Text
