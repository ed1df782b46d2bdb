import FilterSync.Text.Utf8
import Mathlib.Algebra.Group.Nat.Defs
import Mathlib.Data.List.Infix

/-!
# What bytes stand for

Which text bytes stand for can be said without reading them one at a time. Where a character stands,
it is that character. Where none stands, the longest run of bytes that a character could begin with
is one undecodable piece, or a single byte if no character begins with it; and the replacement
character stands for the piece. This leaves no choice.

A byte below 0x80 is a character wherever it stands, and no part of another one, so that no piece
goes beyond it.

Main statements: `Text.Decodes.unique` and `Text.Decodes.append_byte`.
-/

namespace FilterSync.Text

/-! ## The bytes of a character -/

/-- The last `k` bytes of a character with the number `n`. -/
def tailBytes : Nat → Nat → List UInt8
  | 0, _ => []
  | k + 1, n => UInt8.ofNat (0x80 + n / 0x40 ^ k % 0x40) :: tailBytes k n

variable {c d : Char} {b : UInt8} {q r rest bytes : List UInt8} {text : List Char}

theorem toNat_lt_of_char (c : Char) : c.toNat < 0xD800 ∨ 0xE000 ≤ c.toNat ∧ c.toNat < 0x110000 := by
  have := c.valid
  simp only [UInt32.isValidChar, Nat.isValidChar] at this
  show c.val.toNat < _ ∨ _ ≤ c.val.toNat ∧ c.val.toNat < _
  omega

/-- A character has one to four bytes, as its number is large. -/
theorem encodeChar_cases (c : Char) :
    (c.toNat < 0x80 ∧ encodeChar c = [UInt8.ofNat c.toNat]) ∨
    (0x80 ≤ c.toNat ∧ c.toNat < 0x800 ∧
      encodeChar c = UInt8.ofNat (0xC0 + c.toNat / 0x40) :: tailBytes 1 c.toNat) ∨
    (0x800 ≤ c.toNat ∧ c.toNat < 0x10000 ∧
      encodeChar c = UInt8.ofNat (0xE0 + c.toNat / 0x1000) :: tailBytes 2 c.toNat) ∨
    (0x10000 ≤ c.toNat ∧ c.toNat < 0x110000 ∧
      encodeChar c = UInt8.ofNat (0xF0 + c.toNat / 0x40000) :: tailBytes 3 c.toNat) := by
  have hmax : c.toNat < 0x110000 := by
    have := toNat_lt_of_char c
    omega
  unfold encodeChar
  simp only [tailBytes, Nat.pow_zero, Nat.div_one, Nat.pow_one, Nat.reducePow]
  split
  · simp_all
  · split
    · simp_all
    · split
      · simp_all
      · simp_all

theorem toNat_ofNat_of_valid {n : Nat} (h : n.isValidChar) : (Char.ofNat n).toNat = n := by
  unfold Char.ofNat
  rw [dif_pos h]
  exact UInt32.toNat_ofNatLT

theorem ofNat_eq_iff {m n : Nat} : UInt8.ofNat m = UInt8.ofNat n ↔ m % 256 = n % 256 := by
  rw [← UInt8.toNat_inj, UInt8.toNat_ofNat', UInt8.toNat_ofNat']

/-- No character begins with all of another one. -/
theorem encodeChar_append_inj (h : encodeChar c ++ q = encodeChar d ++ r) : c = d := by
  apply Char.ext
  apply UInt32.toNat_inj.1
  show c.toNat = d.toNat
  rcases encodeChar_cases c with ⟨hc, ec⟩ | ⟨hc, hc', ec⟩ | ⟨hc, hc', ec⟩ | ⟨hc, hc', ec⟩ <;>
  rcases encodeChar_cases d with ⟨hd, ed⟩ | ⟨hd, hd', ed⟩ | ⟨hd, hd', ed⟩ | ⟨hd, hd', ed⟩ <;>
  · rw [ec, ed] at h
    simp only [tailBytes, List.cons_append, List.cons.injEq, ofNat_eq_iff, Nat.pow_zero,
      Nat.div_one, Nat.pow_one, Nat.reducePow] at h
    omega

theorem encodeChar_ne_nil (c : Char) : encodeChar c ≠ [] := by
  rcases encodeChar_cases c with ⟨-, h⟩ | ⟨-, -, h⟩ | ⟨-, -, h⟩ | ⟨-, -, h⟩ <;>
  · rw [h]
    exact List.cons_ne_nil _ _

theorem encodeChar_of_lt (h : c.toNat < 0x80) : encodeChar c = [UInt8.ofNat c.toNat] := by
  rcases encodeChar_cases c with ⟨-, hc⟩ | ⟨hc, -⟩ | ⟨hc, -⟩ | ⟨hc, -⟩
  · exact hc
  · omega
  · omega
  · omega

theorem le_of_mem_tailBytes {k n : Nat} (h : b ∈ tailBytes k n) : 0x80 ≤ b := by
  induction k with
  | zero => cases h
  | succ k ih =>
    rcases List.mem_cons.1 h with rfl | h
    · rw [UInt8.le_iff_toNat_le, UInt8.toNat_ofNat']
      simp only [UInt8.reduceToNat]
      omega
    · exact ih h

/-- A byte below 0x80 is all of the character that it belongs to. -/
theorem encodeChar_of_mem (h : b ∈ encodeChar c) (hb : b < 0x80) :
    c = Char.ofNat b.toNat ∧ encodeChar c = [b] := by
  have hsmall : c.toNat < 0x80 := by
    by_contra hlarge
    have hle : 0x80 ≤ b := by
      rcases encodeChar_cases c with ⟨hc, ec⟩ | ⟨hc, hc', ec⟩ | ⟨hc, hc', ec⟩ | ⟨hc, hc', ec⟩
      · exact absurd hc hlarge
      all_goals
        rw [ec] at h
        rcases List.mem_cons.1 h with rfl | h
        · rw [UInt8.le_iff_toNat_le, UInt8.toNat_ofNat']
          simp only [UInt8.reduceToNat]
          omega
        · exact le_of_mem_tailBytes h
    rw [UInt8.le_iff_toNat_le] at hle
    rw [UInt8.lt_iff_toNat_lt] at hb
    omega
  rw [encodeChar_of_lt hsmall, List.mem_singleton] at h
  have hvalue : b.toNat = c.toNat := by
    rw [h, UInt8.toNat_ofNat']
    omega
  rw [hvalue, Char.ofNat_toNat]
  exact ⟨rfl, by rw [encodeChar_of_lt hsmall, h]⟩

/-! ## What bytes stand for -/

/-- A character could begin with these bytes, or be them. -/
def Begins (q : List UInt8) : Prop := ∃ c, q <+: encodeChar c

theorem Begins.of_prefix (h : Begins r) (hq : q <+: r) : Begins q := by
  obtain ⟨c, hc⟩ := h
  exact ⟨c, hq.trans hc⟩

/-- The bytes `q` in front of `rest` are an undecodable piece. -/
structure Undecodable (q rest : List UInt8) : Prop where
  /-- No character stands here. -/
  noChar : ∀ c, ¬encodeChar c <+: q ++ rest
  ne_nil : q ≠ []
  begins : Begins q ∨ q.length = 1
  /-- No longer piece would do. -/
  longest : ∀ r, r <+: rest → r ≠ [] → ¬Begins (q ++ r)

/-- The text of bytes: characters where they stand, and the replacement character for each
undecodable piece. -/
inductive Decodes : List UInt8 → List Char → Prop
  | nil : Decodes [] []
  | char (c : Char) {rest : List UInt8} {text : List Char} (hrest : Decodes rest text) :
      Decodes (encodeChar c ++ rest) (c :: text)
  | piece {q rest : List UInt8} {text : List Char} (hpiece : Undecodable q rest)
      (hrest : Decodes rest text) : Decodes (q ++ rest) (replacement :: text)

theorem Undecodable.length_le {q' rest' : List UInt8} (h : Undecodable q rest)
    (h' : Undecodable q' rest') (heq : q ++ rest = q' ++ rest') : q'.length ≤ q.length := by
  rcases List.append_eq_append_iff.1 heq with ⟨r, rfl, hrest⟩ | ⟨r, rfl, -⟩
  · cases r with
    | nil => simp
    | cons b r =>
      exfalso
      rcases h'.begins with hbegins | hone
      · exact h.longest (b :: r) ⟨rest', hrest.symm⟩ (List.cons_ne_nil b r) hbegins
      · have hpos := List.length_pos_iff.2 h.ne_nil
        rw [List.length_append, List.length_cons] at hone
        omega
  · simp

/-- Bytes stand for one text only. -/
theorem Decodes.unique {text' : List Char} (h : Decodes bytes text) (h' : Decodes bytes text') :
    text = text' := by
  induction h generalizing text' with
  | nil =>
    generalize hbytes : ([] : List UInt8) = bytes at h'
    cases h' with
    | nil => rfl
    | char c => simp [encodeChar_ne_nil] at hbytes
    | piece hpiece => simp [hpiece.ne_nil] at hbytes
  | @char c rest text hrest ih =>
    generalize hbytes : encodeChar c ++ rest = bytes at h'
    cases h' with
    | nil => simp [encodeChar_ne_nil] at hbytes
    | char d hrest' =>
      obtain rfl := encodeChar_append_inj hbytes
      rw [List.append_cancel_left_eq] at hbytes
      subst hbytes
      rw [ih hrest']
    | piece hpiece => exact absurd ⟨rest, hbytes⟩ (hpiece.noChar c)
  | @piece q rest text hpiece hrest ih =>
    generalize hbytes : q ++ rest = bytes at h'
    cases h' with
    | nil => simp [hpiece.ne_nil] at hbytes
    | char d => exact absurd ⟨_, hbytes.symm⟩ (hpiece.noChar d)
    | piece hpiece' hrest' =>
      have hlength := Nat.le_antisymm (hpiece'.length_le hpiece hbytes.symm)
        (hpiece.length_le hpiece' hbytes)
      obtain ⟨rfl, rfl⟩ := List.append_inj hbytes hlength
      rw [ih hrest']

/-! ## Bytes that are characters everywhere -/

theorem encodeChar_ofNat (hb : b < 0x80) : encodeChar (Char.ofNat b.toNat) = [b] := by
  rw [UInt8.lt_iff_toNat_lt] at hb
  have hnumber := toNat_ofNat_of_valid (n := b.toNat) (Or.inl (Nat.lt_trans hb (by decide)))
  rw [encodeChar_of_lt (by rwa [hnumber]), hnumber, UInt8.ofNat_toNat]

theorem not_begins_of_mem (hb : b < 0x80) (hmem : b ∈ q) (hlength : 2 ≤ q.length) : ¬Begins q := by
  rintro ⟨c, hc⟩
  obtain ⟨-, hone⟩ := encodeChar_of_mem (hc.subset hmem) hb
  have hle := hc.length_le
  rw [hone, List.length_singleton] at hle
  omega

theorem prefix_or_mem_of_prefix (h : r <+: q ++ b :: rest) : r <+: q ∨ b ∈ r := by
  obtain ⟨s, hs⟩ := h
  rcases List.append_eq_append_iff.1 hs with ⟨t, hq, -⟩ | ⟨t, hr, hs⟩
  · exact Or.inl ⟨t, hq.symm⟩
  · cases t with
    | nil => exact Or.inl ⟨[], by rw [hr, List.append_nil, List.append_nil]⟩
    | cons b' t =>
      cases hs
      exact Or.inr (by simp [hr])

/-- A piece ends in front of a byte that is a character by itself. -/
theorem Undecodable.append_byte (h : Undecodable q r) (hb : b < 0x80) (rest : List UInt8) :
    Undecodable q (r ++ b :: rest) := by
  have hpos := List.length_pos_iff.2 h.ne_nil
  refine ⟨?_, h.ne_nil, h.begins, ?_⟩
  · intro c hc
    rw [← List.append_assoc] at hc
    rcases prefix_or_mem_of_prefix hc with hc | hmem
    · exact h.noChar c hc
    · -- the character would be that byte, and stand where the piece begins
      obtain ⟨-, hone⟩ := encodeChar_of_mem hmem hb
      refine h.noChar c (List.prefix_of_prefix_length_le hc (List.prefix_append _ _) ?_)
      rw [hone, List.length_singleton, List.length_append]
      omega
  · intro s hs hne hbegins
    rcases prefix_or_mem_of_prefix hs with hs | hmem
    · exact h.longest s hs hne hbegins
    · refine not_begins_of_mem hb (List.mem_append_right q hmem) ?_ hbegins
      have := List.length_pos_iff.2 hne
      rw [List.length_append]
      omega

theorem Decodes.append_byte {text' : List Char} (h : Decodes q text) (hb : b < 0x80)
    (hrest : Decodes rest text') :
    Decodes (q ++ b :: rest) (text ++ Char.ofNat b.toNat :: text') := by
  induction h with
  | nil =>
    rw [List.nil_append, ← List.singleton_append, ← encodeChar_ofNat hb]
    exact .char _ hrest
  | char c _ ih =>
    rw [List.append_assoc, List.cons_append]
    exact .char c ih
  | piece hpiece _ ih =>
    rw [List.append_assoc, List.cons_append]
    exact .piece (hpiece.append_byte hb rest) ih

theorem replacement_ne (hc : c.toNat < 0x80) : c ≠ replacement := by
  rintro rfl
  exact absurd hc (by decide)

theorem Decodes.mem_of_mem (h : Decodes bytes text) (hc : c.toNat < 0x80) (hmem : c ∈ text) :
    UInt8.ofNat c.toNat ∈ bytes := by
  induction h with
  | nil => cases hmem
  | char d _ ih =>
    rcases List.mem_cons.1 hmem with rfl | hmem
    · rw [encodeChar_of_lt hc]
      simp
    · exact List.mem_append_right _ (ih hmem)
  | piece _ _ ih =>
    rcases List.mem_cons.1 hmem with heq | hmem
    · exact absurd heq (replacement_ne hc)
    · exact List.mem_append_right _ (ih hmem)

theorem Decodes.eq_nil (h : Decodes bytes []) : bytes = [] := by
  cases h
  rfl

theorem Decodes.concat {text' : List Char} (h : Decodes bytes text) (hc : c.toNat < 0x80)
    (htext : text = text' ++ [c]) : ∃ q, bytes = q ++ [UInt8.ofNat c.toNat] := by
  induction h generalizing text' with
  | nil => simp at htext
  | @char d rest text hrest ih =>
    rcases List.cons_eq_append_iff.1 htext with ⟨rfl, hone⟩ | ⟨text', rfl, hmore⟩
    · cases hone
      rw [hrest.eq_nil, encodeChar_of_lt hc]
      exact ⟨[], rfl⟩
    · obtain ⟨q, rfl⟩ := ih hmore
      exact ⟨encodeChar d ++ q, (List.append_assoc ..).symm⟩
  | @piece q rest text _ _ ih =>
    rcases List.cons_eq_append_iff.1 htext with ⟨rfl, hone⟩ | ⟨text', rfl, hmore⟩
    · cases hone
      exact absurd rfl (replacement_ne hc)
    · obtain ⟨q', rfl⟩ := ih hmore
      exact ⟨q ++ q', (List.append_assoc ..).symm⟩

end FilterSync.Text
