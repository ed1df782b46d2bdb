import FilterSync.Proofs.Text.Encoding
import FilterSync.Text.Lines

/-!
# The decoder

The decoder reads bytes one at a time. Of a character that is not yet complete it knows which
numbers are left, and that is enough to tell whether the next byte belongs to it. So it makes of
bytes the text that they stand for.

Line ends are found in the text where they are in the bytes, and what cannot be decoded stays within
its line.

Main statements: `Text.decodes_iff` and `Text.lines_decodeLossy`.
-/

namespace FilterSync.Text

variable {c : Char} {b : UInt8} {q rest bytes : List UInt8} {text : List Char} {p : Partial}

/-! ## The decoder -/

namespace Partial

/-- The least number of a character that has begun like this. -/
def least (p : Partial) : Nat :=
  p.value * 0x40 ^ (p.more + 1) + (p.low.toNat - 0x80) * 0x40 ^ p.more

/-- The number behind the greatest one of a character that has begun like this. -/
def bound (p : Partial) : Nat :=
  p.value * 0x40 ^ (p.more + 1) + (p.high.toNat - 0x7F) * 0x40 ^ p.more

/-- The decoder that has read `q` knows which characters begin with it: those in a range of
numbers, which all have as many bytes more. -/
structure Follows (p : Partial) (q : List UInt8) : Prop where
  ne_nil : q ≠ []
  more_le : p.more ≤ 2
  bytes : 0x80 ≤ p.low.toNat ∧ p.low.toNat ≤ p.high.toNat ∧ p.high.toNat ≤ 0xBF
  valid : ∀ n, p.least ≤ n → n < p.bound → n.isValidChar
  encodes : ∀ c : Char, p.least ≤ c.toNat → c.toNat < p.bound →
    encodeChar c = q ++ tailBytes (p.more + 1) c.toNat
  only : ∀ c, q <+: encodeChar c → p.least ≤ c.toNat ∧ c.toNat < p.bound

end Partial

theorem singleton_prefix_iff : [b] <+: encodeChar c ↔
    (c.toNat < 0x80 ∧ b.toNat = c.toNat) ∨
    (0x80 ≤ c.toNat ∧ c.toNat < 0x800 ∧ b.toNat = 0xC0 + c.toNat / 0x40) ∨
    (0x800 ≤ c.toNat ∧ c.toNat < 0x10000 ∧ b.toNat = 0xE0 + c.toNat / 0x1000) ∨
    (0x10000 ≤ c.toNat ∧ b.toNat = 0xF0 + c.toNat / 0x40000) := by
  rcases encodeChar_cases c with ⟨hc, ec⟩ | ⟨hc, hc', ec⟩ | ⟨hc, hc', ec⟩ | ⟨hc, hc', ec⟩ <;>
  · rw [ec]
    simp only [List.cons_prefix_cons, List.nil_prefix, and_true, ← UInt8.toNat_inj,
      UInt8.toNat_ofNat']
    omega

namespace Partial

/-- The first of two bytes. -/
theorem follows_two (h : 0xC2 ≤ b.toNat) (h' : b.toNat ≤ 0xDF) :
    Follows ⟨b.toNat - 0xC0, 0, 0x80, 0xBF⟩ [b] := by
  refine ⟨by simp, by simp, by simp, ?valid, ?encodes, ?only⟩
  case valid =>
    simp only [least, bound, UInt8.reduceToNat, Nat.isValidChar]
    omega
  case encodes =>
    intro c hleast hbound
    simp only [least, bound, UInt8.reduceToNat] at hleast hbound
    have hb : 0xC0 + c.toNat / 0x40 = b.toNat := by omega
    rcases encodeChar_cases c with ⟨hc, ec⟩ | ⟨hc, hc', ec⟩ | ⟨hc, hc', ec⟩ | ⟨hc, hc', ec⟩
    · omega
    · rw [ec, hb, UInt8.ofNat_toNat]
      rfl
    · omega
    · omega
  case only =>
    intro c hc
    rw [singleton_prefix_iff] at hc
    simp only [least, bound, UInt8.reduceToNat]
    omega

/-- The first of three bytes. The second one keeps characters of two bytes and surrogates out. -/
theorem follows_three {low high : UInt8} (h : 0xE0 ≤ b.toNat) (h' : b.toNat ≤ 0xEF)
    (hlow : low.toNat = if b.toNat = 0xE0 then 0xA0 else 0x80)
    (hhigh : high.toNat = if b.toNat = 0xED then 0x9F else 0xBF) :
    Follows ⟨b.toNat - 0xE0, 1, low, high⟩ [b] := by
  refine ⟨by simp, by simp, ?bytes, ?valid, ?encodes, ?only⟩
  case bytes =>
    dsimp only
    split at hlow <;> split at hhigh <;> omega
  case valid =>
    simp only [least, bound, Nat.isValidChar]
    split at hlow <;> split at hhigh <;> omega
  case encodes =>
    intro c hleast hbound
    simp only [least, bound] at hleast hbound
    have hrange : 0x800 ≤ c.toNat ∧ c.toNat < 0x10000 := by
      split at hlow <;> split at hhigh <;> omega
    have hb : 0xE0 + c.toNat / 0x1000 = b.toNat := by
      split at hlow <;> split at hhigh <;> omega
    rcases encodeChar_cases c with ⟨hc, ec⟩ | ⟨hc, hc', ec⟩ | ⟨hc, hc', ec⟩ | ⟨hc, hc', ec⟩
    · omega
    · omega
    · rw [ec, hb, UInt8.ofNat_toNat]
      rfl
    · omega
  case only =>
    intro c hc
    have hchar := toNat_lt_of_char c
    rw [singleton_prefix_iff] at hc
    simp only [least, bound]
    split at hlow <;> split at hhigh <;> omega

/-- The first of four bytes. The second one keeps characters of three bytes and numbers that are
too large out. -/
theorem follows_four {low high : UInt8} (h : 0xF0 ≤ b.toNat) (h' : b.toNat ≤ 0xF4)
    (hlow : low.toNat = if b.toNat = 0xF0 then 0x90 else 0x80)
    (hhigh : high.toNat = if b.toNat = 0xF4 then 0x8F else 0xBF) :
    Follows ⟨b.toNat - 0xF0, 2, low, high⟩ [b] := by
  refine ⟨by simp, by simp, ?bytes, ?valid, ?encodes, ?only⟩
  case bytes =>
    dsimp only
    split at hlow <;> split at hhigh <;> omega
  case valid =>
    simp only [least, bound, Nat.isValidChar]
    split at hlow <;> split at hhigh <;> omega
  case encodes =>
    intro c hleast hbound
    simp only [least, bound] at hleast hbound
    have hrange : 0x10000 ≤ c.toNat := by
      split at hlow <;> split at hhigh <;> omega
    have hb : 0xF0 + c.toNat / 0x40000 = b.toNat := by
      split at hlow <;> split at hhigh <;> omega
    rcases encodeChar_cases c with ⟨hc, ec⟩ | ⟨hc, hc', ec⟩ | ⟨hc, hc', ec⟩ | ⟨hc, hc', ec⟩
    · omega
    · omega
    · omega
    · rw [ec, hb, UInt8.ofNat_toNat]
      rfl
  case only =>
    intro c hc
    have hchar := toNat_lt_of_char c
    rw [singleton_prefix_iff] at hc
    simp only [least, bound]
    split at hlow <;> split at hhigh <;> omega

end Partial

/-- Where a character may begin, a byte is a character, or the first of several, or neither. -/
theorem firstByte_cases (b : UInt8) :
    (∃ c, firstByte b = (some (some c), none) ∧ encodeChar c = [b]) ∨
    (∃ p : Partial, firstByte b = (none, some p) ∧ p.Follows [b]) ∨
    (firstByte b = (some none, none) ∧ ¬Begins [b]) := by
  unfold firstByte
  simp only [UInt8.lt_iff_toNat_lt, UInt8.le_iff_toNat_le, ← UInt8.toNat_inj, UInt8.reduceToNat]
  split
  · next h =>
    have hnumber : (Char.ofNat b.toNat).toNat = b.toNat :=
      toNat_ofNat_of_valid (Or.inl (by omega))
    refine Or.inl ⟨_, rfl, ?_⟩
    rw [encodeChar_of_lt (by omega), hnumber, UInt8.ofNat_toNat]
  split
  · next h => exact Or.inr (Or.inl ⟨_, rfl, Partial.follows_two h.1 h.2⟩)
  split
  · next h =>
    refine Or.inr (Or.inl ⟨_, rfl, ?_⟩)
    have hfollows : Partial.Follows ⟨b.toNat - 0xE0, 1, 0xA0, 0xBF⟩ [b] :=
      Partial.follows_three (by omega) (by omega) (by simp [h]) (by simp [h])
    rwa [h] at hfollows
  split
  · next h =>
    refine Or.inr (Or.inl ⟨_, rfl, ?_⟩)
    have hfollows : Partial.Follows ⟨b.toNat - 0xE0, 1, 0x80, 0x9F⟩ [b] :=
      Partial.follows_three (by omega) (by omega) (by simp [h]) (by simp [h])
    rwa [h] at hfollows
  split
  · next hE0 hED h =>
    refine Or.inr (Or.inl ⟨_, rfl, ?_⟩)
    exact Partial.follows_three (by omega) h.2 (by simp [hE0]) (by simp [hED])
  split
  · next h =>
    refine Or.inr (Or.inl ⟨_, rfl, ?_⟩)
    have hfollows : Partial.Follows ⟨b.toNat - 0xF0, 2, 0x90, 0xBF⟩ [b] :=
      Partial.follows_four (by omega) (by omega) (by simp [h]) (by simp [h])
    rwa [h] at hfollows
  split
  · next hF0 h =>
    refine Or.inr (Or.inl ⟨_, rfl, ?_⟩)
    refine Partial.follows_four (by omega) (by omega) (by simp [hF0]) ?_
    rw [if_neg (by omega)]
    rfl
  split
  · next h =>
    refine Or.inr (Or.inl ⟨_, rfl, ?_⟩)
    have hfollows : Partial.Follows ⟨b.toNat - 0xF0, 2, 0x80, 0x8F⟩ [b] :=
      Partial.follows_four (by omega) (by omega) (by simp [h]) (by simp [h])
    rwa [h] at hfollows
  · refine Or.inr (Or.inr ⟨rfl, ?_⟩)
    rintro ⟨c, hc⟩
    have hchar := toNat_lt_of_char c
    rw [singleton_prefix_iff] at hc
    omega

theorem singleton_prefix_tailBytes_iff {k n : Nat} :
    [b] <+: tailBytes (k + 1) n ↔ b.toNat = 0x80 + n / 0x40 ^ k % 0x40 := by
  rw [tailBytes, List.cons_prefix_cons, ← UInt8.toNat_inj, UInt8.toNat_ofNat']
  simp only [List.nil_prefix, and_true]
  omega

namespace Partial

variable {value more : Nat} {low high : UInt8}

/-- The next byte says in which of 64 parts of the range a number is. -/
theorem range_next_iff (value : Nat) (hmore : more ≤ 1)
    (hbytes : 0x80 ≤ low.toNat ∧ low.toNat ≤ high.toNat ∧ high.toNat ≤ 0xBF)
    (hb : low.toNat ≤ b.toNat ∧ b.toNat ≤ high.toNat) (n : Nat) :
    (least ⟨value * 0x40 + (b.toNat - 0x80), more, 0x80, 0xBF⟩ ≤ n ∧
        n < bound ⟨value * 0x40 + (b.toNat - 0x80), more, 0x80, 0xBF⟩) ↔
      (least ⟨value, more + 1, low, high⟩ ≤ n ∧ n < bound ⟨value, more + 1, low, high⟩) ∧
        b.toNat = 0x80 + n / 0x40 ^ (more + 1) % 0x40 := by
  simp only [least, bound, UInt8.reduceToNat]
  obtain rfl | rfl : more = 0 ∨ more = 1 := by omega
  · omega
  · omega

/-- A character begins with one byte more if the byte is the next one of its number. -/
theorem Follows.concat_prefix_iff (h : p.Follows q) :
    q ++ [b] <+: encodeChar c ↔ (p.least ≤ c.toNat ∧ c.toNat < p.bound) ∧
      b.toNat = 0x80 + c.toNat / 0x40 ^ p.more % 0x40 := by
  constructor
  · intro hc
    obtain ⟨hleast, hbound⟩ := h.only c ((List.prefix_append q [b]).trans hc)
    rw [h.encodes c hleast hbound, List.prefix_append_right_inj,
      singleton_prefix_tailBytes_iff] at hc
    exact ⟨⟨hleast, hbound⟩, hc⟩
  · rintro ⟨⟨hleast, hbound⟩, hb⟩
    rw [h.encodes c hleast hbound, List.prefix_append_right_inj, singleton_prefix_tailBytes_iff]
    exact hb

theorem Follows.next (h : Follows ⟨value, more + 1, low, high⟩ q)
    (hb : low.toNat ≤ b.toNat ∧ b.toNat ≤ high.toNat) :
    Follows ⟨value * 0x40 + (b.toNat - 0x80), more, 0x80, 0xBF⟩ (q ++ [b]) := by
  have hmore : more ≤ 1 := Nat.le_of_succ_le_succ h.more_le
  have hrange := range_next_iff value hmore h.bytes hb
  refine ⟨by simp, Nat.le_succ_of_le hmore, by simp, ?valid, ?encodes, ?only⟩
  case valid =>
    intro n hleast hbound
    obtain ⟨⟨hleast, hbound⟩, -⟩ := (hrange n).1 ⟨hleast, hbound⟩
    exact h.valid n hleast hbound
  case encodes =>
    intro c hleast hbound
    obtain ⟨⟨hleast, hbound⟩, hvalue⟩ := (hrange c.toNat).1 ⟨hleast, hbound⟩
    rw [h.encodes c hleast hbound, tailBytes, ← hvalue, UInt8.ofNat_toNat, List.append_assoc]
    rfl
  case only =>
    intro c hc
    exact (hrange c.toNat).2 (h.concat_prefix_iff.1 hc)

/-- The last byte. -/
theorem Follows.last (h : Follows ⟨value, 0, low, high⟩ q)
    (hb : low.toNat ≤ b.toNat ∧ b.toNat ≤ high.toNat) :
    encodeChar (Char.ofNat (value * 0x40 + (b.toNat - 0x80))) = q ++ [b] := by
  obtain ⟨n, hn⟩ : ∃ n, value * 0x40 + (b.toNat - 0x80) = n := ⟨_, rfl⟩
  have hbytes := h.bytes
  have hleast : least ⟨value, 0, low, high⟩ ≤ n := by
    simp only [least] at *
    omega
  have hbound : n < bound ⟨value, 0, low, high⟩ := by
    simp only [bound] at *
    omega
  have hnumber := toNat_ofNat_of_valid (h.valid n hleast hbound)
  have hencodes := h.encodes (Char.ofNat n)
  rw [hnumber] at hencodes
  have hbyte : 0x80 + n / 0x40 ^ 0 % 0x40 = b.toNat := by
    simp only at hbytes
    omega
  rw [hn, hencodes hleast hbound, tailBytes, hbyte, UInt8.ofNat_toNat]
  rfl

end Partial

/-- Where a character goes on, a byte ends it, or is one more of it, or does not belong to it. -/
theorem nextByte_cases (h : p.Follows q) (b : UInt8) :
    (∃ c, nextByte p b = some (some (some c), none) ∧ encodeChar c = q ++ [b]) ∨
    (∃ p' : Partial, nextByte p b = some (none, some p') ∧ p'.Follows (q ++ [b])) ∨
    (nextByte p b = none ∧ ¬Begins (q ++ [b])) := by
  obtain ⟨value, more, low, high⟩ := p
  unfold nextByte
  simp only [UInt8.le_iff_toNat_le]
  split
  · next hb =>
    cases more with
    | zero => exact Or.inl ⟨_, rfl, h.last hb⟩
    | succ more => exact Or.inr (Or.inl ⟨_, rfl, h.next hb⟩)
  · next hb =>
    refine Or.inr (Or.inr ⟨rfl, ?_⟩)
    rintro ⟨c, hc⟩
    obtain ⟨⟨hleast, hbound⟩, hbyte⟩ := h.concat_prefix_iff.1 hc
    apply hb
    have hmore := h.more_le
    have hbytes := h.bytes
    simp only [Partial.least, Partial.bound] at *
    obtain rfl | rfl | rfl : more = 0 ∨ more = 1 ∨ more = 2 := by omega
    · omega
    · omega
    · omega

namespace Partial

/-- There is a character that begins like this and is not all there yet. -/
theorem Follows.exists_encodeChar (h : p.Follows q) :
    ∃ c tail, encodeChar c = q ++ tail ∧ tail ≠ [] := by
  have hbytes := h.bytes
  have hbound : p.least < p.bound := by
    have hpos := Nat.pow_pos (n := p.more) (a := 0x40) (by decide)
    unfold least bound
    apply Nat.add_lt_add_left
    exact Nat.mul_lt_mul_of_pos_right (by omega) hpos
  have hnumber := toNat_ofNat_of_valid (h.valid p.least (Nat.le_refl _) hbound)
  refine ⟨Char.ofNat p.least, _, h.encodes _ (by rw [hnumber]) (by rwa [hnumber]), ?_⟩
  exact List.cons_ne_nil _ _

/-- No character is all there in what was read. -/
theorem Follows.not_prefix (h : p.Follows q) (d : Char) : ¬encodeChar d <+: q := by
  rintro ⟨r, rfl⟩
  obtain ⟨c, tail, hc, htail⟩ := h.exists_encodeChar
  have hcd : encodeChar d ++ (r ++ tail) = encodeChar c ++ [] := by
    rw [List.append_nil, hc, List.append_assoc]
  obtain rfl := encodeChar_append_inj hcd
  rw [List.append_cancel_left_eq, List.append_eq_nil_iff] at hcd
  exact htail hcd.2

/-- What was read of a character is a piece if its next byte does not come. -/
theorem Follows.undecodable (h : p.Follows q)
    (hrest : ∀ b rest', rest = b :: rest' → ¬Begins (q ++ [b])) : Undecodable q rest := by
  have hlonger : ∀ r, r <+: rest → r ≠ [] → ¬Begins (q ++ r) := by
    rintro r ⟨rest', rfl⟩ hne hbegins
    obtain ⟨b, r, rfl⟩ := List.exists_cons_of_ne_nil hne
    exact hrest b _ rfl (hbegins.of_prefix ⟨r, by simp⟩)
  obtain ⟨c, tail, hc, -⟩ := h.exists_encodeChar
  refine ⟨?_, h.ne_nil, Or.inl ⟨c, tail, hc.symm⟩, hlonger⟩
  rintro d ⟨s, hs⟩
  rcases List.append_eq_append_iff.1 hs with ⟨r, hq, -⟩ | ⟨r, hd, hr⟩
  · exact h.not_prefix d ⟨r, hq.symm⟩
  · cases r with
    | nil => exact h.not_prefix d ⟨[], by rw [hd, List.append_nil, List.append_nil]⟩
    | cons b r =>
      refine hlonger (b :: r) ⟨s, hr.symm⟩ (List.cons_ne_nil b r) ⟨d, ?_⟩
      rw [hd]

end Partial

/-- A byte that no character begins with is a piece. -/
theorem undecodable_singleton (h : ¬Begins [b]) : Undecodable [b] rest := by
  refine ⟨?_, List.cons_ne_nil _ _, Or.inr rfl, ?_⟩
  · intro c hc
    obtain ⟨first, more, hfirst⟩ := List.exists_cons_of_ne_nil (encodeChar_ne_nil c)
    rw [hfirst, List.singleton_append, List.cons_prefix_cons] at hc
    exact h ⟨c, by rw [hfirst, hc.1]; exact ⟨more, rfl⟩⟩
  · intro r _ _ hbegins
    exact h (hbegins.of_prefix ⟨r, rfl⟩)

/-- The text of bytes behind the beginning of a character. -/
def lossyFrom (begun : Option Partial) (bytes : List UInt8) : List Char :=
  (decodeFrom begun bytes).map (·.getD replacement)

theorem lossyFrom_cons_of_next {piece : Option (Option Char)} {begun : Option Partial}
    (h : nextByte p b = some (piece, begun)) (bytes : List UInt8) :
    lossyFrom (some p) (b :: bytes) =
      piece.toList.map (·.getD replacement) ++ lossyFrom begun bytes := by
  simp only [lossyFrom, decodeFrom, Option.bind_some, h, List.map_append]

theorem lossyFrom_cons_of_first {piece : Option (Option Char)} {begun : Option Partial}
    (h : firstByte b = (piece, begun)) (bytes : List UInt8) :
    lossyFrom none (b :: bytes) =
      piece.toList.map (·.getD replacement) ++ lossyFrom begun bytes := by
  simp only [lossyFrom, decodeFrom, Option.bind_none, h, List.map_append]
  rfl

/-- A byte that does not go on with a character is read where a character may begin. -/
theorem lossyFrom_cons_of_not_next (h : nextByte p b = none) (bytes : List UInt8) :
    lossyFrom (some p) (b :: bytes) = replacement :: lossyFrom none (b :: bytes) := by
  simp only [lossyFrom, decodeFrom, Option.bind_some, Option.bind_none, h, List.map_append]
  rfl

/-- The decoder, whether or not a character has begun in front of the bytes. -/
theorem decodes_lossyFrom (bytes : List UInt8) :
    Decodes bytes (lossyFrom none bytes) ∧
      ∀ p q, p.Follows q → Decodes (q ++ bytes) (lossyFrom (some p) bytes) := by
  induction bytes with
  | nil =>
    refine ⟨.nil, ?_⟩
    intro p q h
    exact .piece (h.undecodable fun _ _ hnil => nomatch hnil) .nil
  | cons b bytes ih =>
    obtain ⟨ihNone, ihSome⟩ := ih
    have hnone : Decodes (b :: bytes) (lossyFrom none (b :: bytes)) := by
      rcases firstByte_cases b with ⟨c, hfirst, hc⟩ | ⟨p, hfirst, hp⟩ | ⟨hfirst, hb⟩
      · rw [lossyFrom_cons_of_first hfirst, ← List.singleton_append, ← hc]
        exact .char c ihNone
      · rw [lossyFrom_cons_of_first hfirst]
        exact ihSome p [b] hp
      · rw [lossyFrom_cons_of_first hfirst]
        exact .piece (undecodable_singleton hb) ihNone
    refine ⟨hnone, ?_⟩
    intro p q h
    have hsplit : q ++ b :: bytes = (q ++ [b]) ++ bytes := by simp
    rcases nextByte_cases h b with ⟨c, hnext, hc⟩ | ⟨p', hnext, hp'⟩ | ⟨hnext, hb⟩
    · rw [lossyFrom_cons_of_next hnext, hsplit, ← hc]
      exact .char c ihNone
    · rw [lossyFrom_cons_of_next hnext, hsplit]
      exact ihSome p' (q ++ [b]) hp'
    · rw [lossyFrom_cons_of_not_next hnext]
      refine .piece (h.undecodable ?_) hnone
      intro b' rest' heq
      cases heq
      exact hb

/-- The decoder makes of bytes the text that they stand for. -/
theorem decodes_iff : Decodes bytes text ↔ text = decodeLossy bytes := by
  have hlossy : Decodes bytes (decodeLossy bytes) := (decodes_lossyFrom bytes).1
  constructor
  · intro h
    exact h.unique hlossy
  · rintro rfl
    exact hlossy

theorem decodeLossy_append_byte (q rest : List UInt8) (hb : b < 0x80) :
    decodeLossy (q ++ b :: rest) = decodeLossy q ++ Char.ofNat b.toNat :: decodeLossy rest :=
  (decodes_iff.1 ((decodes_iff.2 rfl).append_byte hb (decodes_iff.2 rfl))).symm

/-! ## Lines -/

/-- A carriage return at the end of a text is one at the end of its bytes. -/
theorem decodeLossy_dropReturn (bytes : List UInt8) :
    decodeLossy (dropReturn 0x0D bytes.reverse).reverse =
      (dropReturn '\r' (decodeLossy bytes).reverse).reverse := by
  rcases List.eq_nil_or_concat' bytes with rfl | ⟨q, b, rfl⟩
  · rfl
  by_cases hb : b = 0x0D
  · have hdecode := decodeLossy_append_byte q [] (b := b) (by rw [hb]; decide)
    have hreturn : Char.ofNat b.toNat = '\r' := by
      rw [hb]
      rfl
    have hnil : decodeLossy [] = [] := rfl
    rw [hdecode, hreturn, hnil]
    simp [dropReturn, hb]
  · have hkept : dropReturn '\r' (decodeLossy (q ++ [b])).reverse =
        (decodeLossy (q ++ [b])).reverse := by
      cases hlast : (decodeLossy (q ++ [b])).reverse with
      | nil => rfl
      | cons c text =>
        rw [dropReturn, if_neg]
        rintro rfl
        have htext := List.reverse_eq_cons_iff.1 hlast
        obtain ⟨q', hq'⟩ := (decodes_iff.2 rfl).concat (by decide) htext
        have hbyte := List.append_inj_right' hq' rfl
        rw [List.singleton_inj] at hbyte
        exact hb hbyte
    rw [hkept, List.reverse_reverse]
    simp [dropReturn, hb]

/-- The lines of the text of bytes are the texts of the lines of the bytes. -/
theorem lines_decodeLossy (bytes : List UInt8) :
    lines (decodeLossy bytes) = (byteLines bytes).map decodeLossy := by
  by_cases hfeed : (0x0A : UInt8) ∈ bytes
  · obtain ⟨line, rest, hbytes, hline⟩ := List.eq_append_cons_of_mem hfeed
    have hdecode := decodeLossy_append_byte line rest (b := 0x0A) (by decide)
    have hchar : Char.ofNat (0x0A : UInt8).toNat = '\n' := rfl
    have htext : '\n' ∉ decodeLossy line := fun hmem =>
      hline ((decodes_iff.2 rfl).mem_of_mem (by decide) hmem)
    have ih := lines_decodeLossy rest
    unfold lines byteLines at ih ⊢
    rw [hbytes, hdecode, hchar, cutLines_append_lf _ _ _ _ _ htext,
      cutLines_append_lf _ _ _ _ _ hline, List.append_nil, List.append_nil, List.map_cons, ih,
      decodeLossy_dropReturn]
  · have htext : '\n' ∉ decodeLossy bytes := fun hmem =>
      hfeed ((decodes_iff.2 rfl).mem_of_mem (by decide) hmem)
    have hempty : decodeLossy bytes = [] ↔ bytes = [] := by
      constructor
      · exact fun hnil => (decodes_iff.2 hnil.symm).eq_nil
      · rintro rfl
        rfl
    unfold lines byteLines
    rw [cutLines_of_not_mem _ _ _ _ htext, cutLines_of_not_mem _ _ _ _ hfeed]
    simp only [List.append_nil, List.isEmpty_reverse, List.reverse_reverse, List.isEmpty_iff,
      hempty]
    split <;> rfl
termination_by bytes.length
decreasing_by
  rw [hbytes, List.length_append, List.length_cons]
  omega

end FilterSync.Text
