import FilterSync.Proofs.Json.Literal

/-!
# Documents read back

A document that was written is read back as itself, if no part of it is garbled: a
garbled part is written, but stands for no text, so what held it is garbled too when it
is read.

The reader has a fuel, and the length of the written text is enough of it.

Main statement: `parse?_render`.
-/

namespace FilterSync.Json

/-! ## Intact documents -/

mutual

/-- Whether no part of a document is garbled. -/
def isIntact : Json → Bool
  | null => true
  | bool _ => true
  | number _ => true
  | text _ => true
  | garbled => false
  | array items => areIntact items
  | object members => membersIntact members

/-- Whether no item is garbled. -/
def areIntact : List Json → Bool
  | [] => true
  | j :: js => isIntact j && areIntact js

/-- Whether no member is garbled. -/
def membersIntact : List (String × Json) → Bool
  | [] => true
  | (_, j) :: ms => isIntact j && membersIntact ms

end

theorem areIntact_iff {js : List Json} : areIntact js = true ↔ ∀ j ∈ js, isIntact j = true := by
  induction js with
  | nil => simp [areIntact]
  | cons j js ih => simp [areIntact, ih]

theorem membersIntact_iff {ms : List (String × Json)} :
    membersIntact ms = true ↔ ∀ m ∈ ms, isIntact m.2 = true := by
  induction ms with
  | nil => simp [membersIntact]
  | cons m ms ih => simp [membersIntact, ih]

/-! ## The first character -/

/-- The characters that a number may begin with. -/
def opensNumber (c : Char) : Bool := c = '-' || (digit? c).isSome

theorem opensNumber_digit (d : Fin 10) : opensNumber (digit d) = true := by
  simp [opensNumber, digit?_digit]

theorem render_eq_cons (n : Number) :
    ∃ c cs, n.render = c :: cs ∧ opensNumber c = true := by
  obtain ⟨d, ds, hds, -, -⟩ := toDigits_eq_map n.whole
  unfold Number.render
  rw [hds]
  cases n.negative with
  | true => exact ⟨_, _, rfl, rfl⟩
  | false => exact ⟨_, _, rfl, opensNumber_digit d⟩

/-- What a number begins with begins no other document, and is no blank and no closing
character. -/
theorem opensNumber_ne {c : Char} (h : opensNumber c = true) :
    isBlank c = false ∧ c ∉ ['n', 't', 'f', '"', '[', '\x7b', ']', '\x7d'] := by
  constructor
  · unfold isBlank
    simp only [Bool.or_eq_false_iff, decide_eq_false_iff_not]
    refine ⟨⟨⟨?_, ?_⟩, ?_⟩, ?_⟩ <;> (rintro rfl; revert h; decide)
  · simp only [List.mem_cons, List.not_mem_nil, or_false]
    rintro (rfl | rfl | rfl | rfl | rfl | rfl | rfl | rfl) <;> (revert h; decide)

/-- No document begins with a blank or with a closing bracket or brace. -/
theorem chars_eq_cons (j : Json) :
    ∃ c cs, chars j = c :: cs ∧ isBlank c = false ∧ c ≠ ']' ∧ c ≠ '\x7d' := by
  cases j with
  | null => exact ⟨'n', _, rfl, by decide⟩
  | bool b => cases b <;> exact ⟨_, _, rfl, by decide⟩
  | number n =>
    obtain ⟨c, cs, hcs, hc⟩ := render_eq_cons n
    obtain ⟨hblank, hne⟩ := opensNumber_ne hc
    refine ⟨c, cs, hcs, hblank, ?_, ?_⟩ <;> (rintro rfl; simp at hne)
  | text s => exact ⟨'"', _, rfl, by decide⟩
  | garbled => exact ⟨'"', _, rfl, by decide⟩
  | array items => exact ⟨'[', _, rfl, by decide⟩
  | object members => exact ⟨'\x7b', _, rfl, by decide⟩

theorem skipBlanks_cons {c : Char} {s : List Char} (h : isBlank c = false) :
    skipBlanks (c :: s) = c :: s := by
  simp [skipBlanks, h]

theorem skipBlanks_chars (j : Json) (rest : List Char) :
    skipBlanks (chars j ++ rest) = chars j ++ rest := by
  obtain ⟨c, cs, hcs, hc, -, -⟩ := chars_eq_cons j
  rw [hcs]
  exact skipBlanks_cons hc

/-! ## One level of the reader -/

theorem document?_number (fuel : Nat) (n : Number) {rest : List Char} (h : EndsNumber rest) :
    document? (fuel + 1) (n.render ++ rest) = some (number n, rest) := by
  have hread := number?_render n h
  obtain ⟨c, cs, hcs, hc⟩ := render_eq_cons n
  obtain ⟨hblank, hne⟩ := opensNumber_ne hc
  simp only [List.mem_cons, List.not_mem_nil, or_false, not_or] at hne
  obtain ⟨hn, ht, hf, hquote, hbracket, hbrace, -⟩ := hne
  rw [hcs, List.cons_append] at hread ⊢
  rw [document?.eq_def]
  simp only [skipBlanks_cons hblank]
  split
  · next heq => exact absurd (List.cons.inj heq).1 hn
  · next heq => exact absurd (List.cons.inj heq).1 ht
  · next heq => exact absurd (List.cons.inj heq).1 hf
  · next heq => exact absurd (List.cons.inj heq).1 hquote
  · next heq => exact absurd (List.cons.inj heq).1 hbracket
  · next heq => exact absurd (List.cons.inj heq).1 hbrace
  · rw [hread]
    rfl

theorem document?_text (fuel : Nat) (s : String) (rest : List Char) :
    document? (fuel + 1) (quote s ++ rest) = some (text s, rest) := by
  have hread := literal?_quote s rest
  simp only [quote, List.cons_append, List.append_assoc, List.nil_append] at hread ⊢
  rw [document?.eq_def]
  simp only [skipBlanks_cons (show isBlank '"' = false by decide), hread]
  rfl

theorem document?_array {fuel : Nat} {j : Json} {js : List Json} {rest : List Char}
    (h : items? fuel (itemChars (j :: js) ++ ']' :: rest) = some (j :: js, rest)) :
    document? (fuel + 1) (chars (.array (j :: js)) ++ rest) = some (array (j :: js), rest) := by
  obtain ⟨c, cs, hcs, hblank, hclose, -⟩ := chars_eq_cons j
  have hhead : ∃ cs', itemChars (j :: js) ++ ']' :: rest = c :: cs' := by
    cases js <;> simp [itemChars_singleton, itemChars_cons, hcs]
  obtain ⟨cs', hhead⟩ := hhead
  have htext : chars (.array (j :: js)) ++ rest = '[' :: c :: cs' := by
    rw [← hhead, chars_array]
    simp
  rw [hhead] at h
  rw [htext, document?.eq_def]
  simp only [skipBlanks_cons (show isBlank '[' = false by decide), skipBlanks_cons hblank]
  split
  · next heq => exact absurd (List.cons.inj heq).1 hclose
  · rw [h]
    rfl

theorem document?_object {fuel : Nat} {name : String} {j : Json} {ms : List (String × Json)}
    {rest : List Char}
    (h : members? fuel (memberChars ((name, j) :: ms) ++ '\x7d' :: rest) =
      some (some ((name, j) :: ms), rest)) :
    document? (fuel + 1) (chars (.object ((name, j) :: ms)) ++ rest) =
      some (object ((name, j) :: ms), rest) := by
  have hhead : ∃ cs', memberChars ((name, j) :: ms) ++ '\x7d' :: rest = '"' :: cs' := by
    cases ms <;> simp [memberChars_singleton, memberChars_cons, quote]
  obtain ⟨cs', hhead⟩ := hhead
  have htext : chars (.object ((name, j) :: ms)) ++ rest = '\x7b' :: '"' :: cs' := by
    rw [← hhead, chars_object]
    simp
  rw [hhead] at h
  rw [htext, document?.eq_def]
  simp only [skipBlanks_cons (show isBlank '\x7b' = false by decide),
    skipBlanks_cons (show isBlank '"' = false by decide)]
  split
  · next heq => exact absurd (List.cons.inj heq).1 (by decide)
  · rw [h]
    rfl

theorem name?_quote (name : String) (rest : List Char) :
    members?.name? (quote name ++ ':' :: rest) = some (some name, rest) := by
  have hread := literal?_quote name (':' :: rest)
  simp only [quote, List.cons_append, List.append_assoc, List.nil_append] at hread ⊢
  unfold members?.name?
  simp only [skipBlanks_cons (show isBlank '"' = false by decide), hread]
  rfl

/-! ## Reading back -/

/-- What is behind an item or a member, up to the closing character. -/
theorem endsNumber_comma (s : List Char) : EndsNumber (',' :: s) :=
  endsNumber_of_mem (by decide)

mutual

/-- The length of what was written is fuel enough to read it. -/
theorem document?_chars : ∀ (j : Json) (fuel : Nat) (rest : List Char),
    isIntact j = true → (chars j).length ≤ fuel → EndsNumber rest →
      document? fuel (chars j ++ rest) = some (j, rest)
  | j, 0, rest, _, hfuel, _ => by
    obtain ⟨c, cs, hcs, -⟩ := chars_eq_cons j
    simp [hcs] at hfuel
  | .null, fuel + 1, rest, _, _, _ => by rw [document?.eq_def]; rfl
  | .bool true, fuel + 1, rest, _, _, _ => by rw [document?.eq_def]; rfl
  | .bool false, fuel + 1, rest, _, _, _ => by rw [document?.eq_def]; rfl
  | .number n, fuel + 1, rest, _, _, hrest => document?_number fuel n hrest
  | .text s, fuel + 1, rest, _, _, _ => document?_text fuel s rest
  | .array [], fuel + 1, rest, _, _, _ => by rw [document?.eq_def]; rfl
  | .array (j :: js), fuel + 1, rest, hj, hfuel, _ => by
    simp only [isIntact] at hj
    simp only [chars_array, List.length_cons, List.length_append, List.length_nil] at hfuel
    exact document?_array (items?_itemChars j js fuel rest hj (by omega))
  | .object [], fuel + 1, rest, _, _, _ => by rw [document?.eq_def]; rfl
  | .object ((name, j) :: ms), fuel + 1, rest, hj, hfuel, _ => by
    simp only [isIntact] at hj
    simp only [chars_object, List.length_cons, List.length_append, List.length_nil] at hfuel
    exact document?_object (members?_memberChars name j ms fuel rest hj (by omega))

theorem items?_itemChars : ∀ (j : Json) (js : List Json) (fuel : Nat) (rest : List Char),
    areIntact (j :: js) = true → (itemChars (j :: js)).length + 1 ≤ fuel →
      items? fuel (itemChars (j :: js) ++ ']' :: rest) = some (j :: js, rest)
  | j, js, 0, rest, _, hfuel => by simp at hfuel
  | j, [], fuel + 1, rest, hj, hfuel => by
    simp only [areIntact, Bool.and_true] at hj
    simp only [itemChars_singleton] at hfuel ⊢
    have hread := document?_chars j fuel (']' :: rest) hj (by omega)
      (endsNumber_of_mem (by decide))
    rw [items?.eq_def]
    simp only [hread, Option.bind_eq_bind, Option.bind_some]
    simp only [skipBlanks_cons (show isBlank ']' = false by decide)]
  | j, j' :: js, fuel + 1, rest, hj, hfuel => by
    simp only [areIntact, Bool.and_eq_true] at hj
    simp only [itemChars_cons, List.length_append, List.length_cons] at hfuel
    have hread := document?_chars j fuel (',' :: (itemChars (j' :: js) ++ ']' :: rest)) hj.1
      (by omega) (endsNumber_comma _)
    have hmore := items?_itemChars j' js fuel rest (by simp [areIntact, hj.2]) (by omega)
    rw [items?.eq_def]
    simp only [itemChars_cons, List.append_assoc, List.cons_append]
    simp only [hread, Option.bind_eq_bind, Option.bind_some]
    simp only [skipBlanks_cons (show isBlank ',' = false by decide), hmore, Option.bind_some]

theorem members?_memberChars : ∀ (name : String) (j : Json) (ms : List (String × Json))
    (fuel : Nat) (rest : List Char), membersIntact ((name, j) :: ms) = true →
      (memberChars ((name, j) :: ms)).length + 1 ≤ fuel →
      members? fuel (memberChars ((name, j) :: ms) ++ '\x7d' :: rest) =
        some (some ((name, j) :: ms), rest)
  | name, j, ms, 0, rest, _, hfuel => by simp at hfuel
  | name, j, [], fuel + 1, rest, hj, hfuel => by
    simp only [membersIntact, Bool.and_true] at hj
    simp only [memberChars_singleton, List.length_append, List.length_cons] at hfuel
    have hread := document?_chars j fuel ('\x7d' :: rest) hj (by omega)
      (endsNumber_of_mem (by decide))
    rw [members?.eq_def]
    simp only [memberChars_singleton, List.append_assoc, List.cons_append]
    simp only [name?_quote, hread, Option.bind_eq_bind, Option.bind_some]
    simp only [skipBlanks_cons (show isBlank '\x7d' = false by decide)]
    rfl
  | name, j, (name', j') :: ms, fuel + 1, rest, hj, hfuel => by
    simp only [membersIntact, Bool.and_eq_true] at hj
    simp only [memberChars_cons, List.length_append, List.length_cons] at hfuel
    have hread := document?_chars j fuel
      (',' :: (memberChars ((name', j') :: ms) ++ '\x7d' :: rest)) hj.1 (by omega)
      (endsNumber_comma _)
    have hmore := members?_memberChars name' j' ms fuel rest (by simp [membersIntact, hj.2])
      (by omega)
    rw [members?.eq_def]
    simp only [memberChars_cons, List.append_assoc, List.cons_append]
    simp only [name?_quote, hread, Option.bind_eq_bind, Option.bind_some]
    simp only [skipBlanks_cons (show isBlank ',' = false by decide), hmore, Option.bind_some]

end

/-- A document that was written is read back. -/
theorem parse?_render {j : Json} (h : isIntact j = true) : parse? j.render = some j := by
  have hread := document?_chars j ((chars j).length + 1) [] h (Nat.le_succ _) endsNumber_nil
  rw [List.append_nil] at hread
  unfold parse? take? render
  rw [String.toList_ofList, hread]
  rfl

end FilterSync.Json
