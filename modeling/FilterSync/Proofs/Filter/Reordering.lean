import FilterSync.Proofs.Filter.Canonical

/-!
# Options in another order

The resource types of a filter are a set, and a marker in one of the options is found wherever the
option stands. But markers are looked for in the whole body, and there the first option stands
directly behind the pattern: `^$popup` and `#$#` have their first character in the pattern and the
others in the first option. So the order of the options counts for which of them is the first one,
and for nothing else.

Main statements: `Filter.isMarked_withOptions_iff` and `Rule.options_in_any_order`.
-/

namespace FilterSync

open FilterSync.Text

namespace Filter

/-- The body of a filter with the given options. -/
def withOptions (pattern : List Char) (tokens : List (List Char)) : List Char :=
  pattern ++ optionMark :: joined tokens

/-- What stands on the two sides of the `$` of a marker. -/
def markerHalves : List (String × String) := [("^", "popup"), ("#", "#")]

/-- The end of a pattern and the beginning of the first option make a marker. -/
def MeetInMarker (pattern : List Char) (tokens : List (List Char)) : Prop :=
  ∃ halves ∈ markerHalves, halves.1.toList <:+ pattern ∧
    ∃ first ∈ tokens.head?, halves.2.toList <+: first

theorem halves_of_marker {marker : String} {a b : List Char}
    (hmem : marker ∈ refusedMarkers) (hmarker : marker.toList = a ++ optionMark :: b) :
    ∃ halves ∈ markerHalves, halves.1.toList = a ∧ halves.2.toList = b := by
  have hcases : ∀ marker ∈ refusedMarkers, optionMark ∉ marker.toList ∨
      ∃ halves ∈ markerHalves, marker.toList = halves.1.toList ++ optionMark :: halves.2.toList ∧
        optionMark ∉ halves.1.toList ∧ optionMark ∉ halves.2.toList := by decide
  rcases hcases marker hmem with hnone | ⟨halves, hhalves, heq, hfront, hback⟩
  · rw [hmarker] at hnone
    exact absurd (by simp) hnone
  · rw [hmarker] at heq
    obtain ⟨ha, -, hb⟩ := (List.append_cons_inj_of_notMem hfront hback).1 heq.symm
    exact ⟨halves, hhalves, ha, hb⟩

/-- A marker reaches from the pattern into the options iff it is made by the end of the one and the
beginning of the first of the others. -/
theorem reaches_across_iff {pattern : List Char} {tokens : List (List Char)} :
    (∃ marker ∈ refusedMarkers, ∃ a b, marker.toList = a ++ optionMark :: b ∧ a <:+ pattern ∧
      b <+: joined tokens) ↔ MeetInMarker pattern tokens := by
  have hbegins : ∀ halves ∈ markerHalves,
      halves.2.toList <+: joined tokens ↔ ∃ first ∈ tokens.head?, halves.2.toList <+: first := by
    intro halves hhalves
    have hapart : ∀ halves ∈ markerHalves,
        optionSeparator ∉ halves.2.toList ∧ halves.2.toList ≠ [] := by decide
    obtain ⟨hseparator, hne⟩ := hapart halves hhalves
    cases tokens with
    | nil => simpa [joined] using hne
    | cons first rest => simp [joined, prefix_intercalate_cons_iff hseparator]
  constructor
  · rintro ⟨marker, hmem, a, b, hmarker, ha, hb⟩
    obtain ⟨halves, hhalves, rfl, rfl⟩ := halves_of_marker hmem hmarker
    exact ⟨halves, hhalves, ha, (hbegins halves hhalves).1 hb⟩
  · rintro ⟨halves, hhalves, ha, hfirst⟩
    have hmarkers : ∀ halves ∈ markerHalves, ∃ marker ∈ refusedMarkers,
        marker.toList = halves.1.toList ++ optionMark :: halves.2.toList := by decide
    obtain ⟨marker, hmem, hmarker⟩ := hmarkers halves hhalves
    exact ⟨marker, hmem, _, _, hmarker, ha, (hbegins halves hhalves).2 hfirst⟩

/-- A filter is marked in its pattern, in one of its options, or where the two meet. -/
theorem isMarked_withOptions_iff {pattern : List Char} {tokens : List (List Char)} :
    IsMarked (withOptions pattern tokens) ↔
      IsMarked pattern ∨ (∃ token ∈ tokens, IsMarked token) ∨ MeetInMarker pattern tokens := by
  have hapart : ∀ marker ∈ refusedMarkers,
      optionSeparator ∉ marker.toList ∧ marker.toList ≠ [] := by decide
  rw [← reaches_across_iff]
  constructor
  · rintro ⟨marker, hmem, hmarker⟩
    obtain ⟨hseparator, hne⟩ := hapart marker hmem
    rcases infix_append_cons_iff.1 hmarker with hpattern | htokens | hacross
    · exact Or.inl ⟨marker, hmem, hpattern⟩
    · obtain ⟨token, htoken, hin⟩ := (infix_intercalate_iff hne hseparator).1 htokens
      exact Or.inr (Or.inl ⟨token, htoken, marker, hmem, hin⟩)
    · exact Or.inr (Or.inr ⟨marker, hmem, hacross⟩)
  · rintro (⟨marker, hmem, hpattern⟩ | ⟨token, htoken, marker, hmem, hin⟩ | ⟨marker, hmem, hacross⟩)
    · exact ⟨marker, hmem, infix_append_cons_iff.2 (Or.inl hpattern)⟩
    · obtain ⟨hseparator, hne⟩ := hapart marker hmem
      have htokens := (infix_intercalate_iff hne hseparator).2 ⟨token, htoken, hin⟩
      exact ⟨marker, hmem, infix_append_cons_iff.2 (Or.inr (Or.inl htokens))⟩
    · exact ⟨marker, hmem, infix_append_cons_iff.2 (Or.inr (Or.inr hacross))⟩

variable {pattern : List Char} {tokens tokens' : List (List Char)}

theorem isUnsupported_withOptions_congr (reordered : tokens.Perm tokens')
    (meets : MeetInMarker pattern tokens ↔ MeetInMarker pattern tokens') :
    isUnsupported (withOptions pattern tokens) = isUnsupported (withOptions pattern tokens') := by
  have hhead : (withOptions pattern tokens).head? = (withOptions pattern tokens').head? := by
    rw [withOptions, withOptions, List.head?_append, List.head?_append]
    rfl
  rw [Bool.eq_iff_iff, isUnsupported_iff, isUnsupported_iff, hhead, isMarked_withOptions_iff,
    isMarked_withOptions_iff, meets]
  simp only [reordered.mem_iff]

theorem namedTypes_congr (apart : ∀ token ∈ tokens, optionSeparator ∉ token)
    (reordered : tokens.Perm tokens') :
    namedTypes (some (joined tokens)) = namedTypes (some (joined tokens')) := by
  rcases List.eq_nil_or_concat' tokens with rfl | ⟨front, last, rfl⟩
  · rw [List.nil_perm.1 reordered]
  · have hlists := Lists.options (by simp) apart
    have hne : tokens' ≠ [] := by
      rintro rfl
      simpa using reordered.length_eq
    have hlists' := Lists.options hne fun token htoken => apart token (reordered.mem_iff.2 htoken)
    apply TypeSet.ext
    intro t
    rw [mem_namedTypes_iff hlists, mem_namedTypes_iff hlists']
    simp only [reordered.mem_iff]

end Filter

namespace Rule

open FilterSync.Filter

variable {pattern : List Char} {tokens tokens' : List (List Char)}

theorem compile?_of_isMarked {body : List Char} (h : IsMarked body) (isAllow : Bool)
    (id : UInt32) : compile? body isAllow id = none := by
  rw [compile?, matchPattern?, if_pos (isUnsupported_iff.2 (Or.inr h))]
  rfl

/-- Options in another order make the same rule, or are refused alike, unless the order decides
whether the first option completes a marker that the pattern begins. Where it does, the filter is
refused. -/
theorem options_in_any_order (closed : ¬HasOpening pattern)
    (bare : pattern.getLast? ≠ some escapeMark)
    (apart : ∀ token ∈ tokens, optionSeparator ∉ token) (reordered : tokens.Perm tokens')
    (isAllow : Bool) (id : UInt32) :
    ((MeetInMarker pattern tokens ↔ MeetInMarker pattern tokens') →
      compile? (withOptions pattern tokens) isAllow id =
        compile? (withOptions pattern tokens') isAllow id) ∧
    (MeetInMarker pattern tokens → compile? (withOptions pattern tokens) isAllow id = none) ∧
    (MeetInMarker pattern tokens' → compile? (withOptions pattern tokens') isAllow id = none) := by
  refine ⟨?_, ?_, ?_⟩
  · intro meets
    have hsplit : ∀ ts, splitOptions (withOptions pattern ts) = (pattern, some (joined ts)) :=
      fun ts => splits_iff.1 (.atMark (joined ts) closed bare)
    simp only [compile?, matchPattern?, hsplit, isUnsupported_withOptions_congr reordered meets,
      namedTypes_congr apart reordered]
  · intro meets
    exact compile?_of_isMarked (isMarked_withOptions_iff.2 (Or.inr (Or.inr meets))) isAllow id
  · intro meets
    exact compile?_of_isMarked (isMarked_withOptions_iff.2 (Or.inr (Or.inr meets))) isAllow id

/-- Behind a separator the order counts for a popup option in front, and else for none. -/
theorem options_in_any_order_popup :
    compile? (withOptions "||ads.example^".toList
        [" script".toList, "popup".toList, "image".toList]) false 7 =
      compile? (withOptions "||ads.example^".toList
        ["image".toList, "popup".toList, " script".toList]) false 7 ∧
    compile? (withOptions "||ads.example^".toList
      ["popup".toList, "image".toList, " script".toList]) false 7 = none := by
  have hclosed : ¬HasOpening "||ads.example^".toList := by decide
  have hbare : "||ads.example^".toList.getLast? ≠ some escapeMark := by decide
  constructor
  · refine (options_in_any_order hclosed hbare (by decide) (by decide) false 7).1 ?_
    simp [MeetInMarker, markerHalves]
  · refine (options_in_any_order hclosed hbare (by decide) (List.Perm.refl _) false 7).2.1 ?_
    exact ⟨("^", "popup"), by decide, by decide, _, rfl, List.prefix_rfl⟩

/-- Behind a separator a popup option is refused in front, but restricts the rule elsewhere. -/
theorem popup_refused_in_front :
    ¬HasOpening "||ads.example^".toList ∧
      "||ads.example^".toList.getLast? ≠ some escapeMark ∧
      ["popup".toList, "script".toList].Perm ["script".toList, "popup".toList] ∧
      compile? (withOptions "||ads.example^".toList
          ["popup".toList, "script".toList]) false 7 = none ∧
      compile? (withOptions "||ads.example^".toList
          ["script".toList, "popup".toList]) false 7 =
        some ⟨7, 1, .block, "||ads.example", some (.ofList [.script, .mainFrame])⟩ := by
  decide +kernel

end Rule

end FilterSync
