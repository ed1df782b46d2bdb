import FilterSync.Proofs.Pass.Replay

/-!
# Passes that never stop early

A pass saves work where it can. It reads no further in a list that has given more rules
than the ceiling, takes no further list once the rules have reached it, and no further
filter; what is still too much is cut at last. `exhaustiveRules` says what the rules would
be without any of this but the cut at the end: every list that was downloaded is compiled
and every filter of the user, with one cursor for all of them.

The two agree because a pass that stops has reached the ceiling, and everything after that
is cut away; and because a list takes the same identifiers either way, so that what comes
behind it finds the cursor at the same place.

Main statements: `Batch.ofText_eq_ofWholeText`, `Pass.live_takeLists` and
`SyncState.rules_of_plan?`.
-/

namespace FilterSync

open FilterSync.Filter (Line matchPattern?)

/-! ## Without stopping -/

namespace Filter.Line

/-- Whether a line is a filter with a match pattern. -/
def compiles (line : Line) : Bool := line.filter?.any fun f => (matchPattern? f.1).isSome

/-- The lines up to the `n`-th one that compiles; all of them if there are fewer. -/
def cutAfter : Nat → List Line → List Line
  | 0, _ => []
  | _ + 1, [] => []
  | n + 1, line :: rest => line :: cutAfter (if line.compiles then n else n + 1) rest

theorem cutAfter_zero (lines : List Line) : cutAfter 0 lines = [] := by
  cases lines <;> rfl

theorem cutAfter_nil (n : Nat) : cutAfter n [] = [] := by
  cases n <;> rfl

end Filter.Line

namespace Batch

/-- Compiles filters one after the other: of each its body and whether it is an exception. -/
def ofFilters (c : IdCursor) : List (List Char × Bool) → Batch
  | [] => ⟨[], c⟩
  | (body, isAllow) :: rest =>
    let (rule, c) := c.compile body isAllow
    let batch := ofFilters c rest
    ⟨rule.toList ++ batch.rules, batch.cursor⟩

/-- Compiles a text as far as `size` of its lines compile. -/
def ofWholeText (c : IdCursor) (size : Nat) (text : List Char) : Batch :=
  let lines := Line.cutAfter size ((Text.lines text).map Line.read)
  let batch := ofFilters c (lines.filterMap Line.filter?)
  ⟨allowFirst batch.rules, batch.cursor⟩

/-- Compiles texts one after the other. -/
def ofTexts (c : IdCursor) (size : Nat) : List String → Batch
  | [] => ⟨[], c⟩
  | text :: rest =>
    let first := ofWholeText c size text.toList
    let batch := ofTexts first.cursor size rest
    ⟨first.rules ++ batch.rules, batch.cursor⟩

end Batch

namespace Pass

/-- What a filter of the user compiles from. -/
def filterSource (f : CustomFilter) : List Char × Bool := (filterBody f, f.action.isAllow)

/-- The filters of the user that are compiled. -/
def filterSources (filters : List CustomFilter) : List (List Char × Bool) :=
  (filters.filter (·.enabled)).map filterSource

/-- The rules of a pass that compiles all lists with a text and all filters of the user, and
keeps as many rules as there may be only then. -/
def exhaustiveRules (limits : Config.Rules) (downloads : List Download)
    (filters : List CustomFilter) : List Rule :=
  let texts := downloads.filterMap Except.toOption
  let lists := Batch.ofTexts ⟨limits.firstRuleId⟩ (ceiling limits + 1) texts
  let own := Batch.ofFilters lists.cursor (filterSources filters)
  (lists.rules ++ own.rules).take (ceiling limits)

end Pass

/-! ## One filter -/

namespace IdCursor

/-- A cursor without identifiers compiles nothing. -/
theorem compile_of_isSpent {c : IdCursor} (h : c.isSpent = true) (body : List Char)
    (isAllow : Bool) : c.compile body isAllow = (none, c) := by
  unfold compile issue
  rw [if_pos h]

theorem compile_of_no_pattern {body : List Char} (h : matchPattern? body = none) (c : IdCursor)
    (isAllow : Bool) : c.compile body isAllow = (none, c) := by
  have hrule : Rule.compile? body isAllow c.next = none := by
    unfold Rule.compile?
    rw [h]
    rfl
  unfold compile issue
  rw [hrule]
  split <;> rfl

/-- A cursor with an identifier left makes a rule of what has a pattern. -/
theorem compile_of_pattern {c : IdCursor} {body : List Char} (hroom : c.isSpent = false)
    (h : (matchPattern? body).isSome = true) (isAllow : Bool) :
    ∃ rule, c.compile body isAllow = (some rule, ⟨c.next + 1⟩) ∧
      (c.next + 1).toNat = c.next.toNat + 1 := by
  obtain ⟨pattern, hpattern⟩ := Option.isSome_iff_exists.1 h
  obtain ⟨rule, hrule⟩ : ∃ rule, Rule.compile? body isAllow c.next = some rule := by
    unfold Rule.compile?
    rw [hpattern]
    exact ⟨_, rfl⟩
  have hcompile : c.compile body isAllow = (some rule, ⟨c.next + 1⟩) := by
    unfold compile issue
    rw [hroom, hrule]
    rfl
  have hmade : (c.compile body isAllow).1 = some rule := by rw [hcompile]
  have hnext : (c.compile body isAllow).2.next.toNat = c.next.toNat + 1 :=
    (toNat_next_issue hmade).1
  rw [hcompile] at hnext
  exact ⟨rule, hcompile, hnext⟩

end IdCursor

/-- There is no match pattern for nothing. -/
theorem Filter.matchPattern?_nil : matchPattern? [] = none := rfl

/-! ## One list -/

namespace Batch

theorem ofFilters_of_isSpent {c : IdCursor} (h : c.isSpent = true)
    (filters : List (List Char × Bool)) : ofFilters c filters = ⟨[], c⟩ := by
  induction filters with
  | nil => rfl
  | cons f rest ih =>
    obtain ⟨body, isAllow⟩ := f
    simp only [ofFilters, IdCursor.compile_of_isSpent h, ih]
    rfl

theorem ofLines_of_isSpent {c : IdCursor} (h : c.isSpent = true) (start : UInt32) (ceiling : Nat)
    (lines : List Line) : ofLines start ceiling lines c = ⟨[], c⟩ := by
  induction lines with
  | nil => rfl
  | cons line rest ih =>
    unfold ofLines
    split
    · exact ih
    · rw [IdCursor.compile_of_isSpent h]
      exact ih

theorem ofLines_cons_of_not_compiles {line : Line} (h : line.compiles = false) (start : UInt32)
    (ceiling : Nat) (rest : List Line) (c : IdCursor) :
    ofLines start ceiling (line :: rest) c = ofLines start ceiling rest c := by
  rw [ofLines]
  unfold Line.compiles at h
  cases hfilter : line.filter? with
  | none => rfl
  | some f =>
    obtain ⟨body, isAllow⟩ := f
    rw [hfilter, Option.any_some, Option.isSome_eq_false_iff, Option.isNone_iff_eq_none] at h
    dsimp only
    rw [IdCursor.compile_of_no_pattern h]

theorem ofFilters_cons_of_not_compiles {line : Line} (h : line.compiles = false) (c : IdCursor)
    (rest : List Line) :
    ofFilters c ((line :: rest).filterMap Line.filter?) =
      ofFilters c (rest.filterMap Line.filter?) := by
  rw [List.filterMap_cons]
  unfold Line.compiles at h
  cases hfilter : line.filter? with
  | none => rfl
  | some f =>
    obtain ⟨body, isAllow⟩ := f
    rw [hfilter, Option.any_some, Option.isSome_eq_false_iff, Option.isNone_iff_eq_none] at h
    dsimp only
    rw [ofFilters, IdCursor.compile_of_no_pattern h]
    rfl

/-- A list that stops once it has taken more identifiers than a ceiling reads as many lines
as compile: one more than the ceiling, less what it has taken before. -/
theorem ofLines_eq_ofFilters (start : UInt32) (ceiling : Nat) (lines : List Line) (c : IdCursor)
    (hbegun : start.toNat ≤ c.next.toNat) (hroom : c.next.toNat - start.toNat ≤ ceiling) :
    ofLines start ceiling lines c =
      ofFilters c ((Line.cutAfter (ceiling + 1 - (c.next.toNat - start.toNat)) lines).filterMap
        Line.filter?) := by
  induction lines generalizing c with
  | nil =>
    rw [Line.cutAfter_nil]
    rfl
  | cons line rest ih =>
    obtain ⟨m, hm⟩ : ∃ m, ceiling + 1 - (c.next.toNat - start.toNat) = m + 1 :=
      ⟨ceiling - (c.next.toNat - start.toNat), by omega⟩
    have hrest := ih c hbegun hroom
    rw [hm] at hrest ⊢
    rw [Line.cutAfter]
    cases hcompiles : line.compiles with
    | false =>
      rw [ofLines_cons_of_not_compiles hcompiles, ofFilters_cons_of_not_compiles hcompiles]
      exact hrest
    | true =>
      obtain ⟨⟨body, isAllow⟩, hfilter, hpattern⟩ := (Option.any_eq_true _ _).1 hcompiles
      cases hspent : c.isSpent with
      | true => rw [ofLines_of_isSpent hspent, ofFilters_of_isSpent hspent]
      | false =>
        obtain ⟨rule, hrule, hnext⟩ := IdCursor.compile_of_pattern hspent hpattern isAllow
        rw [if_pos rfl, List.filterMap_cons, hfilter, ofLines, hfilter, ofFilters]
        dsimp only
        rw [hrule]
        dsimp only
        rw [hnext]
        by_cases hfull : ceiling < c.next.toNat + 1 - start.toNat
        · -- this line was the last one that was allowed for
          have hlast : m = 0 := by omega
          rw [if_pos hfull, hlast, Line.cutAfter_zero]
          rfl
        · have hleft : ceiling + 1 - ((c.next + 1).toNat - start.toNat) = m := by omega
          have hmore := ih ⟨c.next + 1⟩ (by rw [hnext]; omega) (by rw [hnext]; omega)
          rw [hleft] at hmore
          rw [if_neg hfull, hmore]
          rfl

/-- A list is compiled as if its text ended with the line behind which it stops. -/
theorem ofText_eq_ofWholeText (c : IdCursor) (ceiling : Nat) (text : List Char) :
    ofText c ceiling text = ofWholeText c (ceiling + 1) text := by
  have hlines := ofLines_eq_ofFilters c.next ceiling ((Text.lines text).map Line.read) c
    (Nat.le_refl _) (by omega)
  rw [Nat.sub_self, Nat.sub_zero] at hlines
  unfold ofText ofWholeText
  rw [hlines]

end Batch

/-! ## A pass -/

namespace Pass

variable {limits : Config.Rules} {p : Pass}

theorem ceiling_le_of_isFull (h : p.isFull limits = true) : ceiling limits ≤ p.rules.length :=
  of_decide_eq_true h

/-- Of a pass that has reached the ceiling nothing shows that comes later. -/
theorem take_append_of_isFull (h : p.isFull limits = true) (more : List Rule) :
    (p.rules ++ more).take (ceiling limits) = p.live limits :=
  List.take_append_of_le_length (ceiling_le_of_isFull h)

theorem takeFilters_of_isFull (h : p.isFull limits = true) (filters : List CustomFilter) :
    p.takeFilters limits filters = p := by
  cases filters with
  | nil => rfl
  | cons f rest =>
    unfold takeFilters
    rw [if_pos h]

/-- Taking a filter is compiling it, also if it is empty. -/
theorem takeFilter_eq (p : Pass) (f : CustomFilter) :
    p.takeFilter f =
      { p with
        cursor := (p.cursor.compile (filterBody f) f.action.isAllow).2
        rules := p.rules ++ (p.cursor.compile (filterBody f) f.action.isAllow).1.toList } := by
  unfold takeFilter
  split
  · next hempty =>
    rw [List.isEmpty_iff.1 hempty, IdCursor.compile_of_no_pattern Filter.matchPattern?_nil]
    simp
  · rfl

/-- Stopping at the ceiling, the filters of the user give the live rules that all of them
would give. -/
theorem live_takeFilters (p : Pass) (filters : List CustomFilter) :
    (p.takeFilters limits filters).live limits =
      (p.rules ++ (Batch.ofFilters p.cursor (filters.map filterSource)).rules).take
        (ceiling limits) := by
  induction filters generalizing p with
  | nil =>
    show p.rules.take _ = (p.rules ++ []).take _
    rw [List.append_nil]
  | cons f rest ih =>
    by_cases hfull : p.isFull limits = true
    · rw [takeFilters_of_isFull hfull, take_append_of_isFull hfull]
    · have hstep : p.takeFilters limits (f :: rest) = (p.takeFilter f).takeFilters limits rest := by
        rw [takeFilters, if_neg hfull]
      rw [hstep, ih, takeFilter_eq, List.append_assoc]
      rfl

theorem live_takeEnabled (p : Pass) (filters : List CustomFilter) :
    (p.takeEnabled limits filters).live limits =
      (p.rules ++ (Batch.ofFilters p.cursor (filterSources filters)).rules).take
        (ceiling limits) :=
  live_takeFilters p _

theorem takeList_ok (limits : Config.Rules) (p : Pass) (l : ListSource) (text : String)
    (now : Timestamp) :
    (p.takeList limits l (.ok text) now).cursor =
        (Batch.ofWholeText p.cursor (ceiling limits + 1) text.toList).cursor ∧
      (p.takeList limits l (.ok text) now).rules =
        p.rules ++ (Batch.ofWholeText p.cursor (ceiling limits + 1) text.toList).rules := by
  rw [← Batch.ofText_eq_ofWholeText]
  exact ⟨rfl, rfl⟩

/-- Stopping at the ceiling, lists and filters give the live rules that all lists and all
filters would give. -/
theorem live_takeLists (p : Pass) (entries : List (ListSource × Download × Timestamp))
    (filters : List CustomFilter) :
    let lists := Batch.ofTexts p.cursor (ceiling limits + 1)
      (entries.filterMap fun e => e.2.1.toOption)
    ((p.takeLists limits entries).takeEnabled limits filters).live limits =
      (p.rules ++ (lists.rules ++
        (Batch.ofFilters lists.cursor (filterSources filters)).rules)).take (ceiling limits) := by
  induction entries generalizing p with
  | nil => exact live_takeEnabled p filters
  | cons entry rest ih =>
    obtain ⟨l, download, now⟩ := entry
    intro lists
    -- what all of them give begins with what this list gives, and goes on from there
    obtain ⟨more, hmore, hrest⟩ : ∃ more : Batch,
        more = Batch.ofTexts (p.takeList limits l download now).cursor (ceiling limits + 1)
          (rest.filterMap fun e => e.2.1.toOption) ∧
        p.rules ++ lists.rules = (p.takeList limits l download now).rules ++ more.rules ∧
        lists.cursor = more.cursor := by
      refine ⟨_, rfl, ?_⟩
      cases download with
      | error e => exact ⟨rfl, rfl⟩
      | ok text =>
        obtain ⟨hcursor, hrules⟩ := takeList_ok limits p l text now
        rw [hcursor, hrules, List.append_assoc]
        exact ⟨rfl, rfl⟩
    rw [← List.append_assoc, hrest.1, hrest.2, List.append_assoc]
    rw [takeLists]
    split
    · next hfull =>
      rw [take_append_of_isFull hfull, takeEnabled, takeFilters_of_isFull hfull]
    · rw [hmore]
      exact ih (p.takeList limits l download now)

/-- The rules of a pass that stops where it can are those of one that never does. -/
theorem live_eq_exhaustiveRules (entries : List (ListSource × Download × Timestamp))
    (filters : List CustomFilter) :
    (((start limits).takeLists limits entries).takeEnabled limits filters).live limits =
      exhaustiveRules limits (entries.map (·.2.1)) filters := by
  have htexts : (entries.map (·.2.1)).filterMap Except.toOption =
      entries.filterMap fun e => e.2.1.toOption := List.filterMap_map
  unfold exhaustiveRules
  rw [htexts]
  exact live_takeLists (start limits) entries filters

/-- Replaying downloads is taking the lists with any downloads that begin like these: a pass
that makes no more of them has reached the ceiling. -/
theorem takeLists_of_replay? {q : Pass} {ls : List ListSource} {fs : List Fetch}
    {answers : List Download} (hreplay : p.replay? limits ls fs = some q)
    (hanswers : answers.length = ls.length) (hfetched : fs.map (·.download) <+: answers) :
    ∃ entries : List (ListSource × Download × Timestamp),
      entries.map (·.2.1) = answers ∧ q = p.takeLists limits entries := by
  replace hreplay := replays_of_eq hreplay
  induction hreplay generalizing answers with
  | done p => exact ⟨[], (List.length_eq_zero_iff.1 hanswers).symm, rfl⟩
  | @last p l f ls url full =>
    obtain ⟨rest, rfl⟩ := hfetched
    rw [List.map_singleton, List.singleton_append, List.length_cons, List.length_cons,
      Nat.add_right_cancel_iff] at hanswers
    refine ⟨(l, f.download, f.time) :: rest.map (l, ·, 0), ?_, ?_⟩
    · rw [List.map_cons, List.map_map]
      exact congrArg _ (List.map_id _)
    · rw [takeLists, if_pos full]
  | @more p q l f ls fs url room _ ih =>
    obtain ⟨rest, rfl⟩ := hfetched
    rw [List.map_cons, List.cons_append, List.length_cons, List.length_cons,
      Nat.add_right_cancel_iff] at hanswers
    obtain ⟨entries, hentries, hq⟩ := ih hanswers (List.prefix_append _ rest)
    refine ⟨(l, f.download, f.time) :: entries, ?_, ?_⟩
    · rw [List.map_cons, hentries]
      rfl
    · rw [takeLists, room]
      exact hq

end Pass

/-- What a pass over a state commits, given the downloads it made, is what a pass that never
stops early would, whatever the downloads that it did not make would have given. -/
theorem SyncState.rules_of_plan? {limits : Config.Rules} {s : SyncState} {fetched : List Fetch}
    {answers : List Download} {c : Commit} (on : s.protectionEnabled = true)
    (hanswers : answers.length = (s.lists.filter (·.enabled)).length)
    (hfetched : fetched.map (·.download) <+: answers)
    (hplan : s.plan? limits fetched = some c) :
    c.rules = Pass.exhaustiveRules limits answers s.customFilters := by
  obtain ⟨q, hreplay, rfl⟩ := (SyncState.plan?_eq_some_iff on).1 hplan
  obtain ⟨entries, rfl, rfl⟩ := Pass.takeLists_of_replay? hreplay hanswers hfetched
  exact Pass.live_eq_exhaustiveRules entries s.customFilters

end FilterSync
