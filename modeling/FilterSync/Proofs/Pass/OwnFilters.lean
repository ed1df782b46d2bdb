import FilterSync.Proofs.Pass.Parts
import FilterSync.Proofs.Rule.ClosedForm

/-!
# Filters of the user and lines of a list

A line of a list and a filter of the user are read by two different rules. A line is looked at for
remarks first; a filter of the user is not, and of its exception mark nothing is left. Where the
line is no remark both come to the same body, and a comment that is taken for a filter is refused
later, so both make the same rule but for its action: this is the line's in one case, and what the
user chose in the other.

Filters of the user are compiled as long as there is room for rules, and numbered like the lines of
a list.

Main statements: `Pass.takeFilters_eq` and `Pass.own_filters_like_lines`.
-/

namespace FilterSync

open FilterSync.Filter

/-- What a filter of the user says; the exception mark of its expression has no part in it. -/
def Template.ofFilter? (f : CustomFilter) : Option Template :=
  ofBody? (Pass.filterBody f) f.action.isAllow

/-! ## Reading -/

/-- A line that is a filter and a filter of the user come to the same body. -/
theorem Pass.filterBody_of_filter? {f : CustomFilter} {body : List Char} {isAllow : Bool}
    (h : (Line.read f.expression.toList).filter? = some (body, isAllow)) :
    filterBody f = body ∧
      Action.ofAllow isAllow =
        if allowMarker <+: Text.trim f.expression.toList then .allow else .block := by
  simp only [Line.read] at h
  simp only [filterBody]
  split at h
  · cases h
  · cases hmark : Text.after? allowMarker (Text.trim f.expression.toList) with
    | some rest =>
      rw [hmark] at h
      cases h
      rw [Text.after?_eq_some_iff.1 hmark, if_pos (List.prefix_append _ _)]
      exact ⟨rfl, rfl⟩
    | none =>
      rw [hmark] at h
      cases h
      rw [if_neg]
      · exact ⟨rfl, rfl⟩
      · rintro ⟨rest, hrest⟩
        rw [Text.after?_eq_some_iff.2 hrest.symm] at hmark
        cases hmark

/-- A comment of the user is refused. -/
theorem Pass.matchPattern?_of_comment {f : CustomFilter}
    (h : (Text.trim f.expression.toList).head? = some '!') : matchPattern? (filterBody f) = none := by
  have hbody : filterBody f = Text.trim f.expression.toList := by
    simp only [filterBody]
    cases hmark : Text.after? allowMarker (Text.trim f.expression.toList) with
    | none => rfl
    | some rest =>
      rw [Text.after?_eq_some_iff.1 hmark] at h
      cases h
  rw [hbody, matchPattern?, isUnsupported, h]
  rfl

/-! ## One filter -/

/-- A rule of the user and one of a list that are the same but for their actions. -/
structure SameFilter (f : CustomFilter) (own listed : Rule) : Prop where
  id : own.id = listed.id
  urlFilter : own.urlFilter = listed.urlFilter
  resourceTypes : own.resourceTypes = listed.resourceTypes
  own_action : own.action = f.action
  own_priority : own.priority = f.action.priority
  listed_action : listed.action =
    if allowMarker <+: Text.trim f.expression.toList then .allow else .block
  listed_priority : listed.priority = listed.action.priority

theorem Action.ofAllow_isAllow (a : Action) : ofAllow a.isAllow = a := by
  cases a <;> rfl

namespace IdCursor

/-- Whether the next identifier is taken does not depend on the action. -/
theorem compile_action (c : IdCursor) (body : List Char) (isAllow isAllow' : Bool) :
    (c.compile body isAllow = (none, c) ∧ c.compile body isAllow' = (none, c)) ∨
      ∃ t t' : Template, Template.ofBody? body isAllow = some t ∧
        Template.ofBody? body isAllow' = some t' ∧
        c.compile body isAllow = (some (t.rule c.next), ⟨c.next + 1⟩) ∧
        c.compile body isAllow' = (some (t'.rule c.next), ⟨c.next + 1⟩) := by
  cases hspent : c.isSpent with
  | true => exact Or.inl ⟨compile_of_isSpent hspent _ _, compile_of_isSpent hspent _ _⟩
  | false =>
    cases hpattern : matchPattern? body with
    | none => exact Or.inl ⟨compile_of_no_pattern hpattern _ _, compile_of_no_pattern hpattern _ _⟩
    | some pattern =>
      have hmade : ∀ isAllow, ∃ t, Template.ofBody? body isAllow = some t := by
        intro isAllow
        rw [Template.ofBody?, hpattern]
        exact ⟨_, rfl⟩
      obtain ⟨t, ht⟩ := hmade isAllow
      obtain ⟨t', ht'⟩ := hmade isAllow'
      exact Or.inr ⟨t, t', ht, ht', (compile_of_template hspent ht).1,
        (compile_of_template hspent ht').1⟩

end IdCursor

/-- A text of one line makes the rule of this line. -/
theorem Batch.ofText_line {text : List Char} (h : '\n' ∉ text) (c : IdCursor) (ceiling : Nat) :
    ofText c ceiling text =
      match (Line.read text).filter? with
      | none => ⟨[], c⟩
      | some (body, isAllow) =>
        ⟨(c.compile body isAllow).1.toList, (c.compile body isAllow).2⟩ := by
  have hlines : ofLines c.next ceiling ((Text.lines text).map Line.read) c =
      ofLines c.next ceiling [Line.read text] c := by
    rw [Text.lines, Text.cutLines_of_not_mem _ _ _ _ h, List.append_nil]
    cases text with
    | nil => rfl
    | cons => simp
  rw [ofText, hlines, ofLines]
  cases (Line.read text).filter? with
  | none => rfl
  | some f =>
    obtain ⟨body, isAllow⟩ := f
    dsimp only
    rcases c.compile body isAllow with ⟨rule | rule, c'⟩
    · rfl
    · have halone : allowFirst [rule] = [rule] := List.perm_singleton.1 (allowFirst_perm [rule])
      dsimp only
      split
      · rw [halone]
        rfl
      · rw [ofLines, halone]
        rfl

namespace Pass

variable {limits : Config.Rules} {p : Pass} {f : CustomFilter}

theorem takeEnabled_singleton (enabled : f.enabled = true) (room : p.isFull limits = false) :
    p.takeEnabled limits [f] =
      { p with
        cursor := (p.cursor.compile (filterBody f) f.action.isAllow).2
        rules := p.rules ++ (p.cursor.compile (filterBody f) f.action.isAllow).1.toList } := by
  rw [takeEnabled, List.filter_cons_of_pos enabled, List.filter_nil, takeFilters, room,
    ← takeFilter_eq]
  rfl

/-- A filter of the user makes a rule iff the line with the same text does, and then the same one
but for its action. -/
theorem takeEnabled_like_line (ceiling : Nat) (oneLine : '\n' ∉ f.expression.toList)
    (noRemark : Line.read f.expression.toList ≠ .skip ∨
      (Text.trim f.expression.toList).head? = some '!')
    (enabled : f.enabled = true) (room : p.isFull limits = false) :
    let own := p.takeEnabled limits [f]
    let listed := Batch.ofText p.cursor ceiling f.expression.toList
    own.cursor = listed.cursor ∧ listed.rules.length ≤ 1 ∧
      ∃ mine, own.rules = p.rules ++ mine ∧ List.Forall₂ (SameFilter f) mine listed.rules := by
  intro own listed
  have hown : own = _ := takeEnabled_singleton enabled room
  have hlisted : listed = _ := Batch.ofText_line oneLine p.cursor ceiling
  cases hfilter : (Line.read f.expression.toList).filter? with
  | none =>
    have hcomment : (Text.trim f.expression.toList).head? = some '!' := by
      refine noRemark.resolve_left (not_not_intro ?_)
      cases hread : Line.read f.expression.toList with
      | skip => rfl
      | allow | block =>
        rw [hread] at hfilter
        cases hfilter
    rw [hfilter] at hlisted
    rw [IdCursor.compile_of_no_pattern (matchPattern?_of_comment hcomment)] at hown
    rw [hown, hlisted]
    exact ⟨rfl, Nat.zero_le 1, [], rfl, .nil⟩
  | some line =>
    obtain ⟨body, isAllow⟩ := line
    obtain ⟨hbody, haction⟩ := filterBody_of_filter? hfilter
    rw [hfilter] at hlisted
    rw [hbody] at hown
    rw [hown, hlisted]
    rcases p.cursor.compile_action body f.action.isAllow isAllow with
      ⟨hmine, hline⟩ | ⟨t, t', ht, ht', hmine, hline⟩
    · dsimp only
      rw [hmine, hline]
      exact ⟨rfl, Nat.zero_le 1, [], rfl, .nil⟩
    · dsimp only
      rw [hmine, hline]
      refine ⟨rfl, Nat.le_refl 1, [t.rule p.cursor.next], rfl, .cons ?_ .nil⟩
      obtain ⟨pattern, hpattern, rfl⟩ := Option.map_eq_some_iff.1 ht
      rw [Template.ofBody?, hpattern, Option.map_some, Option.some.injEq] at ht'
      subst ht'
      exact
        { id := rfl
          urlFilter := rfl
          resourceTypes := rfl
          own_action := f.action.ofAllow_isAllow
          own_priority := congrArg Action.priority f.action.ofAllow_isAllow
          listed_action := haction
          listed_priority := rfl }

/-! ## Filters one after the other -/

theorem takeFilter_of_no_pattern (h : matchPattern? (filterBody f) = none) :
    p.takeFilter f = p := by
  rw [takeFilter_eq, IdCursor.compile_of_no_pattern h]
  simp

theorem takeFilter_of_isSpent (h : p.cursor.isSpent = true) : p.takeFilter f = p := by
  rw [takeFilter_eq, IdCursor.compile_of_isSpent h]
  simp

/-- Filters take identifiers in order, each that has a template one, as long as there are any and
there is room for rules. -/
theorem takeFilters_eq {filters : List CustomFilter} {n : Nat}
    (hn : min (filters.filterMap Template.ofFilter?).length
      (min (ceiling limits - p.rules.length) (2 ^ 32 - 1 - p.cursor.next.toNat)) = n) :
    (p.takeFilters limits filters).rules = p.rules ++
        Template.number p.cursor.next ((filters.filterMap Template.ofFilter?).take n) ∧
      (p.takeFilters limits filters).cursor.next.toNat = p.cursor.next.toNat + n := by
  induction filters generalizing p n with
  | nil =>
    rw [← hn]
    exact ⟨(List.append_nil _).symm, by simp [takeFilters]⟩
  | cons f rest ih =>
    cases hfull : p.isFull limits with
    | true =>
      have hceiling := ceiling_le_of_isFull hfull
      obtain rfl : n = 0 := by omega
      rw [takeFilters_of_isFull hfull]
      exact ⟨(List.append_nil _).symm, rfl⟩
    | false =>
      have hroom := lt_ceiling_of_not_isFull hfull
      have hstep : p.takeFilters limits (f :: rest) = (p.takeFilter f).takeFilters limits rest := by
        rw [takeFilters, hfull]
        rfl
      rw [hstep]
      cases htemplate : Template.ofFilter? f with
      | none =>
        have hpattern : matchPattern? (filterBody f) = none := Option.map_eq_none_iff.1 htemplate
        rw [List.filterMap_cons_none htemplate] at hn ⊢
        rw [takeFilter_of_no_pattern hpattern]
        exact ih hn
      | some t =>
        rw [List.filterMap_cons_some htemplate] at hn ⊢
        rw [List.length_cons] at hn
        cases hspent : p.cursor.isSpent with
        | true =>
          have hlast := IdCursor.isSpent_iff.1 hspent
          obtain rfl : n = 0 := by omega
          rw [takeFilter_of_isSpent hspent]
          exact ih (n := 0) (by omega)
        | false =>
          have hleft := IdCursor.next_lt_of_not_isSpent hspent
          obtain ⟨hcompile, hnext⟩ := IdCursor.compile_of_template hspent htemplate
          have htake : p.takeFilter f =
              { p with cursor := ⟨p.cursor.next + 1⟩, rules := p.rules ++ [t.rule p.cursor.next] } := by
            rw [takeFilter_eq, hcompile]
            rfl
          -- one template is taken here, and behind it there is room for one less
          obtain ⟨m, rfl⟩ : ∃ m, n = m + 1 := ⟨n - 1, by omega⟩
          obtain ⟨hrules, hcursor⟩ := ih (p := p.takeFilter f) (n := m) (by
            rw [htake]
            simp only [List.length_append, List.length_singleton, hnext]
            omega)
          rw [hrules, hcursor, htake, List.take_succ_cons, Template.number_cons hnext,
            List.append_assoc]
          exact ⟨rfl, by simp only [hnext]; omega⟩

/-- A filter that adds nothing may as well not be there. -/
theorem takeFilters_drop (h : ∀ q : Pass, q.takeFilter f = q) (front back : List CustomFilter) :
    p.takeFilters limits (front ++ f :: back) = p.takeFilters limits (front ++ back) := by
  induction front generalizing p with
  | nil =>
    rw [List.nil_append, List.nil_append, takeFilters, h]
    split
    · next hfull => rw [takeFilters_of_isFull hfull]
    · rfl
  | cons g front ih =>
    rw [List.cons_append, List.cons_append, takeFilters, takeFilters, ih]

theorem takeEnabled_drop (h : f.enabled = false ∨ matchPattern? (filterBody f) = none)
    (front back : List CustomFilter) :
    p.takeEnabled limits (front ++ f :: back) = p.takeEnabled limits (front ++ back) := by
  unfold takeEnabled
  rw [List.filter_append, List.filter_append, List.filter_cons]
  split
  · next enabled =>
    have hpattern := h.resolve_left (by simp [enabled])
    exact takeFilters_drop (fun q => takeFilter_of_no_pattern hpattern) _ _
  · rfl

/-- A filter of the user makes a rule iff the line with the same text does, and then the same one
but for its action, which is the user's. Filters in a row take identifiers in a row; those that are
disabled or refused take none. -/
theorem own_filters_like_lines (limits : Config.Rules) (p : Pass) :
    (∀ (f : CustomFilter) (ceiling : Nat), '\n' ∉ f.expression.toList →
      (Line.read f.expression.toList ≠ .skip ∨
        (Text.trim f.expression.toList).head? = some '!') →
      f.enabled = true → p.isFull limits = false →
      let own := p.takeEnabled limits [f]
      let listed := Batch.ofText p.cursor ceiling f.expression.toList
      own.cursor = listed.cursor ∧ listed.rules.length ≤ 1 ∧
        ∃ mine, own.rules = p.rules ++ mine ∧
          List.Forall₂ (SameFilter f) mine listed.rules) ∧
    ∀ filters : List CustomFilter,
      let found := (filters.filter (·.enabled)).filterMap Template.ofFilter?
      let n := min found.length
        (min (ceiling limits - p.rules.length) (2 ^ 32 - 1 - p.cursor.next.toNat))
      let own := p.takeEnabled limits filters
      own.rules = p.rules ++
          (found.take n).mapIdx (fun i t => t.rule (UInt32.ofNat (p.cursor.next.toNat + i))) ∧
        own.cursor.next.toNat = p.cursor.next.toNat + n ∧
        ∀ front f back, filters = front ++ f :: back →
          f.enabled = false ∨ matchPattern? (filterBody f) = none →
          own = p.takeEnabled limits (front ++ back) := by
  constructor
  · intro f ceiling oneLine noRemark enabled room
    exact takeEnabled_like_line ceiling oneLine noRemark enabled room
  · intro filters found n own
    obtain ⟨hrules, hcursor⟩ :=
      @takeFilters_eq limits p (filters.filter (·.enabled)) n rfl
    refine ⟨hrules, hcursor, ?_⟩
    rintro front f back rfl hidle
    exact takeEnabled_drop hidle front back

/-- An exception that the user blocks, behind a filter that is disabled. -/
def exceptionBehindDisabled : List CustomFilter :=
  [⟨"1", "||c.example^", .block, false⟩, ⟨"2", " @@||a.example^$image ", .block, true⟩]

def atLastIdentifier : Pass := { cursor := ⟨4294967294⟩ }

theorem own_filters_like_lines_lastIdentifier :
    (atLastIdentifier.takeEnabled ⟨2, 1⟩ exceptionBehindDisabled).rules =
      [⟨4294967294, 1, .block, "||a.example", some (.ofList [.image])⟩] ∧
    ∃ mine, (atLastIdentifier.takeEnabled ⟨2, 1⟩ (exceptionBehindDisabled.drop 1)).rules =
        atLastIdentifier.rules ++ mine ∧
      List.Forall₂ (SameFilter ⟨"2", " @@||a.example^$image ", .block, true⟩) mine
        [⟨4294967294, 2, .allow, "||a.example", some (.ofList [.image])⟩] := by
  obtain ⟨hline, hrow⟩ := own_filters_like_lines ⟨2, 1⟩ atLastIdentifier
  obtain ⟨-, -, mine, hmine, hsame⟩ :=
    hline ⟨"2", " @@||a.example^$image ", .block, true⟩ 0 (by decide +kernel)
      (Or.inl (by decide +kernel)) rfl rfl
  obtain ⟨hrules, -, hdrop⟩ := hrow exceptionBehindDisabled
  refine ⟨?_, mine, hmine, ?_⟩
  · rw [hrules]
    decide +kernel
  · have hlisted : (Batch.ofText atLastIdentifier.cursor 0 " @@||a.example^$image ".toList).rules =
        [⟨4294967294, 2, .allow, "||a.example", some (.ofList [.image])⟩] := by decide +kernel
    rwa [hlisted] at hsame

end Pass

end FilterSync
