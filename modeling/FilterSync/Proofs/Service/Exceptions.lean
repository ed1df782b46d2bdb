import FilterSync.Proofs.Pass.Parts
import FilterSync.Proofs.Rule.ClosedForm
import FilterSync.Proofs.Service.LiveRules

/-!
# Exceptions under the ceiling

Two things keep rules of a list from being live. The list is compiled in the order of its lines and
no further than one rule past the ceiling; and the rules of all lists are cut at the ceiling. Since
exceptions stand in front of the other rules of their list, the cut takes none of them before it has
taken every rule that blocks. So where a rule that blocks is left, an exception of the same list is
missing only if the list was not compiled that far.

Main statement: `System.exceptions_kept_with_blocks`.
-/

namespace FilterSync

open FilterSync.Filter
open Pass (ceiling)

/-! ## Lines of a text -/

/-- In a text there is an exception with a match pattern behind `place` lines that compile. -/
def ExceptionAt (text : List Char) (place : Nat) (body : List Char) : Prop :=
  ∃ front back, (Text.lines text).map Line.read = front ++ .allow body :: back ∧
    front.countP Line.compiles = place ∧ (matchPattern? body).isSome = true

namespace ExceptionAt

variable {text body : List Char} {place : Nat}

/-- As many templates as lines that compile stand in front of its own. -/
theorem template (h : ExceptionAt text place body) :
    ∃ t, Template.ofBody? body true = some t ∧ (Template.ofText text)[place]? = some t := by
  obtain ⟨front, back, hlines, hplace, hpattern⟩ := h
  obtain ⟨pattern, hpattern⟩ := Option.isSome_iff_exists.1 hpattern
  obtain ⟨t, ht⟩ : ∃ t, Template.ofBody? body true = some t := by
    rw [Template.ofBody?, hpattern]
    exact ⟨_, rfl⟩
  have hline : Template.ofLine? (.allow body) = some t :=
    (Template.ofLine?_of_filter? rfl).trans ht
  have hfront : (front.filterMap Template.ofLine?).length = place := by
    rw [List.length_filterMap_eq_countP, ← hplace]
    simp only [Template.isSome_ofLine?]
  refine ⟨t, ht, ?_⟩
  rw [Template.ofText_eq_lines, hlines, List.filterMap_append, List.filterMap_cons_some hline,
    ← hfront]
  simp

/-- It makes its rule iff it stands no more than one line past the ceiling and there is an
identifier for it. -/
theorem compiled_iff (h : ExceptionAt text place body) (c : IdCursor) (ceiling : Nat) :
    (place ≤ ceiling ∧ c.next.toNat + place < 2 ^ 32 - 1) ↔
      ∃ e ∈ (Batch.ofText c ceiling text).rules, e.id.toNat = c.next.toNat + place ∧
        Rule.compile? body true e.id = some e := by
  obtain ⟨t, ht, hfound⟩ := h.template
  obtain ⟨hlength, -⟩ := List.getElem?_eq_some_iff.1 hfound
  obtain ⟨hrules, hcursor⟩ := Batch.ofText_eq_number c ceiling text
  constructor
  · rintro ⟨hceiling, hleft⟩
    have htaken : place < Batch.taken c ceiling text := by
      rw [Batch.taken]
      omega
    have hid : (UInt32.ofNat (c.next.toNat + place)).toNat = c.next.toNat + place :=
      UInt32.toNat_ofNat_of_lt' (by rw [UInt32.size]; omega)
    refine ⟨t.rule (UInt32.ofNat (c.next.toNat + place)), ?_, hid, ?_⟩
    · rw [hrules, (Batch.allowFirst_perm _).mem_iff, Template.number]
      apply List.mem_of_getElem? (i := place)
      rw [List.getElem?_mapIdx, List.getElem?_take_of_lt htaken, hfound]
      rfl
    · rw [Template.compile?_eq, ht]
      rfl
  · rintro ⟨e, he, hid, -⟩
    obtain ⟨-, hlt⟩ := (Batch.issued_ofText c ceiling text).bounds he
    rw [hid, hcursor, Batch.taken] at hlt
    omega

end ExceptionAt

theorem Rule.action_of_compile? {body : List Char} {isAllow : Bool} {id : UInt32} {r : Rule}
    (h : Rule.compile? body isAllow id = some r) : r.action = .ofAllow isAllow := by
  obtain ⟨pattern, -, rfl⟩ := Option.map_eq_some_iff.1 h
  rfl

/-! ## The cut -/

/-- A cut that leaves something leaves all that stands in front of it. -/
theorem mem_take_of_mem_front {α : Type} {front back : List α} {n : Nat} {a b : α}
    (distinct : (front ++ back).Nodup) (ha : a ∈ front) (hb : b ∈ back)
    (left : b ∈ (front ++ back).take n) : a ∈ (front ++ back).take n := by
  have hnot : b ∉ front.take n := fun hmem =>
    List.disjoint_of_nodup_append distinct (List.mem_of_mem_take hmem) hb
  rw [List.take_append, List.mem_append] at left ⊢
  have hbeyond := List.length_pos_of_mem (left.resolve_left hnot)
  rw [List.length_take] at hbeyond
  rw [List.take_of_length_le (by omega)]
  exact Or.inl ha

namespace Part

/-- Each list is compiled from where the one in front of it left off. -/
theorem batch_of_compile {ceiling : Nat} {c : IdCursor} {answers : Nat → Download}
    {ls : List ListSource} {before after : List Part} {part : Part}
    (h : compile ceiling c answers ls = before ++ part :: after) :
    part.batch = Batch.ofDownload (cursorBehind c before) ceiling part.download := by
  induction before generalizing c answers ls with
  | nil =>
    cases ls with
    | nil => cases h
    | cons l ls =>
      cases h
      rfl
  | cons first before ih =>
    cases ls with
    | nil => cases h
    | cons l ls =>
      obtain ⟨rfl, hrest⟩ := List.cons.inj h
      exact ih hrest

end Part

namespace SyncState

variable {s : SyncState} {limits : Config.Rules} {answers : Nat → Download}
  {before after : List Part} {part : Part} {text : String}

theorem rules_of_touched (taken : s.touched limits answers = before ++ part :: after)
    (came : part.download = .ok text) :
    part.rules = (Batch.ofText (Part.cursorBehind ⟨limits.firstRuleId⟩ before) (ceiling limits)
      text.toList).rules := by
  obtain ⟨more, hparts⟩ := Part.upTo_prefix (ceiling limits) (s.parts limits answers)
  have hcompile : s.parts limits answers = before ++ part :: (after ++ more) := by
    rw [← hparts, ← touched, taken, List.append_assoc, List.cons_append]
  rw [Part.rules, Part.batch_of_compile hcompile, came]
  rfl

/-- If the cut leaves a rule of a list that blocks, it leaves all rules of the list that allow. -/
theorem allows_left {e b : Rule} {n : Nat} (distinct : (s.made limits answers).Nodup)
    (taken : s.touched limits answers = before ++ part :: after)
    (came : part.download = .ok text) (hb : b ∈ part.rules) (blocks : b.action = .block)
    (left : b ∈ (s.made limits answers).take n) (he : e ∈ part.rules)
    (allows : e.action = .allow) : e ∈ (s.made limits answers).take n := by
  obtain ⟨rules, hrules⟩ : ∃ rules : List Rule, part.rules =
      rules.filter (·.action = .allow) ++ rules.filter (·.action = .block) := by
    rw [rules_of_touched taken came, Batch.ofText, Batch.allowFirst_eq]
    exact ⟨_, rfl⟩
  have hmade : s.made limits answers =
      (Part.allRules before ++ rules.filter (·.action = .allow)) ++
        (rules.filter (·.action = .block) ++
          (Part.allRules after ++ (s.ownRules limits answers).map (·.2))) := by
    rw [made, taken, Part.allRules_append, Part.allRules_cons, hrules]
    simp only [List.append_assoc]
  rw [hrules] at hb he
  have hallow : e ∈ rules.filter (·.action = .allow) := by
    refine (List.mem_append.1 he).resolve_right fun hmem => ?_
    simp [allows] at hmem
  have hblock : b ∈ rules.filter (·.action = .block) := by
    refine (List.mem_append.1 hb).resolve_left fun hmem => ?_
    simp [blocks] at hmem
  rw [hmade] at distinct left ⊢
  exact mem_take_of_mem_front distinct (List.mem_append_right _ hallow)
    (List.mem_append_left _ hblock) left

/-- An exception of a list of which a rule that blocks is handed on is handed on as well, unless
the list was not compiled that far. -/
theorem exception_planned_iff {fetched : List Fetch} {c : Commit} {b : Rule} {place : Nat}
    {body : List Char} (on : s.protectionEnabled = true) (room : 0 < ceiling limits)
    (gave : Fetch.Gave answers fetched) (hplan : s.plan? limits fetched = some c)
    (taken : s.touched limits answers = before ++ part :: after)
    (came : part.download = .ok text) (hb : b ∈ part.rules) (blocks : b.action = .block)
    (left : b ∈ c.rules) (hexception : ExceptionAt text.toList place body) :
    let id := (Part.cursorBehind ⟨limits.firstRuleId⟩ before).next.toNat + place
    (place ≤ ceiling limits ∧ id < 2 ^ 32 - 1) ↔
      ∃ e ∈ c.rules, e ∈ part.rules ∧ e.id.toNat = id ∧ Rule.compile? body true e.id = some e := by
  obtain ⟨hcut, distinct, -⟩ := plan?_made on room gave hplan
  intro id
  rw [hexception.compiled_iff (Part.cursorBehind ⟨limits.firstRuleId⟩ before) (ceiling limits),
    ← rules_of_touched taken came]
  constructor
  · rintro ⟨e, he, hid, hcompile⟩
    rw [hcut] at left ⊢
    exact ⟨e, allows_left distinct taken came hb blocks left he (Rule.action_of_compile? hcompile),
      he, hid, hcompile⟩
  · rintro ⟨e, -, he, hid, hcompile⟩
    exact ⟨e, he, hid, hcompile⟩

end SyncState

/-! ## The service -/

namespace System

variable {config : Config} {sys : System}

/-- Where a rule of a list that blocks is live, so are the exceptions of the list, but for those
that stand further than one rule past the ceiling or find no identifier left. -/
theorem exceptions_kept_with_blocks {rules : RuleStore} {states : StateStore} {turns : List Turn}
    {r : PassRecord} {s : SyncState} {answers : Nat → Download} (keyed : rules.Keyed)
    (played : (start rules states).play config turns = some sys)
    (last : sys.history.passes.find? (·.committed) = some r) (snapshot : r.snapshot = some s)
    (on : s.protectionEnabled = true) (room : 0 < config.rules.maxRules)
    (gave : Fetch.Gave answers r.fetched) :
    r.fetched.map (·.url) = (s.touched config.rules answers).map (·.list.url) ∧
    ∃ live, sys.shared.rules.rules = .ok live ∧
      ∀ before part after text, s.touched config.rules answers = before ++ part :: after →
        part.download = .ok text → (∃ b ∈ live, b ∈ part.rules ∧ b.action = .block) →
        ∀ place body, ExceptionAt text.toList place body →
          let id := (Part.cursorBehind ⟨config.rules.firstRuleId⟩ before).next.toNat + place
          (place ≤ ceiling config.rules ∧ id < 2 ^ 32 - 1) ↔
            ∃ e ∈ live, e ∈ part.rules ∧ e.id.toNat = id ∧
              Rule.compile? body true e.id = some e := by
  obtain ⟨-, hlive⟩ := (tracked_play keyed played).live
  rw [last] at hlive
  obtain ⟨c, hplan, live, hrules, -, hperm, -⟩ := hlive
  unfold PassRecord.plan? at hplan
  rw [snapshot] at hplan
  have hroom : 0 < ceiling config.rules := UInt64.lt_iff_toNat_lt.1 room
  obtain ⟨-, -, hurls, -⟩ := SyncState.plan?_made on hroom gave hplan
  refine ⟨hurls, live, hrules, ?_⟩
  rintro before part after text taken came ⟨b, hb, hpart, blocks⟩ place body hexception
  simp only [hperm.mem_iff] at hb ⊢
  exact SyncState.exception_planned_iff on hroom gave hplan taken came hpart blocks hb hexception

/-- Where there is room for three rules, one exception is the fourth rule and one the fifth. -/
def lateExceptions : String :=
  "||a.example^\n||b.example^\n||c.example^\n@@||d.example^\n@@||e.example^"

def refreshingLate : List Turn :=
  .surround (serving (fun _ => false) lateExceptions) :: .begin .refresh ::
    List.replicate 9 (.advance 0)

/-- The state that this refresh finds. -/
def oneListOnly : SyncState := .completed oneList.lists none

theorem exceptionAt_d : ExceptionAt lateExceptions.toList 3 "||d.example^".toList :=
  ⟨["||a.example^", "||b.example^", "||c.example^"].map fun line => .block line.toList,
    [.allow "||e.example^".toList], by decide +kernel, by decide +kernel, by decide +kernel⟩

theorem exceptionAt_e : ExceptionAt lateExceptions.toList 4 "||e.example^".toList :=
  ⟨(["||a.example^", "||b.example^", "||c.example^"].map fun line => .block line.toList) ++
    [.allow "||d.example^".toList], [], by decide +kernel, by decide +kernel, by decide +kernel⟩

/-- What this refresh makes live. -/
theorem refreshed_late : ∃ sys r live,
    (start (.new .memory) (.memory none)).play oneList refreshingLate = some sys ∧
    sys.history.passes.find? (·.committed) = some r ∧ r.snapshot = some oneListOnly ∧
    Fetch.Gave (fun _ => .ok lateExceptions) r.fetched ∧ sys.shared.rules.rules = .ok live ∧
    live = [⟨100, 1, .block, "||a.example", none⟩, ⟨101, 1, .block, "||b.example", none⟩,
      ⟨103, 2, .allow, "||d.example", none⟩] := by
  have hseen : ((start (.new .memory) (.memory none)).play oneList refreshingLate).map
      (fun sys => (sys.shared.rules.rules, (sys.history.passes.find? (·.committed)).map fun r =>
        decide (r.snapshot = some oneListOnly ∧
          Fetch.Gave (fun _ => .ok lateExceptions) r.fetched))) =
      some (.ok [⟨100, 1, .block, "||a.example", none⟩, ⟨101, 1, .block, "||b.example", none⟩,
        ⟨103, 2, .allow, "||d.example", none⟩], some true) := by
    decide +kernel
  obtain ⟨sys, hplay, hseen⟩ := Option.map_eq_some_iff.1 hseen
  obtain ⟨hlive, hlast⟩ := Prod.mk.inj hseen
  obtain ⟨r, hlast, hr⟩ := Option.map_eq_some_iff.1 hlast
  rw [decide_eq_true_eq] at hr
  exact ⟨sys, r, _, hplay, hlast, hr.1, hr.2, hlive, rfl⟩

/-- The exception that is the fourth rule is live. -/
theorem exceptions_kept_with_blocks_fourth : ∃ sys live,
    (start (.new .memory) (.memory none)).play oneList refreshingLate = some sys ∧
    sys.shared.rules.rules = .ok live ∧ live.map (·.id) = [100, 101, 103] ∧
    ∃ e ∈ live, e.id.toNat = 103 ∧
      Rule.compile? "||d.example^".toList true e.id = some e := by
  obtain ⟨sys, r, live, hplay, hlast, hsnapshot, hgave, hlive, hrules⟩ := refreshed_late
  obtain ⟨-, live', hlive', hkept⟩ := exceptions_kept_with_blocks (RuleStore.keyed_new .memory)
    hplay hlast hsnapshot rfl (by decide) hgave
  obtain rfl : live = live' := Except.ok.inj (hlive.symm.trans hlive')
  -- the only list is the only one that is taken
  obtain ⟨part, htaken⟩ : ∃ part, oneListOnly.touched oneList.rules
      (fun _ => .ok lateExceptions) = [part] := List.length_eq_one_iff.1 (by decide +kernel)
  have hcame : [part].map (·.download) = [.ok lateExceptions] := by
    rw [← htaken]
    decide +kernel
  have hblock : ⟨100, 1, .block, "||a.example", none⟩ ∈ Part.allRules [part] := by
    rw [← htaken]
    decide +kernel
  rw [Part.allRules_cons, Part.allRules_nil, List.append_nil] at hblock
  have hids : live.map (·.id) = [100, 101, 103] := by
    rw [hrules]
    rfl
  have hfirst : ⟨100, 1, .block, "||a.example", none⟩ ∈ live := by
    rw [hrules]
    exact List.mem_cons_self
  obtain ⟨e, he, -, hid, hcompile⟩ := (hkept [] part [] lateExceptions htaken
    (List.singleton_inj.1 hcame) ⟨_, hfirst, hblock, rfl⟩ 3 "||d.example^".toList
    exceptionAt_d).1 (by decide)
  exact ⟨sys, live, hplay, hlive, hids, e, he, hid, hcompile⟩

/-- The exception that is the fifth rule is not live, though rules of its list that block are. -/
theorem blocks_kept_without_exception : ∃ sys r live,
    (start (.new .memory) (.memory none)).play oneList refreshingLate = some sys ∧
    sys.history.passes.find? (·.committed) = some r ∧ r.snapshot = some oneListOnly ∧
    oneListOnly.protectionEnabled = true ∧ Fetch.Gave (fun _ => .ok lateExceptions) r.fetched ∧
    sys.shared.rules.rules = .ok live ∧ (∃ b ∈ live, b.action = .block) ∧
    ExceptionAt lateExceptions.toList 4 "||e.example^".toList ∧
    ¬∃ e ∈ live, Rule.compile? "||e.example^".toList true e.id = some e := by
  obtain ⟨sys, r, live, hplay, hlast, hsnapshot, hgave, hlive, rfl⟩ := refreshed_late
  exact ⟨sys, r, _, hplay, hlast, hsnapshot, rfl, hgave, hlive, by decide, exceptionAt_e,
    by decide +kernel⟩

end System

end FilterSync
