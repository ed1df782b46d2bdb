import FilterSync.Proofs.Pass.Ahead
import FilterSync.Proofs.Service.LiveRules

/-!
# The rules that are handed to the store

What a pass hands to the store is settled by its snapshot and by what its downloads give. It
does not show where the pass stopped early, how many downloads it had under way at once, or
in which order they ended.

Main statement: `System.handed_rules`.
-/

namespace FilterSync

/-- What a pass in a stage hands, or is about to hand, to the rule store. -/
def Stage.handed? : Stage → Option Commit
  | listing c | replacing _ c => some c
  | _ => none

theorem Stage.holdsPass_of_handed? {stage : Stage} {c : Commit} (h : stage.handed? = some c) :
    stage.holdsPass = true := by
  cases stage with
  | listing | replacing => rfl
  | atState | inState | atPass | taking | downloading | ended => cases h

/-- It is what the record of the pass plans. -/
theorem Stage.Follows.plan?_of_handed? {limits : Config.Rules} {store : RuleStore}
    {r : PassRecord} {stage : Stage} {c : Commit} (h : stage.Follows limits store r)
    (hhanded : stage.handed? = some c) : r.plan? limits = some c := by
  cases stage with
  | listing c' =>
    cases hhanded
    exact h.2
  | replacing live c' =>
    cases hhanded
    exact h.2.1
  | atState | inState | atPass | taking | downloading | ended => cases hhanded

namespace System

/-- For a state with protection and whatever the downloads of its enabled lists give: every
pass over it, whatever else is under way, hands to the store the rules of a pass that never
stops early; and so does every pass that downloads ahead, which always comes to that point. -/
theorem handed_rules {config : Config} {state : SyncState} {answers : List Download}
    (on : state.protectionEnabled = true)
    (answered : answers.length = (state.lists.filter (·.enabled)).length) :
    (∀ {rules : RuleStore} {states : StateStore} {turns : List Turn} {sys : System} {who : Nat}
      {op : Operation} {stage : Stage} {c : Commit} {r : PassRecord}, rules.Keyed →
      (start rules states).play config turns = some sys →
      sys.activities[who]? = some ⟨op, stage⟩ → stage.handed? = some c →
      sys.history.passes.head? = some r → r.snapshot = some state →
      r.fetched.map (·.download) <+: answers →
      c.rules = Pass.exhaustiveRules config.rules answers state.customFilters) ∧
    ∀ width, 0 < width →
      (∃ q, Ahead.Reaches config.rules width (.start config.rules state answers) (.taken q)) ∧
      ∀ q, Ahead.Reaches config.rules width (.start config.rules state answers) (.taken q) →
        (q.commitOf config.rules state.customFilters).rules =
          Pass.exhaustiveRules config.rules answers state.customFilters := by
  constructor
  · intro rules states turns sys who op stage c r keyed hplay place hhanded hlast hsnapshot
      hfetched
    have htracked := tracked_play keyed hplay
    obtain ⟨r', rest, hpasses, hfollows⟩ :=
      htracked.follows who _ place (Stage.holdsPass_of_handed? hhanded)
    rw [hpasses] at hlast
    cases hlast
    have hplan := hfollows.plan?_of_handed? hhanded
    unfold PassRecord.plan? at hplan
    rw [hsnapshot] at hplan
    exact SyncState.rules_of_plan? on answered hfetched hplan
  · intro width hwidth
    refine ⟨Ahead.exists_reaches hwidth _, ?_⟩
    intro q hreaches
    exact Ahead.commitOf_of_reaches answered hreaches

/-- Five filters, where there is room for three rules. -/
def fiveFilters : String := "||a.example^\n||b.example^\n@@||c.example^\n||d.example^\n||e.example^"

theorem handed_rules_cut : ∃ sys c,
    (start (.new .memory) (.memory none)).play oneList
      (.surround (serving (fun _ => false) fiveFilters) :: .begin .refresh ::
        List.replicate 5 (.advance 0)) = some sys ∧
    sys.activities[0]?.bind (·.stage.handed?) = some c ∧
    c.rules = Pass.exhaustiveRules oneList.rules [.ok fiveFilters] [] ∧
    c.rules.map (·.id) = [102, 100, 101] ∧
    ∃ q, Ahead.Reaches oneList.rules 4 (.start oneList.rules
      (SyncState.completed oneList.lists none) [.ok fiveFilters]) (.taken q) := by
  let state := SyncState.completed oneList.lists none
  have hseen : ((start (.new .memory) (.memory none)).play oneList
      (.surround (serving (fun _ => false) fiveFilters) :: .begin .refresh ::
        List.replicate 5 (.advance 0))).map
      (fun sys => ((sys.activities[0]?.bind (·.stage.handed?)).map (·.rules.map (·.id)),
        sys.history.passes.head?.map fun r =>
          decide (r.snapshot = some state ∧ r.fetched.map (·.download) = [.ok fiveFilters]))) =
      some (some [102, 100, 101], some true) := by
    decide +kernel
  obtain ⟨sys, hplay, hseen⟩ := Option.map_eq_some_iff.1 hseen
  rw [Prod.mk.injEq] at hseen
  obtain ⟨c, hhanded, hids⟩ := Option.map_eq_some_iff.1 hseen.1
  obtain ⟨r, hlast, hr⟩ := Option.map_eq_some_iff.1 hseen.2
  rw [decide_eq_true_eq] at hr
  obtain ⟨⟨op, stage⟩, hplace, hstage⟩ := Option.bind_eq_some_iff.1 hhanded
  obtain ⟨hpasses, hahead⟩ := @handed_rules oneList state [.ok fiveFilters] rfl rfl
  have hrules := hpasses (RuleStore.keyed_new .memory) hplay hplace hstage hlast hr.1
    (hr.2 ▸ List.prefix_refl _)
  obtain ⟨⟨q, hreaches⟩, -⟩ := hahead 4 (by decide)
  exact ⟨sys, c, hplay, hhanded, hrules, hids, q, hreaches⟩

end System

end FilterSync
