import FilterSync.Proofs.Pass.Isolation
import FilterSync.Proofs.Service.Independence

/-!
# What a refresh leaves

A service with nothing under way refreshes by itself and well. The rules that are live then are
accounted for by the lists that were taken and by the filters of the user, list by list in what is
stored; and a list whose download fails makes no other difference than that it is said to have
failed.

Main statements: `System.refresh_accounts` and `System.failing_lists_isolated`.
-/

namespace FilterSync

namespace System

/-- What the clock said to the last pass: whenever a text had come, and when its rules were live. -/
def readings (sys : System) : List Timestamp :=
  (sys.history.passes.head?.elim [] fun r => Fetch.readings r.fetched) ++
    match sys.shared.states.load with
    | .ok (some state) => state.lastSync.toList
    | _ => []

variable {backend backend' : Config.Backend} {config config' : Config}
  {sys sys' after after' : System} {stored stored' : Option SyncState} {s : SyncState}

theorem ceiling_pos {limits : Config.Rules} (h : 0 < limits.maxRules) :
    0 < Pass.ceiling limits := UInt64.lt_iff_toNat_lt.1 h

/-! ## Counts -/

/-- A refresh that runs well asks for the lists that it takes, answers what it knows of them, and
stores that: the counts of these lists and the rules of the user make up the live rules. -/
theorem refresh_accounts {answers : Nat → Download} (reached : Reached backend config sys)
    (idle : ∀ a ∈ sys.activities, ∃ result, a.stage = .ended result)
    (loaded : sys.shared.states.load = .ok stored)
    (seen : SyncState.completed config.lists stored = s)
    (on : s.protectionEnabled = true) (distinct : s.keys.Nodup)
    (room : 0 < config.rules.maxRules)
    (refreshed : RunsWell config .refresh answers sys after) :
    ∃ r o live state, after.history.passes.head? = some r ∧
      r.fetched.map (·.url) = (s.touched config.rules answers).map (·.list.url) ∧
      after.activities[sys.activities.length]? = some ⟨.refresh, .ended (.ok (.outcome o))⟩ ∧
      after.shared.rules.Holds live ∧ after.shared.states.load = .ok (some state) ∧
      s.Accounts config.rules answers o live state := by
  subst seen
  obtain ⟨r, c, time, hlast, hgave, hplan, hholds, hanswer, hquiet⟩ :=
    refreshed.recorded (reached.quiet idle loaded) ⟨by simp, by simp⟩
  obtain ⟨-, -, hurls, -⟩ := SyncState.plan?_made on (ceiling_pos room) hgave hplan
  exact ⟨r, c.outcome time, c.rules, _, hlast, hurls, hanswer, hholds, hquiet.loaded,
    SyncState.accounts_plan? on distinct (ceiling_pos room) hgave hplan time⟩

/-- Room for three rules, and two lists to take them from, of which the second one is enabled. -/
def twoLists (first : Bool) : Config where
  lists := [⟨"a", "A", "https://a", first⟩, ⟨"b", "B", "https://b", true⟩]
  rules := ⟨3, 100⟩

def twoFilters : String := "||a.example^\n||b.example^"

/-- A refresh that meets this page for the first list, and two filters for the second one. -/
def refreshingBoth (first : PageContent) (steps : Nat) : List Turn :=
  let pages : Table String Page := .put .empty "https://a" ⟨first, none⟩
  .surround ⟨fun _ => none, pages.put "https://b" ⟨.text twoFilters, none⟩, 5⟩ ::
    List.replicate steps (.advance 0)

/-- There is no room for the last one of four rules. -/
theorem refresh_accounts_cut : ∃ after o live state,
    (start (.new .memory) (.memory none)).play (twoLists true)
      (.begin .refresh :: refreshingBoth (.text twoFilters) 11) = some after ∧
    after.shared.rules.Holds live ∧ after.shared.states.load = .ok (some state) ∧
    state.lists.map (·.ruleCount) = [2, 1] ∧
    (SyncState.completed (twoLists true).lists none).Accounts (twoLists true).rules
      (fun _ => .ok twoFilters) o live state := by
  have hseen : ((start (.new .memory) (.memory none)).play (twoLists true)
      (.begin .refresh :: refreshingBoth (.text twoFilters) 11)).map (fun after =>
        (hasRun .refresh (fun _ => .ok twoFilters) (start (.new .memory) (.memory none)) after,
          after.shared.states.load.toOption.map (·.map (·.lists.map (·.ruleCount))))) =
      some (true, some (some [2, 1])) := by
    decide +kernel
  obtain ⟨after, hplay, hseen⟩ := Option.map_eq_some_iff.1 hseen
  obtain ⟨hrun, hcounts⟩ := Prod.mk.inj hseen
  obtain ⟨-, o, live, state, -, -, -, hholds, hload, haccounts⟩ :=
    refresh_accounts (.opened (twoLists true) ⟨none, rfl⟩) (by simp [start]) rfl rfl rfl
      (by decide) (by decide) (runsWell_of_hasRun rfl hplay hrun)
  rw [hload] at hcounts
  exact ⟨after, o, live, state, hplay, hholds, hload,
    Option.some.inj (Option.some.inj hcounts), haccounts⟩

/-! ## Failing lists -/

theorem readings_of_pass {r : PassRecord} {state : SyncState} {time : Timestamp}
    (hlast : sys.history.passes.head? = some r)
    (loaded : sys.shared.states.load = .ok (some state)) (hsync : state.lastSync = some time) :
    sys.readings = Fetch.readings r.fetched ++ [time] := by
  unfold readings
  rw [hlast, loaded]
  simp [hsync]

/-- Whether lists fail or are disabled, a refresh leaves the same rules, from the same filters of
the user, and stores the same of all other lists. -/
theorem failing_lists_isolated {answers : String → Download} {failing : List String}
    {clock : Nat → Timestamp} (limits : config.rules = config'.rules)
    (reached : Reached backend config sys) (reached' : Reached backend' config' sys')
    (idle : ∀ a ∈ sys.activities, ∃ result, a.stage = .ended result)
    (idle' : ∀ a ∈ sys'.activities, ∃ result, a.stage = .ended result)
    (loaded : sys.shared.states.load = .ok stored)
    (loaded' : sys'.shared.states.load = .ok stored')
    (seen : SyncState.completed config.lists stored = s)
    (seen' : SyncState.completed config'.lists stored' = s.disabling failing)
    (on : s.protectionEnabled = true) (distinct : s.keys.Nodup)
    (room : 0 < config.rules.maxRules)
    (fails : ∀ key ∈ failing, ∃ e, answers key = .error e)
    (refreshed : RunsWell config .refresh (s.answersFor answers) sys after)
    (refreshed' : RunsWell config' .refresh ((s.disabling failing).answersFor answers) sys' after')
    (clocked : Reads clock after.readings) (clocked' : Reads clock after'.readings) :
    after.shared.rules.Agree after'.shared.rules ∧
    (∃ live, after.shared.rules.Holds live ∧ after'.shared.rules.Holds live ∧
      live = (s.made config.rules (s.answersFor answers)).take (Pass.ceiling config.rules)) ∧
    (s.disabling failing).ownRules config'.rules ((s.disabling failing).answersFor answers) =
      s.ownRules config.rules (s.answersFor answers) ∧
    ∃ state state', after.shared.states.load = .ok (some state) ∧
      after'.shared.states.load = .ok (some state') ∧
      state' = { state with lists := state'.lists } ∧
      List.Forall₂ (SyncState.Isolates failing) state.lists state'.lists := by
  have hrefresh : Operation.refresh ≠ .getState ∧ Operation.refresh ≠ .countBlocked :=
    ⟨by simp, by simp⟩
  obtain ⟨r, c, time, hlast, hgave, hplan, hholds, -, hquiet⟩ :=
    refreshed.recorded (reached.quiet idle loaded) hrefresh
  obtain ⟨r', c', time', hlast', hgave', hplan', hholds', -, hquiet'⟩ :=
    refreshed'.recorded (reached'.quiet idle' loaded') hrefresh
  rw [seen] at hplan hquiet
  rw [seen', ← limits] at hplan'
  rw [seen'] at hquiet'
  rw [readings_of_pass hlast hquiet.loaded rfl] at clocked
  rw [readings_of_pass hlast' hquiet'.loaded rfl] at clocked'
  obtain ⟨hrules, hlists, hcount, hown⟩ := SyncState.plan?_disabling on (ceiling_pos room) fails
    hplan hplan' hgave hgave' clocked.of_append clocked'.of_append
  -- the clock was read equally often, so the rules went live at the same time
  have htime : time' = time := by
    calc
      time' = clock (Fetch.readings r'.fetched).length := clocked'.last
      _ = clock (Fetch.readings r.fetched).length := by rw [hcount]
      _ = time := clocked.last.symm
  obtain ⟨hcut, -⟩ := SyncState.plan?_made on (ceiling_pos room) hgave hplan
  have hreported := SyncState.reported_plan? on (ceiling_pos room) hgave hplan
  rw [hrules] at hholds'
  refine ⟨hholds.agree hholds', ⟨c.rules, hholds, hholds', hcut⟩, limits ▸ hown, ?_⟩
  have houtcome : c'.outcome time' =
      ⟨c.lists.filter (·.key ∉ failing), c.rules.length, time⟩ := by
    rw [Commit.outcome, hrules, hlists, htime]
  have hloaded' := hquiet'.loaded
  rw [houtcome] at hloaded'
  exact ⟨_, _, hquiet.loaded, hloaded',
    SyncState.isolates_afterPass distinct fails hreported⟩

/-- The page of the first list is not there. -/
def secondAnswers (key : String) : Download :=
  if key = "a" then .error (.status "https://a" 500) else .ok twoFilters

def bothEnabled : SyncState := .completed (twoLists true).lists none

/-- The first list fails, or is disabled: two rules come from the second one. -/
theorem failing_lists_isolated_first : ∃ after after' state state',
    (start (.new .memory) (.memory none)).play (twoLists true)
      (.begin .refresh :: refreshingBoth (.status 500) 12) = some after ∧
    (start (.new .sqlite) (.memory none)).play (twoLists false)
      (.begin .refresh :: refreshingBoth (.status 500) 10) = some after' ∧
    after.shared.rules.ids = .ok [100, 101] ∧ after.shared.rules.Agree after'.shared.rules ∧
    after.shared.states.load = .ok (some state) ∧
    after'.shared.states.load = .ok (some state') ∧
    List.Forall₂ (SyncState.Isolates ["a"]) state.lists state'.lists := by
  have hseen : ((start (.new .memory) (.memory none)).play (twoLists true)
      (.begin .refresh :: refreshingBoth (.status 500) 12)).map (fun after =>
        (hasRun .refresh (bothEnabled.answersFor secondAnswers)
          (start (.new .memory) (.memory none)) after,
          after.readings, after.shared.rules.ids)) =
      some (true, [5, 5], .ok [100, 101]) := by
    decide +kernel
  have hseen' : ((start (.new .sqlite) (.memory none)).play (twoLists false)
      (.begin .refresh :: refreshingBoth (.status 500) 10)).map (fun after' =>
        (hasRun .refresh ((bothEnabled.disabling ["a"]).answersFor secondAnswers)
          (start (.new .sqlite) (.memory none)) after', after'.readings)) =
      some (true, [5, 5]) := by
    decide +kernel
  obtain ⟨after, hplay, hseen⟩ := Option.map_eq_some_iff.1 hseen
  obtain ⟨after', hplay', hseen'⟩ := Option.map_eq_some_iff.1 hseen'
  simp only [Prod.mk.injEq] at hseen hseen'
  obtain ⟨hrun, hreadings, hids⟩ := hseen
  obtain ⟨hrun', hreadings'⟩ := hseen'
  have hclock : Reads (fun _ => 5) [5, 5] := by
    intro k t ht
    simpa using List.mem_of_getElem? ht
  have hlimits : (twoLists true).rules = (twoLists false).rules := rfl
  have hcompleted : SyncState.completed (twoLists true).lists none = bothEnabled := rfl
  obtain ⟨hagree, -, -, state, state', hload, hload', -, hlists⟩ :=
    failing_lists_isolated hlimits (.opened (twoLists true) ⟨none, rfl⟩)
      (.opened (twoLists false) ⟨none, rfl⟩) (by simp [start]) (by simp [start]) rfl rfl
      hcompleted rfl rfl (by decide)
      (by decide) (by simp [secondAnswers]) (runsWell_of_hasRun rfl hplay hrun)
      (runsWell_of_hasRun rfl hplay' hrun') (hreadings ▸ hclock) (hreadings' ▸ hclock)
  exact ⟨after, after', state, state', hplay, hplay', hids, hagree, hload, hload', hlists⟩

end System

end FilterSync
