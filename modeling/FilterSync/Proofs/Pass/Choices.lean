import FilterSync.Proofs.Pass.Exhaustive

/-!
# What rules are made from

The rules of a pass come from the URLs of the enabled lists in order, from the expressions and
actions of the enabled filters in order, and from whether protection is on. Nothing else that a
state says has a part in them: names, keys and identifiers do not, nor does what is disabled,
nor what is known of earlier downloads. Where two passes go by the same choices and the same
downloads, the only thing that could tell them apart is which downloads they made; but each
stops where its rules reach the ceiling, and there their rules agree.

Main statement: `SyncState.rules_of_sameChoices`.
-/

namespace FilterSync

namespace Pass

variable {limits : Config.Rules} {p q : Pass}

/-- Of an enabled filter only the expression and the action are compiled. -/
theorem filterSources_congr {filters filters' : List CustomFilter}
    (h : (filters.filter (·.enabled)).map (fun f => (f.expression, f.action)) =
      (filters'.filter (·.enabled)).map fun f => (f.expression, f.action)) :
    filterSources filters = filterSources filters' := by
  let source (chosen : String × Action) := filterSource ⟨"", chosen.1, chosen.2, true⟩
  have hview : ∀ fs : List CustomFilter, filterSources fs =
      ((fs.filter (·.enabled)).map fun f => (f.expression, f.action)).map source := by
    intro fs
    unfold filterSources
    rw [List.map_map]
    rfl
  rw [hview, hview, h]

/-- A pass makes one download per list at most. -/
theorem length_le_of_replay? {ls : List ListSource} {fs : List Fetch}
    (h : p.replay? limits ls fs = some q) : fs.length ≤ ls.length := by
  replace h := replays_of_eq h
  induction h with
  | done p => exact Nat.le_refl 0
  | last ls url full => exact Nat.succ_le_succ (Nat.zero_le _)
  | more url room rest ih => exact Nat.succ_le_succ ih

end Pass

/-- What was downloaded is what the answers are, in order. -/
def Fetch.Gave (answers : Nat → Download) (fetched : List Fetch) : Prop :=
  ∀ k f, fetched[k]? = some f → f.download = answers k

theorem Fetch.gave_iff {answers : Nat → Download} {fetched : List Fetch} :
    Gave answers fetched ↔ fetched.map (·.download) = (List.range fetched.length).map answers := by
  constructor
  · intro h
    apply List.ext_getElem
    · rw [List.length_map, List.length_map, List.length_range]
    · intro k hk _
      rw [List.length_map] at hk
      rw [List.getElem_map, List.getElem_map, List.getElem_range]
      exact h k _ (List.getElem?_eq_getElem hk)
  · intro h k f hf
    obtain ⟨hk, -⟩ := List.getElem?_eq_some_iff.1 hf
    have hat := congrArg (·[k]?) h
    simp only [List.getElem?_map, hf, List.getElem?_range hk] at hat
    exact Option.some.inj hat

instance (answers : Nat → Download) (fetched : List Fetch) :
    Decidable (Fetch.Gave answers fetched) :=
  decidable_of_iff _ Fetch.gave_iff.symm

theorem Fetch.Gave.begins {answers : Nat → Download} {fetched : List Fetch}
    (h : Gave answers fetched) {n : Nat} (hn : fetched.length ≤ n) :
    fetched.map (·.download) <+: (List.range n).map answers := by
  rw [List.prefix_iff_getElem?]
  intro k hk
  rw [List.length_map] at hk
  have hfetch := h k fetched[k] (List.getElem?_eq_getElem hk)
  rw [List.getElem?_map, List.getElem?_range (Nat.lt_of_lt_of_le hk hn), Option.map_some,
    List.getElem_map, hfetch]

namespace SyncState

variable {limits : Config.Rules} {s s' : SyncState}

/-- Two states that rules are made from in the same way. -/
structure SameChoices (s s' : SyncState) : Prop where
  protectionEnabled : s.protectionEnabled = s'.protectionEnabled
  urls : (s.lists.filter (·.enabled)).map (·.url) = (s'.lists.filter (·.enabled)).map (·.url)
  filters : (s.customFilters.filter (·.enabled)).map (fun f => (f.expression, f.action)) =
    (s'.customFilters.filter (·.enabled)).map fun f => (f.expression, f.action)

instance (s s' : SyncState) : Decidable (SameChoices s s') :=
  decidable_of_iff
    (s.protectionEnabled = s'.protectionEnabled ∧
      (s.lists.filter (·.enabled)).map (·.url) = (s'.lists.filter (·.enabled)).map (·.url) ∧
      (s.customFilters.filter (·.enabled)).map (fun f => (f.expression, f.action)) =
        (s'.customFilters.filter (·.enabled)).map fun f => (f.expression, f.action))
    ⟨fun h => ⟨h.1, h.2.1, h.2.2⟩, fun h => ⟨h.1, h.2, h.3⟩⟩

theorem SameSettings.sameChoices (h : SameSettings s s') : SameChoices s s' :=
  ⟨h.protectionEnabled, h.enabledUrls, by rw [h.customFilters]⟩

/-- What a protected pass commits, told from the answers to its downloads. -/
theorem rules_of_answers {answers : Nat → Download} {fetched : List Fetch} {c : Commit}
    (on : s.protectionEnabled = true) (hgave : Fetch.Gave answers fetched)
    (hplan : s.plan? limits fetched = some c) :
    c.rules = Pass.exhaustiveRules limits
      ((List.range (s.lists.filter (·.enabled)).length).map answers) s.customFilters := by
  have hlength : fetched.length ≤ (s.lists.filter (·.enabled)).length := by
    obtain ⟨q, hreplay, -⟩ := (plan?_eq_some_iff on).1 hplan
    exact Pass.length_le_of_replay? hreplay
  refine rules_of_plan? on ?_ (hgave.begins hlength) hplan
  rw [List.length_map, List.length_range]

/-- Passes over states with the same choices, whose downloads give the same, commit the same
rules. -/
theorem rules_of_sameChoices {answers : Nat → Download} {fetched fetched' : List Fetch}
    {c c' : Commit} (h : SameChoices s s')
    (hgave : Fetch.Gave answers fetched) (hgave' : Fetch.Gave answers fetched')
    (hplan : s.plan? limits fetched = some c) (hplan' : s'.plan? limits fetched' = some c') :
    c.rules = c'.rules := by
  cases on : s.protectionEnabled with
  | true =>
    -- either pass may have stopped earlier than the other, so both are compared with one that
    -- never stops
    have hcount : (s.lists.filter (·.enabled)).length = (s'.lists.filter (·.enabled)).length := by
      have hlengths := congrArg List.length h.urls
      rwa [List.length_map, List.length_map] at hlengths
    have hrules := rules_of_answers on hgave hplan
    have hrules' := rules_of_answers (h.protectionEnabled.symm.trans on) hgave' hplan'
    rw [hrules, hrules', hcount]
    unfold Pass.exhaustiveRules
    rw [Pass.filterSources_congr h.filters]
  | false =>
    rw [plan?_of_unprotected on hplan,
      plan?_of_unprotected (h.protectionEnabled.symm.trans on) hplan']

end SyncState

end FilterSync
