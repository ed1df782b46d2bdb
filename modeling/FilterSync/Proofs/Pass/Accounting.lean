import FilterSync.Proofs.Pass.Parts
import FilterSync.Proofs.State.Lists
import Mathlib.Algebra.GroupWithZero.Nat

/-!
# Whose the live rules are

Every live rule was compiled from one list or from one filter of the user, so the live rules can be
counted by where they come from. No rule is made twice; a list whose rules were recorded as a range
of positions therefore reports those of its rules that are live when it reports how much of that
range is left. What was reported is stored under the key of its list, and of every other list the
state says what it said before.

Main statements: `Part.reported_of_recorded` and `SyncState.accounts_plan?`.
-/

namespace FilterSync

open Pass (ceiling)

/-! ## Counting live rules -/

section Counting

variable {before mine after more live : List Rule}

theorem countP_mem_append (h : mine.Disjoint more) (live : List Rule) :
    live.countP (· ∈ mine ++ more) = live.countP (· ∈ mine) + live.countP (· ∈ more) := by
  induction live with
  | nil => rfl
  | cons r live ih =>
    simp only [List.countP_cons, ih]
    by_cases hmine : r ∈ mine
    · have hmore : r ∉ more := fun hr => h hmine hr
      simp [hmine, hmore]
      omega
    · by_cases hmore : r ∈ more
      · simp [hmine, hmore]
        omega
      · simp [hmine, hmore]

/-- Of rules in a row those that are among the first `n`. -/
theorem countP_take (h : (before ++ (mine ++ after)).Nodup) (n : Nat) :
    ((before ++ (mine ++ after)).take n).countP (· ∈ mine) =
      min mine.length (n - before.length) := by
  obtain ⟨-, hrest, hbefore⟩ := List.nodup_append.1 h
  obtain ⟨-, -, hafter⟩ := List.nodup_append.1 hrest
  have hnone : (before.take n).countP (· ∈ mine) = 0 := by
    rw [List.countP_eq_zero]
    intro r hr hmine
    exact hbefore r (List.mem_of_mem_take hr) r
      (List.mem_append_left _ (of_decide_eq_true hmine)) rfl
  have hnone' : (after.take (n - before.length - mine.length)).countP (· ∈ mine) = 0 := by
    rw [List.countP_eq_zero]
    intro r hr hmine
    exact hafter r (of_decide_eq_true hmine) r (List.mem_of_mem_take hr) rfl
  have hall : (mine.take (n - before.length)).countP (· ∈ mine) =
      (mine.take (n - before.length)).length := by
    rw [List.countP_eq_length]
    intro r hr
    exact decide_eq_true (List.mem_of_mem_take hr)
  rw [List.take_append, List.take_append, List.countP_append, List.countP_append, hnone, hnone',
    hall, List.length_take, Nat.min_comm]
  omega

theorem sum_countP_rules {parts : List Part} (h : (Part.allRules parts).Nodup)
    (live : List Rule) :
    (parts.map fun part => live.countP (· ∈ part.rules)).sum =
      live.countP (· ∈ Part.allRules parts) := by
  induction parts with
  | nil => simp
  | cons part parts ih =>
    rw [Part.allRules_cons] at h
    obtain ⟨-, hrest, hdisjoint⟩ := List.nodup_append.1 h
    have happart : part.rules.Disjoint (Part.allRules parts) :=
      fun r hr hr' => hdisjoint r hr r hr' rfl
    rw [List.map_cons, List.sum_cons, ih hrest, Part.allRules_cons, countP_mem_append happart]

end Counting

/-! ## What is known of a list -/

/-- What is known of a list that was taken, when `live` are the live rules. -/
structure Part.Reported (live : List Rule) (part : Part) (l : ListSource) : Prop where
  /-- Nothing else of the list has changed. -/
  same : part.list.withMetadata l = l
  count : l.ruleCount.toNat = live.countP (· ∈ part.rules)
  compiled : ∀ text, part.download = .ok text → l.lastUpdated.isSome = true ∧ l.lastError = none
  failed : ∀ e, part.download = .error e →
    l.ruleCount = 0 ∧ l.lastUpdated = part.list.lastUpdated ∧ l.lastError = some e.message

theorem Part.reported_of_recorded {made : List Rule} {part : Part} {t : TakenList} {n : Nat}
    (h : part.Recorded made t) (hnodup : made.Nodup) (hn : n < UInt64.size) :
    part.Reported (made.take n) (t.settle (made.take n).length) := by
  cases h with
  | compiled text time before after hdownload hrules =>
    have hcount := countP_take (hrules ▸ hnodup) n
    rw [← hrules] at hcount
    have hlength : (made.take n).length =
        min n (before.length + (part.rules.length + after.length)) := by
      rw [List.length_take, hrules, List.length_append, List.length_append]
    refine ⟨rfl, ?_, fun _ _ => ⟨rfl, rfl⟩, ?_⟩
    · show (UInt64.ofNat (min _ _ - before.length)).toNat = _
      have hfits : min (before.length + part.rules.length) (made.take n).length - before.length <
          UInt64.size := by omega
      rw [UInt64.toNat_ofNat_of_lt' hfits, hcount]
      omega
    · intro e he
      rw [hdownload] at he
      cases he
  | failed e hdownload hnone =>
    refine ⟨rfl, ?_, ?_, ?_⟩
    · rw [hnone]
      simp [TakenList.settle, ListSource.recordFailure]
    · intro text htext
      rw [hdownload] at htext
      cases htext
    · intro e' he'
      rw [hdownload] at he'
      cases he'
      exact ⟨rfl, rfl, rfl⟩

/-! ## Lists and their keys -/

/-- Lists of a state whose keys are distinct are found by their keys. -/
theorem filter_mem_keys {taken lists : List ListSource} (h : taken.Sublist lists)
    (distinct : (lists.map (·.key)).Nodup) :
    lists.filter (·.key ∈ taken.map (·.key)) = taken := by
  induction h with
  | slnil => rfl
  | @cons taken lists l hsub ih =>
    rw [List.map_cons, List.nodup_cons] at distinct
    have hnot : l.key ∉ taken.map (·.key) := fun hmem => distinct.1 ((hsub.map _).subset hmem)
    rw [List.filter_cons_of_neg (by simpa using hnot), ih distinct.2]
  | @cons_cons taken lists l hsub ih =>
    rw [List.map_cons, List.nodup_cons] at distinct
    rw [List.filter_cons_of_pos (by simp)]
    congr 1
    refine (List.filter_congr ?_).trans (ih distinct.2)
    intro l' hl'
    have hne : l'.key ≠ l.key := by
      intro heq
      exact distinct.1 (heq ▸ List.mem_map_of_mem hl')
    simp [hne]

theorem find?_key {lists : List ListSource} {m : ListSource} (h : (lists.map (·.key)).Nodup)
    (hm : m ∈ lists) : lists.find? (·.key = m.key) = some m := by
  induction lists with
  | nil => cases hm
  | cons l lists ih =>
    rw [List.map_cons, List.nodup_cons] at h
    rcases List.mem_cons.1 hm with rfl | hm
    · simp
    · have hne : l.key ≠ m.key := fun heq => h.1 (heq ▸ List.mem_map_of_mem hm)
      rw [List.find?_cons_of_neg (by simpa using hne), ih h.2 hm]

namespace SyncState

/-- What is known of a list after `lists` were reported. -/
def learn (lists : List ListSource) (l : ListSource) : ListSource :=
  match lists.find? (·.key = l.key) with
  | some m => l.withMetadata m
  | none => l

theorem key_learn (lists : List ListSource) (l : ListSource) : (learn lists l).key = l.key := by
  unfold learn
  split <;> rfl

theorem learn_of_not_mem {lists : List ListSource} {l : ListSource}
    (h : l.key ∉ lists.map (·.key)) : learn lists l = l := by
  have hnone : lists.find? (·.key = l.key) = none := by
    rw [List.find?_eq_none]
    intro m hm heq
    exact h (of_decide_eq_true heq ▸ List.mem_map_of_mem hm)
  unfold learn
  rw [hnone]

/-! ## A whole pass -/

/-- What a refresh over `s` leaves: `o` is its outcome, `live` are the live rules, and `s'` is
stored. -/
structure Accounts (s : SyncState) (limits : Config.Rules) (answers : Nat → Download) (o : Outcome)
    (live : List Rule) (s' : SyncState) : Prop where
  enabled : (s.parts limits answers).map (·.list) = s.lists.filter (·.enabled)
  shortest : Part.IsShortest (ceiling limits) (s.parts limits answers) (s.touched limits answers)
  reported : List.Forall₂ (Part.Reported live) (s.touched limits answers) o.lists
  /-- What is stored of the lists that were taken is what was reported of them. -/
  stored : s'.lists.filter (·.key ∈ o.lists.map (·.key)) = o.lists
  untouched : List.Forall₂
    (fun l l' => l.enabled = false ∨ l.key ∉ o.lists.map (·.key) → l' = l) s.lists s'.lists
  total : (o.lists.map (·.ruleCount.toNat)).sum +
    live.countP (· ∈ (s.ownRules limits answers).map (·.2)) = live.length
  cut : live = (s.made limits answers).take (ceiling limits)
  last : ∀ r ∈ s.made limits answers, r ∉ live →
    ∃ part, (s.touched limits answers).getLast? = some part ∧ r ∈ part.rules
  own : ∀ r ∈ (s.ownRules limits answers).map (·.2), r ∈ live

variable {s : SyncState} {limits : Config.Rules} {answers : Nat → Download} {live : List Rule}
  {lists : List ListSource} {touched : List Part}

theorem touched_sublist_lists : ((s.touched limits answers).map (·.list)).Sublist s.lists :=
  touched_sublist.trans List.filter_sublist

theorem exists_part (h : List.Forall₂ (Part.Reported live) touched lists) {m : ListSource}
    (hm : m ∈ lists) : ∃ part ∈ touched, part.Reported live m := by
  induction h with
  | nil => cases hm
  | @cons part l touched lists hreported _ ih =>
    rcases List.mem_cons.1 hm with rfl | hm
    · exact ⟨part, List.mem_cons_self, hreported⟩
    · obtain ⟨part', hpart', hreported'⟩ := ih hm
      exact ⟨part', List.mem_cons_of_mem _ hpart', hreported'⟩

theorem keys_reported (h : List.Forall₂ (Part.Reported live) touched lists) :
    lists.map (·.key) = (touched.map (·.list)).map (·.key) := by
  induction h with
  | nil => rfl
  | cons hreported _ ih =>
    rw [List.map_cons, List.map_cons, List.map_cons, ih, ← hreported.same]
    rfl

theorem nodup_keys_reported (distinct : s.keys.Nodup)
    (h : List.Forall₂ (Part.Reported live) (s.touched limits answers) lists) :
    (lists.map (·.key)).Nodup := by
  rw [keys_reported h]
  exact distinct.sublist (touched_sublist_lists.map _)

/-- Of a list that was taken everything that was reported is known. -/
theorem map_learn {reported : List ListSource}
    (h : List.Forall₂ (Part.Reported live) touched reported)
    (hfound : ∀ m ∈ reported, lists.find? (·.key = m.key) = some m) :
    (touched.map (·.list)).map (learn lists) = reported := by
  induction h with
  | nil => rfl
  | @cons part m touched reported hreported _ ih =>
    have hkey : part.list.key = m.key := by
      rw [← hreported.same]
      rfl
    have hlearn : learn lists part.list = m := by
      unfold learn
      rw [hkey, hfound m List.mem_cons_self]
      exact hreported.same
    rw [List.map_cons, List.map_cons, hlearn]
    congr 1
    exact ih fun m' hm' => hfound m' (List.mem_cons_of_mem _ hm')

theorem filter_map_learn (distinct : s.keys.Nodup)
    (h : List.Forall₂ (Part.Reported live) (s.touched limits answers) lists) :
    (s.lists.map (learn lists)).filter (·.key ∈ lists.map (·.key)) = lists := by
  have hfilter : s.lists.filter ((fun l => decide (l.key ∈ lists.map (·.key))) ∘ learn lists) =
      (s.touched limits answers).map (·.list) := by
    refine (List.filter_congr ?_).trans (filter_mem_keys touched_sublist_lists distinct)
    intro l _
    rw [Function.comp_apply, key_learn, keys_reported h]
  rw [List.filter_map, hfilter]
  exact map_learn h fun m hm => find?_key (nodup_keys_reported distinct h) hm

theorem learn_of_untouched (distinct : s.keys.Nodup)
    (h : List.Forall₂ (Part.Reported live) (s.touched limits answers) lists) {l : ListSource}
    (hl : l ∈ s.lists) (hnot : l.enabled = false ∨ l.key ∉ lists.map (·.key)) :
    learn lists l = l := by
  apply learn_of_not_mem
  rcases hnot with hoff | hnot
  · intro hmem
    rw [keys_reported h] at hmem
    obtain ⟨l', hl', hkey⟩ := List.mem_map.1 hmem
    have hmem' : l' ∈ s.lists := touched_sublist_lists.subset hl'
    obtain rfl : l' = l := List.inj_on_of_nodup_map distinct hmem' hl hkey
    -- only enabled lists are taken
    have hon := (List.mem_filter.1 (touched_sublist.subset hl')).2
    rw [hoff] at hon
    cases hon
  · exact hnot

/-- The counts of the lists that were taken are those of the rules compiled from them. -/
theorem map_ruleCount (h : List.Forall₂ (Part.Reported live) touched lists) :
    lists.map (·.ruleCount.toNat) = touched.map fun part => live.countP (· ∈ part.rules) := by
  induction h with
  | nil => rfl
  | cons hreported _ ih => rw [List.map_cons, List.map_cons, ih, hreported.count]

/-- Every live rule counts once, for its list or for its filter. -/
theorem sum_ruleCount (hnodup : (s.made limits answers).Nodup)
    (hlive : ∀ r ∈ live, r ∈ s.made limits answers)
    (h : List.Forall₂ (Part.Reported live) (s.touched limits answers) lists) :
    (lists.map (·.ruleCount.toNat)).sum +
      live.countP (· ∈ (s.ownRules limits answers).map (·.2)) = live.length := by
  obtain ⟨hlists, -, hapart⟩ := List.nodup_append.1 hnodup
  have hdisjoint : (Part.allRules (s.touched limits answers)).Disjoint
      ((s.ownRules limits answers).map (·.2)) :=
    fun r hr hr' => hapart r hr r hr' rfl
  rw [map_ruleCount h, sum_countP_rules hlists, ← countP_mem_append hdisjoint,
    List.countP_eq_length]
  intro r hr
  exact decide_eq_true (hlive r hr)

theorem reported_plan? {fetched : List Fetch} {c : Commit} (on : s.protectionEnabled = true)
    (room : 0 < ceiling limits) (hgave : Fetch.Gave answers fetched)
    (hplan : s.plan? limits fetched = some c) :
    List.Forall₂ (Part.Reported c.rules) (s.touched limits answers) c.lists := by
  obtain ⟨hcut, hnodup, -, taken, hlists, hrecords⟩ := plan?_made on room hgave hplan
  rw [hlists, List.forall₂_map_right_iff]
  refine hrecords.imp fun part t h => ?_
  have hpart := Part.reported_of_recorded h hnodup limits.maxRules.toNat_lt
  rwa [← ceiling, ← hcut] at hpart

theorem accounts_plan? {fetched : List Fetch} {c : Commit} (on : s.protectionEnabled = true)
    (distinct : s.keys.Nodup) (room : 0 < ceiling limits) (hgave : Fetch.Gave answers fetched)
    (hplan : s.plan? limits fetched = some c) (time : Timestamp) :
    Accounts s limits answers ⟨c.lists, c.rules.length, time⟩ c.rules
      (s.afterPass ⟨c.lists, c.rules.length, time⟩) := by
  obtain ⟨hcut, hnodup, -⟩ := plan?_made on room hgave hplan
  have hreported := reported_plan? on room hgave hplan
  have hmerged : (s.afterPass ⟨c.lists, c.rules.length, time⟩).lists =
      s.lists.map (learn c.lists) :=
    mergeMetadata_eq_map distinct (nodup_keys_reported distinct hreported)
  constructor
  · exact Part.map_list_compile _ _ _ _
  · exact Part.isShortest_upTo room _
  · exact hreported
  · rw [hmerged]
    exact filter_map_learn distinct hreported
  · rw [hmerged, List.forall₂_map_right_iff, List.forall₂_same]
    intro l hl hnot
    exact learn_of_untouched distinct hreported hl hnot
  · apply sum_ruleCount hnodup _ hreported
    intro r hr
    rw [hcut] at hr
    exact List.mem_of_mem_take hr
  · exact hcut
  · intro r hr hgone
    rw [hcut] at hgone
    exact cut_of_last room hr hgone
  · intro r hr
    rw [hcut]
    exact own_live hr

end SyncState

end FilterSync
