import FilterSync.Proofs.Pass.Accounting

/-!
# A list that fails is a list that is disabled

A pass makes no rules from a list whose download fails. So it makes the rules of a pass in whose
state such lists are disabled, in the same order and with the same identifiers, and what it knows
of the other lists is the same; it only knows besides that these lists failed. The two passes do
not take the same number of lists, so they are compared where the longer one has taken a list that
the other one takes too.

What a pass knows of a list has a time in it. The clock is read when a text has come, so both passes
read it equally often.

Main statements: `Pass.replay?_isolated` and `SyncState.plan?_disabling`.
-/

namespace FilterSync

open Pass (ceiling)

/-! ## The clock -/

/-- What the clock said each time that a text had come. -/
def Fetch.readings (fs : List Fetch) : List Timestamp :=
  (fs.filter (·.download.isOk)).map (·.time)

/-- What was read is what the clock says, in order. -/
def Reads (clock : Nat → Timestamp) (readings : List Timestamp) : Prop :=
  ∀ (k : Nat) (t : Timestamp), readings[k]? = some t → t = clock k

theorem Reads.tail {clock : Nat → Timestamp} {t : Timestamp} {readings : List Timestamp}
    (h : Reads clock (t :: readings)) : Reads (fun k => clock (k + 1)) readings :=
  fun k t' ht' => h (k + 1) t' ht'

theorem Reads.of_append {clock : Nat → Timestamp} {readings more : List Timestamp}
    (h : Reads clock (readings ++ more)) : Reads clock readings := by
  intro k t ht
  obtain ⟨hk, -⟩ := List.getElem?_eq_some_iff.1 ht
  exact h k t (by rw [List.getElem?_append_left hk, ht])

theorem Reads.last {clock : Nat → Timestamp} {readings : List Timestamp} {t : Timestamp}
    (h : Reads clock (readings ++ [t])) : t = clock readings.length :=
  h readings.length t List.getElem?_concat_length

theorem Fetch.readings_cons (f : Fetch) (fs : List Fetch) :
    readings (f :: fs) = (if f.download.isOk then [f.time] else []) ++ readings fs := by
  unfold readings
  rw [List.filter_cons]
  split <;> rfl

/-- The clock behind a download. -/
def Fetch.clockBehind (download : Download) (clock : Nat → Timestamp) : Nat → Timestamp :=
  if download.isOk then fun k => clock (k + 1) else clock

theorem Reads.behind {clock : Nat → Timestamp} {f : Fetch} {fs : List Fetch}
    (h : Reads clock (Fetch.readings (f :: fs))) :
    Reads (Fetch.clockBehind f.download clock) (Fetch.readings fs) := by
  rw [Fetch.readings_cons] at h
  unfold Fetch.clockBehind
  split
  · next hok =>
    rw [if_pos hok] at h
    exact h.tail
  · next hnot =>
    rw [if_neg hnot] at h
    exact h

theorem Reads.first {clock : Nat → Timestamp} {f : Fetch} {fs : List Fetch}
    (h : Reads clock (Fetch.readings (f :: fs))) (hok : f.download.isOk = true) :
    f.time = clock 0 := by
  rw [Fetch.readings_cons, if_pos hok] at h
  exact h 0 f.time rfl

/-! ## Answers by key -/

/-- The downloads of these lists give the answers for their keys. -/
def Fetch.GaveFor (answers : String → Download) (ls : List ListSource) (fs : List Fetch) : Prop :=
  ∀ (k : Nat) (l : ListSource) (f : Fetch), ls[k]? = some l → fs[k]? = some f →
    f.download = answers l.key

theorem Fetch.GaveFor.tail {answers : String → Download} {l : ListSource} {ls : List ListSource}
    {f : Fetch} {fs : List Fetch} (h : GaveFor answers (l :: ls) (f :: fs)) :
    GaveFor answers ls fs :=
  fun k l' f' hl' hf' => h (k + 1) l' f' hl' hf'

namespace Pass

variable {limits : Config.Rules} {p p' q q' : Pass} {failing : List String}

/-- Two passes that have made the same rules, and of which one does not know of the lists that
fail. -/
structure Isolated (failing : List String) (p p' : Pass) : Prop where
  sameRules : SameRules p p'
  taken : p'.taken = p.taken.filter (·.list.key ∉ failing)

theorem Isolated.takeList (h : Isolated failing p p') {l : ListSource} (hl : l.key ∉ failing)
    (download : Download) (now : Timestamp) :
    Isolated failing (p.takeList limits l download now) (p'.takeList limits l download now) := by
  refine ⟨h.sameRules.takeList l l download now, ?_⟩
  obtain ⟨hcursor, hrules⟩ := h.sameRules
  cases download with
  | ok text =>
    simp only [Pass.takeList, hcursor, hrules, h.taken, List.filter_append]
    simp [ListSource.recordSuccess, hl]
  | error e =>
    simp only [Pass.takeList, h.taken, List.filter_append]
    simp [ListSource.recordFailure, hl]

/-- The time counts only where a text has come. -/
theorem takeList_time (p : Pass) (l : ListSource) {download : Download} {now now' : Timestamp}
    (h : download.isOk = true → now = now') :
    p.takeList limits l download now = p.takeList limits l download now' := by
  cases download with
  | ok text => rw [h rfl]
  | error e => rfl

theorem Isolated.takeList_failing (h : Isolated failing p p') {l : ListSource}
    (hl : l.key ∈ failing) (e : DownloadError) (now : Timestamp) :
    Isolated failing (p.takeList limits l (.error e) now) p' := by
  refine ⟨h.sameRules, ?_⟩
  rw [h.taken]
  simp [Pass.takeList, ListSource.recordFailure, hl]

/-- A list that does not fail is taken by both passes, which then both stop or both go on. -/
theorem Isolated.takeBoth {answers : String → Download} {clock : Nat → Timestamp}
    {l : ListSource} {ls : List ListSource} {f : Fetch} {fs fs' : List Fetch}
    (h : Isolated failing p p') (hl : l.key ∉ failing) (hdownload : f.download = answers l.key)
    (hreplay' : Replays limits p' (l :: ls) fs' q')
    (hgave' : Fetch.GaveFor answers (l :: ls) fs')
    (hclock : Reads clock (Fetch.readings (f :: fs)))
    (hclock' : Reads clock (Fetch.readings fs')) :
    ∃ f' rest, fs' = f' :: rest ∧ f'.download = f.download ∧
      Isolated failing (p.takeList limits l f.download f.time)
        (p'.takeList limits l f'.download f'.time) ∧
      ((p.takeList limits l f.download f.time).isFull limits = true ∧ rest = [] ∧
          q' = p'.takeList limits l f'.download f'.time ∨
        (p.takeList limits l f.download f.time).isFull limits = false ∧
          Replays limits (p'.takeList limits l f'.download f'.time) ls rest q') := by
  have hboth : ∀ f' rest, fs' = f' :: rest → f'.download = f.download ∧
      Isolated failing (p.takeList limits l f.download f.time)
        (p'.takeList limits l f'.download f'.time) := by
    rintro f' rest rfl
    have hsame : f'.download = f.download := (hgave' 0 l f' rfl rfl).trans hdownload.symm
    have htime : f.download.isOk = true → f'.time = f.time := by
      intro hok
      rw [hclock.first hok, hclock'.first (hsame ▸ hok)]
    refine ⟨hsame, ?_⟩
    rw [hsame, takeList_time p' l htime]
    exact h.takeList hl f.download f.time
  cases hreplay' with
  | @last _ _ f' _ url full =>
    obtain ⟨hsame, hisolated⟩ := hboth f' [] rfl
    rw [← hisolated.sameRules.isFull] at full
    exact ⟨f', [], rfl, hsame, hisolated, Or.inl ⟨full, rfl, rfl⟩⟩
  | @more _ _ _ f' _ rest url room hrest =>
    obtain ⟨hsame, hisolated⟩ := hboth f' rest rfl
    rw [← hisolated.sameRules.isFull] at room
    exact ⟨f', rest, rfl, hsame, hisolated, Or.inr ⟨room, hrest⟩⟩

theorem replay?_isolated {answers : String → Download} {clock : Nat → Timestamp}
    {ls : List ListSource} {fs fs' : List Fetch} (h : Isolated failing p p')
    (hroom : p.isFull limits = false) (hfails : ∀ key ∈ failing, ∃ e, answers key = .error e)
    (hreplay : p.replay? limits ls fs = some q)
    (hreplay' : p'.replay? limits (ls.filter (·.key ∉ failing)) fs' = some q')
    (hgave : Fetch.GaveFor answers ls fs)
    (hgave' : Fetch.GaveFor answers (ls.filter (·.key ∉ failing)) fs')
    (hclock : Reads clock (Fetch.readings fs)) (hclock' : Reads clock (Fetch.readings fs')) :
    Isolated failing q q' ∧ (Fetch.readings fs).length = (Fetch.readings fs').length := by
  replace hreplay := replays_of_eq hreplay
  replace hreplay' := replays_of_eq hreplay'
  induction hreplay generalizing p' fs' clock with
  | done p =>
    cases hreplay'
    exact ⟨h, rfl⟩
  | @last p l f ls url full =>
    have hdownload : f.download = answers l.key := hgave 0 l f rfl rfl
    have hl : l.key ∉ failing := by
      intro hl
      obtain ⟨e, he⟩ := hfails l.key hl
      rw [hdownload, he] at full
      exact absurd (hroom.symm.trans full) (by simp)
    rw [List.filter_cons_of_pos (by simpa using hl)] at hreplay' hgave'
    obtain ⟨f', rest, rfl, hsame, hisolated, ⟨-, rfl, rfl⟩ | ⟨room, -⟩⟩ :=
      h.takeBoth hl hdownload hreplay' hgave' hclock hclock'
    · refine ⟨hisolated, ?_⟩
      rw [Fetch.readings_cons, Fetch.readings_cons, hsame]
      split <;> rfl
    · rw [full] at room
      cases room
  | @more p q l f ls fs url room rest ih =>
    have hdownload : f.download = answers l.key := hgave 0 l f rfl rfl
    by_cases hl : l.key ∈ failing
    · -- only one of the passes takes this list, and makes no rules from it
      obtain ⟨e, he⟩ := hfails l.key hl
      rw [List.filter_cons_of_neg (by simpa using hl)] at hreplay' hgave'
      have hnone : Fetch.readings (f :: fs) = Fetch.readings fs := by
        rw [Fetch.readings_cons, hdownload, he]
        rfl
      rw [hnone] at hclock ⊢
      rw [hdownload, he] at room ih
      exact ih (h.takeList_failing hl e f.time) room hgave.tail hgave' hclock hclock' hreplay'
    · rw [List.filter_cons_of_pos (by simpa using hl)] at hreplay' hgave'
      obtain ⟨f', fs', rfl, hsame, hisolated, ⟨full, -, -⟩ | ⟨-, hrest⟩⟩ :=
        h.takeBoth hl hdownload hreplay' hgave' hclock hclock'
      · rw [room] at full
        cases full
      · have hbehind := hclock'.behind
        rw [hsame] at hbehind
        obtain ⟨hq, hcount⟩ :=
          ih hisolated room hgave.tail hgave'.tail hclock.behind hbehind hrest
        refine ⟨hq, ?_⟩
        rw [Fetch.readings_cons, Fetch.readings_cons, hsame, List.length_append,
          List.length_append, hcount]
        split <;> rfl

end Pass

namespace SyncState

variable {s : SyncState} {limits : Config.Rules} {failing : List String}
  {answers : String → Download} {fetched fetched' : List Fetch} {c c' : Commit}

/-- The state with lists disabled. -/
def disabling (failing : List String) (s : SyncState) : SyncState :=
  { s with lists := s.lists.map fun l =>
      if l.key ∈ failing then { l with enabled := false } else l }

/-- The answers for the enabled lists, in order. -/
def answersFor (s : SyncState) (answers : String → Download) (k : Nat) : Download :=
  ((s.lists.filter (·.enabled))[k]?.map fun l => answers l.key).getD (.ok "")

theorem keys_disabling (failing : List String) (s : SyncState) :
    (s.disabling failing).keys = s.keys := by
  show (s.lists.map _).map _ = s.lists.map _
  rw [List.map_map]
  apply List.map_congr_left
  intro l _
  rw [Function.comp_apply]
  split <;> rfl

theorem enabled_disabling (failing : List String) (s : SyncState) :
    (s.disabling failing).lists.filter (·.enabled) =
      (s.lists.filter (·.enabled)).filter (·.key ∉ failing) := by
  show (s.lists.map _).filter _ = _
  rw [List.filter_filter]
  induction s.lists with
  | nil => rfl
  | cons l ls ih =>
    rw [List.map_cons, List.filter_cons, List.filter_cons, ih]
    by_cases hl : l.key ∈ failing
    · simp [hl]
    · simp [hl]

theorem gaveFor_of_gave (h : Fetch.Gave (s.answersFor answers) fetched) :
    Fetch.GaveFor answers (s.lists.filter (·.enabled)) fetched := by
  intro k l f hl hf
  rw [h k f hf, answersFor, hl]
  rfl

/-- The filters that are compiled are told by the pass that has taken its lists. -/
theorem ownRules_of_replay? {q : Pass} {answers : Nat → Download} (room : 0 < ceiling limits)
    (hgave : Fetch.Gave answers fetched)
    (hreplay : (Pass.start limits).replay? limits (s.lists.filter (·.enabled)) fetched = some q) :
    s.ownRules limits answers =
      compileFilters (ceiling limits) q.rules.length q.cursor
        (s.customFilters.filter (·.enabled)) := by
  obtain ⟨hrules, hcursor, -⟩ := Pass.replay?_upTo hreplay hgave room
  rw [hrules, hcursor]
  rfl

/-- A pass with lists that fail does what a pass does whose state has them disabled, and reports
besides that they failed. -/
theorem plan?_disabling {clock : Nat → Timestamp} (on : s.protectionEnabled = true)
    (room : 0 < ceiling limits) (hfails : ∀ key ∈ failing, ∃ e, answers key = .error e)
    (hplan : s.plan? limits fetched = some c)
    (hplan' : (s.disabling failing).plan? limits fetched' = some c')
    (hgave : Fetch.Gave (s.answersFor answers) fetched)
    (hgave' : Fetch.Gave ((s.disabling failing).answersFor answers) fetched')
    (hclock : Reads clock (Fetch.readings fetched))
    (hclock' : Reads clock (Fetch.readings fetched')) :
    c'.rules = c.rules ∧ c'.lists = c.lists.filter (·.key ∉ failing) ∧
      (Fetch.readings fetched).length = (Fetch.readings fetched').length ∧
      (s.disabling failing).ownRules limits ((s.disabling failing).answersFor answers) =
        s.ownRules limits (s.answersFor answers) := by
  obtain ⟨q, hreplay, rfl⟩ := (plan?_eq_some_iff on).1 hplan
  have on' : (s.disabling failing).protectionEnabled = true := on
  obtain ⟨q', hreplay', rfl⟩ := (plan?_eq_some_iff on').1 hplan'
  have hfor := gaveFor_of_gave hgave
  have hfor' := gaveFor_of_gave hgave'
  have hown := ownRules_of_replay? room hgave hreplay
  have hown' := ownRules_of_replay? room hgave' hreplay'
  rw [enabled_disabling] at hreplay' hfor'
  have hstart : Pass.Isolated failing (Pass.start limits) (Pass.start limits) :=
    ⟨⟨rfl, rfl⟩, rfl⟩
  have hroom : (Pass.start limits).isFull limits = false := decide_eq_false (Nat.not_le.2 room)
  obtain ⟨⟨hsame, htaken⟩, hcount⟩ :=
    Pass.replay?_isolated hstart hroom hfails hreplay hreplay' hfor hfor' hclock hclock'
  have hrules : (q'.commitOf limits s.customFilters).rules =
      (q.commitOf limits s.customFilters).rules := (hsame.commitOf s.customFilters).symm
  refine ⟨hrules, ?_, hcount, ?_⟩
  · show (q'.commitOf limits s.customFilters).lists = _
    rw [Pass.lists_commitOf, Pass.lists_commitOf, hrules, htaken, List.filter_map]
    congr 1
    apply List.filter_congr
    intro t _
    rw [Function.comp_apply, Pass.key_settle]
  · rw [hown', hown, hsame.1, hsame.2]
    rfl

/-! ## What is stored -/

/-- What is stored of a list, where it may have failed and where it is disabled then: only then
there is a difference, and only in these three fields. -/
def Isolates (failing : List String) (l l' : ListSource) : Prop :=
  if l.key ∈ failing then
    l' = { l with enabled := l'.enabled, ruleCount := l'.ruleCount, lastError := l'.lastError }
  else l' = l

theorem download_of_mem_parts {part : Part}
    (h : part ∈ s.parts limits (s.answersFor answers)) :
    part.download = answers part.list.key := by
  obtain ⟨k, hk, hdownload⟩ := Part.exists_answer h
  rw [hdownload, answersFor, hk]
  rfl

theorem learn_filter {lists : List ListSource} {l : ListSource} (h : l.key ∉ failing) :
    learn (lists.filter (·.key ∉ failing)) l = learn lists l := by
  have hfind : (lists.filter (·.key ∉ failing)).find? (·.key = l.key) =
      lists.find? (·.key = l.key) := by
    rw [List.find?_filter]
    congr 1
    funext m
    by_cases hm : m.key = l.key
    · simp [hm, h]
    · simp [hm]
  unfold learn
  rw [hfind]

/-- A list that failed keeps the time of its last successful download. -/
theorem lastUpdated_learn {live : List Rule} {lists : List ListSource} {l : ListSource}
    (distinct : s.keys.Nodup) (hl : l ∈ s.lists) (hfails : ∃ e, answers l.key = .error e)
    (h : List.Forall₂ (Part.Reported live) (s.touched limits (s.answersFor answers)) lists) :
    (learn lists l).lastUpdated = l.lastUpdated := by
  unfold learn
  split
  · next m hm =>
    obtain ⟨part, hpart, hreported⟩ := exists_part h (List.mem_of_find?_eq_some hm)
    have hkey : part.list.key = l.key := by
      have hfound : m.key = l.key := by simpa using List.find?_some hm
      rw [← hfound, ← hreported.same]
      rfl
    have hmem : part.list ∈ s.lists :=
      touched_sublist_lists.subset (List.mem_map_of_mem hpart)
    obtain rfl : part.list = l := List.inj_on_of_nodup_map distinct hmem hl hkey
    obtain ⟨e, he⟩ := hfails
    have hdownload := download_of_mem_parts ((Part.upTo_prefix _ _).subset hpart)
    exact (hreported.failed e (hdownload.trans he)).2.1
  · rfl

/-- Of the lists that do not fail the same is stored as if the others were disabled. -/
theorem isolates_afterPass {live : List Rule} {lists : List ListSource} {n n' : Nat}
    {time : Timestamp} (distinct : s.keys.Nodup)
    (hfails : ∀ key ∈ failing, ∃ e, answers key = .error e)
    (h : List.Forall₂ (Part.Reported live) (s.touched limits (s.answersFor answers)) lists) :
    let state := s.afterPass ⟨lists, n, time⟩
    let state' := (s.disabling failing).afterPass ⟨lists.filter (·.key ∉ failing), n', time⟩
    state' = { state with lists := state'.lists } ∧
      List.Forall₂ (Isolates failing) state.lists state'.lists := by
  intro state state'
  refine ⟨rfl, ?_⟩
  have hdistinct := nodup_keys_reported distinct h
  have hlists : state.lists = s.lists.map (learn lists) := mergeMetadata_eq_map distinct hdistinct
  have hlists' : state'.lists =
      (s.disabling failing).lists.map (learn (lists.filter (·.key ∉ failing))) :=
    mergeMetadata_eq_map ((keys_disabling failing s).symm ▸ distinct)
      (hdistinct.sublist (List.filter_sublist.map _))
  rw [hlists, hlists', disabling, List.map_map, List.forall₂_map_left_iff,
    List.forall₂_map_right_iff, List.forall₂_same]
  intro l hl
  rw [Function.comp_apply, Isolates, key_learn]
  by_cases hkey : l.key ∈ failing
  · rw [if_pos hkey, if_pos hkey, learn_of_not_mem]
    · have hupdated := lastUpdated_learn distinct hl (hfails l.key hkey) h
      unfold learn at hupdated ⊢
      cases hfind : lists.find? (·.key = l.key) with
      | none => rfl
      | some m =>
        rw [hfind] at hupdated
        have htime : m.lastUpdated = l.lastUpdated := hupdated
        simp [ListSource.withMetadata, htime]
    · intro hmem
      obtain ⟨m, hm, heq⟩ := List.mem_map.1 hmem
      have hnot : m.key ∉ failing := of_decide_eq_true (List.mem_filter.1 hm).2
      have hsame : m.key = l.key := heq
      exact hnot (hsame ▸ hkey)
  · rw [if_neg hkey, if_neg hkey, learn_filter hkey]

end SyncState

end FilterSync
