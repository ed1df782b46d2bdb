import FilterSync.Proofs.Service.Succession
import FilterSync.Proofs.State.Metadata

/-!
# Coherence of what is known of lists

The fields of what is known of a list are written by different steps: a download that ended well
writes all of them, one that failed writes two, the cut of a pass corrects the count, and the end
of a pass takes all of it over into a state that others have changed meanwhile. A pass may also
end without leaving anything. That the fields fit each other is carried through all of this, from
the snapshot of a pass to the state that its findings are merged into.

Main statements: `Deployment.Known.step`, `Deployment.Timely.step` and
`Deployment.coherent_metadata`.
-/

namespace FilterSync

/-! ## Metadata on its way through a pass -/

/-- A property that metadata has at first and after each download that ends at some time. -/
structure Metadata.Admitted (limits : Config.Rules) (now : Timestamp) (R : Metadata → Prop) :
    Prop where
  fresh : R {}
  downloaded : ∀ count ≤ Pass.ceiling limits, R ⟨UInt64.ofNat count, some now, none⟩
  failed : ∀ (m : Metadata) (error : String), R m → R ⟨0, m.lastUpdated, some error⟩

namespace Pass

variable {limits : Config.Rules} {R : Metadata → Prop} {p : Pass}

/-- Wherever the rules will be cut, what is known then of each taken list has a property. -/
def Carries (limits : Config.Rules) (R : Metadata → Prop) (p : Pass) : Prop :=
  ∀ t ∈ p.taken, ∀ kept ≤ ceiling limits, R (t.settle kept).metadata

theorem Carries.takeList {now : Timestamp} {l : ListSource} (h : p.Carries limits R)
    (hR : Metadata.Admitted limits now R) (hl : R l.metadata) (download : Download) :
    (p.takeList limits l download now).Carries limits R := by
  intro t ht kept hkept
  cases download with
  | ok text =>
    rcases List.mem_append.1 ht with ht | ht
    · exact h t ht kept hkept
    · rw [List.mem_singleton.1 ht]
      refine hR.downloaded _ (Nat.le_trans ?_ hkept)
      exact Nat.le_trans (Nat.sub_le _ _) (Nat.min_le_right _ _)
  | error e =>
    rcases List.mem_append.1 ht with ht | ht
    · exact h t ht kept hkept
    · rw [List.mem_singleton.1 ht]
      exact hR.failed l.metadata e.message hl

theorem Carries.commitOf (h : p.Carries limits R) (filters : List CustomFilter) :
    ∀ l ∈ (p.commitOf limits filters).lists, R l.metadata := by
  rw [lists_commitOf]
  intro l hl
  obtain ⟨t, ht, rfl⟩ := List.mem_map.1 hl
  exact h t ht _ (List.length_take_le _ _)

end Pass

namespace Stage

variable {config : Config} {who : Nat} {op : Operation} {stage stage' : Stage} {s s' : Shared}
  {limits : Config.Rules} {R : Metadata → Prop}

/-- What an operation knows of lists there has a property. -/
def Carries (limits : Config.Rules) (R : Metadata → Prop) : Stage → Prop
  | taking p left _ => p.Carries limits R ∧ ∀ l ∈ left, R l.metadata
  | downloading p l left _ => p.Carries limits R ∧ ∀ l' ∈ l :: left, R l'.metadata
  | listing c | replacing _ c => ∀ l ∈ c.lists, R l.metadata
  | atState (.merge o) | inState (.merge o) => ∀ l ∈ o.lists, R l.metadata
  | _ => True

theorem carries_start (op : Operation) : op.start.Carries limits R := by
  cases op <;> trivial

theorem Carries.mono {R' : Metadata → Prop} (h : stage.Carries limits R)
    (himp : ∀ m, R m → R' m) : stage.Carries limits R' := by
  cases stage with
  | taking p left filters =>
    exact ⟨fun t ht kept hkept => himp _ (h.1 t ht kept hkept), fun l hl => himp _ (h.2 l hl)⟩
  | downloading p l left filters =>
    exact ⟨fun t ht kept hkept => himp _ (h.1 t ht kept hkept), fun l hl => himp _ (h.2 l hl)⟩
  | listing c | replacing live c => exact fun l hl => himp _ (h l hl)
  | atState v | inState v =>
    cases v with
    | merge o => exact fun l hl => himp _ (h l hl)
    | change | read | snapshot => trivial
  | atPass | ended => trivial

/-- What an operation knows comes from its snapshot and from downloads. -/
theorem Moves.carries (move : Moves config who op stage s stage' s')
    (hR : Metadata.Admitted config.rules s'.now R)
    (hstored : s.states.Has (·.AllKnown R)) (h : stage.Carries config.rules R) :
    stage'.Carries config.rules R := by
  cases move with
  | enterState v => cases v <;> exact h
  | enterPass | changeFailed | readFailed | read | snapshotFailed => trivial
  | unlisted | unlistable | unreplaced | refused | mergeFailed | merged => trivial
  | changed => cases op <;> trivial
  | protect hread =>
    obtain ⟨found, hfound, rfl, -⟩ := (Shared.reading_of_eq hread).load_of_ok
    have hsnapshot : (SyncState.completed config.lists found).AllKnown R := by
      refine .completed hR.fresh ?_
      rintro state rfl
      exact hstored state hfound
    exact ⟨nofun, fun l hl => hsnapshot l (List.mem_filter.1 hl).1⟩
  | unprotect => exact nofun
  | taken p filters => exact h.1.commitOf filters
  | requested | listed | nothing | replaced => exact h
  | received left filters =>
    exact ⟨h.1.takeList hR (h.2 _ List.mem_cons_self) _,
      fun l hl => h.2 l (List.mem_cons_of_mem _ hl)⟩
  | @filled s p l left filters =>
    have htaken := h.1.takeList hR (h.2 l List.mem_cons_self) (s.fetch l.url).download
    exact Pass.Carries.commitOf htaken filters

theorem Stores.allKnown {catalog : List CatalogEntry} {states states' : StateStore}
    (h : Stores catalog op stage states states') (fresh : R {})
    (hstored : states.Has (·.AllKnown R)) (hcarried : stage.Carries limits R) :
    states'.Has (·.AllKnown R) := by
  refine h.has ?_ ?_ ?_ hstored
  · intro found hfound
    exact .completed fresh hfound
  · intro state hstate
    exact hstate.change op
  · rintro o state rfl hstate
    exact hstate.afterPass hcarried

end Stage

namespace Deployment

variable {d d' : Deployment} {R : Metadata → Prop}

/-- What is known of lists has a property, in the persisted state and on its way to it. -/
structure Known (R : Metadata → Prop) (d : Deployment) : Prop where
  stored : d.states.Has (·.AllKnown R)
  carried : ∀ (i : Nat) (a : Activity), d.system.activities[i]? = some a →
    a.stage.Carries d.config.rules R

theorem Known.mono {R' : Metadata → Prop} (h : d.Known R) (himp : ∀ m, R m → R' m) :
    d.Known R' := by
  refine ⟨?_, ?_⟩
  · intro state hstate l hl
    exact himp _ (h.stored state hstate l hl)
  · intro i a hi
    exact (h.carried i a hi).mono himp

theorem Known.step (h : d.Known R) (hhappens : Happens d d')
    (hR : Metadata.Admitted d'.config.rules d'.now R) : d'.Known R := by
  cases hhappens with
  | restarted config rules =>
    refine ⟨h.stored, ?_⟩
    intro i a hi
    cases hi
  | turned acts =>
    cases acts with
    | begun op =>
      refine ⟨h.stored, ?_⟩
      intro i a hi
      rcases System.getElem?_begun hi with hi | rfl
      · exact h.carried i a hi
      · exact Stage.carries_start op
    | surrounded w => exact ⟨h.stored, h.carried⟩
    | advanced place move =>
      refine ⟨move.stores.allKnown hR.fresh h.stored (h.carried _ _ place), ?_⟩
      intro i a hi
      rw [System.getElem?_moved place] at hi
      split at hi
      · cases hi
        exact move.carries hR h.stored (h.carried _ _ place)
      · exact h.carried i a hi

/-- Of a first state nothing is known. -/
theorem known_first (config : Config) (rules : RuleStore) {states : StateStore}
    (empty : states.load = .ok none) (R : Metadata → Prop) :
    (first config rules states).Known R := by
  refine ⟨?_, ?_⟩
  · intro state hstate
    cases empty.symm.trans hstate
  · intro i a hi
    cases hi

end Deployment

/-! ## How the fields fit each other -/

/-- A failed list counts no rules, one that counts rules was downloaded and has not failed, and
no list counts more rules than there can be. -/
structure Metadata.Coherent (limits : Config.Rules) (m : Metadata) : Prop where
  failed : m.lastError.isSome = true → m.ruleCount = 0
  downloaded : 0 < m.ruleCount → m.lastUpdated.isSome = true ∧ m.lastError = none
  bounded : m.ruleCount.toNat ≤ limits.maxRules.toNat

theorem Metadata.admitted_coherent (limits : Config.Rules) (now : Timestamp) :
    Admitted limits now (Coherent limits) where
  fresh := ⟨nofun, nofun, Nat.zero_le _⟩
  downloaded count hcount := by
    refine ⟨nofun, fun _ => ⟨rfl, rfl⟩, ?_⟩
    rw [UInt64.toNat_ofNat']
    exact Nat.le_trans (Nat.mod_le _ _) hcount
  failed m error _ := ⟨fun _ => rfl, nofun, Nat.zero_le _⟩

/-- As long as no pass has finished, nothing is known of any list. -/
def SyncState.Synced (s : SyncState) : Prop :=
  s.lastSync = none → s.AllKnown fun m => m.lastUpdated = none ∧ m.lastError = none

theorem Stage.Stores.synced {catalog : List CatalogEntry} {op : Operation} {stage : Stage}
    {states states' : StateStore} (h : Stores catalog op stage states states')
    (hstored : states.Has SyncState.Synced) : states'.Has SyncState.Synced := by
  refine h.has ?_ ?_ ?_ hstored
  · intro found hfound hnone
    refine .completed ⟨rfl, rfl⟩ ?_
    rintro state rfl
    exact hfound state rfl hnone
  · intro state hstate hnone
    rw [SyncState.lastSync_change] at hnone
    exact (hstate hnone).change op
  · rintro o state rfl hstate hnone
    cases hnone

/-! ## Times -/

/-- The first time, if there is one, is no later than the second. -/
def NoLater (a b : Option Timestamp) : Prop := ∀ t, a = some t → ∃ t', b = some t' ∧ t ≤ t'

theorem NoLater.trans {a b c : Option Timestamp} (h : NoLater a b) (h' : NoLater b c) :
    NoLater a c := by
  intro t ht
  obtain ⟨t₁, ht₁, hle⟩ := h t ht
  obtain ⟨t₂, ht₂, hle'⟩ := h' t₁ ht₁
  exact ⟨t₂, ht₂, UInt64.le_trans hle hle'⟩

theorem noLater_none (b : Option Timestamp) : NoLater none b := nofun

theorem noLater_some {t t' : Timestamp} (h : t ≤ t') : NoLater (some t) (some t') := by
  intro t₁ ht₁
  cases ht₁
  exact ⟨t', rfl, h⟩

/-- A list was downloaded at a time at the latest. -/
def Metadata.By (time : Option Timestamp) (m : Metadata) : Prop := NoLater m.lastUpdated time

theorem Metadata.admitted_by (limits : Config.Rules) (now : Timestamp) :
    Admitted limits now (By (some now)) where
  fresh := noLater_none _
  downloaded _ _ := noLater_some (UInt64.le_refl now)
  failed _ _ h := h

/-- What a pass is about to merge. -/
def Stage.outcome? : Stage → Option Outcome
  | atState (.merge o) | inState (.merge o) => some o
  | _ => none

theorem Stage.holdsPass_of_outcome? {stage : Stage} {o : Outcome} (h : stage.outcome? = some o) :
    stage.holdsPass = true := by
  cases stage with
  | atState v | inState v => cases v <;> first | rfl | cases h
  | atPass | taking | downloading | listing | replacing | ended => cases h

theorem Stage.Carries.of_outcome? {limits : Config.Rules} {R : Metadata → Prop} {stage : Stage}
    {o : Outcome} (h : stage.Carries limits R) (ho : stage.outcome? = some o) :
    ∀ l ∈ o.lists, R l.metadata := by
  cases stage with
  | atState v | inState v =>
    cases v with
    | merge o' =>
      cases ho
      exact h
    | change | read | snapshot => cases ho
  | atPass | taking | downloading | listing | replacing | ended => cases ho

/-- What is about to be merged was so already, or is from now. -/
theorem Stage.Moves.outcome {config : Config} {who : Nat} {op : Operation}
    {stage stage' : Stage} {s s' : Shared} {o : Outcome}
    (move : Moves config who op stage s stage' s') (ho : stage'.outcome? = some o) :
    stage.outcome? = some o ∨ o.syncedAt = s'.now := by
  cases move with
  | enterState v => cases v <;> exact Or.inl ho
  | nothing | replaced =>
    cases ho
    exact Or.inr rfl
  | changed => cases op <;> cases ho
  | enterPass | changeFailed | readFailed | read | snapshotFailed | protect | unprotect => cases ho
  | taken | requested | received | filled | unlisted | unlistable | listed => cases ho
  | unreplaced | refused | mergeFailed | merged => cases ho

namespace Stage

variable {catalog : List CatalogEntry} {op : Operation} {stage : Stage}
  {states states' : StateStore}

/-- Only the end of a pass moves the time of the last pass. -/
theorem Stores.lastSync_by {time : Option Timestamp} (h : Stores catalog op stage states states')
    (merges : ∀ o, stage = .inState (.merge o) → NoLater (some o.syncedAt) time)
    (hstored : states.Has fun s => NoLater s.lastSync time) :
    states'.Has fun s => NoLater s.lastSync time := by
  refine h.has ?_ ?_ ?_ hstored
  · intro found hfound
    rw [SyncState.lastSync_completed]
    cases found with
    | none => exact noLater_none _
    | some state => exact hfound state rfl
  · intro state hstate
    rwa [SyncState.lastSync_change]
  · intro o state hmerge _
    exact merges o hmerge

/-- If what is merged was known by then, and no later pass has finished before, then all lists
were downloaded by the time of the last pass. -/
theorem Stores.by_lastSync (h : Stores catalog op stage states states')
    (merges : ∀ o, stage = .inState (.merge o) →
      (∀ l ∈ o.lists, l.metadata.By (some o.syncedAt)) ∧
        states.Has fun s => NoLater s.lastSync (some o.syncedAt))
    (hstored : states.Has fun s => s.AllKnown (Metadata.By s.lastSync)) :
    states'.Has fun s => s.AllKnown (Metadata.By s.lastSync) := by
  -- what is merged into has the same time of the last pass as what is stored
  have hboth : states'.Has fun s => s.AllKnown (Metadata.By s.lastSync) ∧
      ∀ o, stage = .inState (.merge o) → NoLater s.lastSync (some o.syncedAt) := by
    refine h.has ?_ ?_ ?_ ?_
    · intro found hfound
      rw [SyncState.lastSync_completed]
      cases found with
      | none => exact ⟨.completed (noLater_none _) nofun, fun _ _ => noLater_none _⟩
      | some state =>
        refine ⟨.completed (noLater_none _) ?_, (hfound state rfl).2⟩
        intro state' heq
        cases heq
        exact (hfound state rfl).1
    · intro state hstate
      rw [SyncState.lastSync_change]
      exact ⟨hstate.1.change op, hstate.2⟩
    · intro o state hmerge hstate
      refine ⟨.afterPass ?_ (merges o hmerge).1, ?_⟩
      · intro l hl
        exact (hstate.1 l hl).trans (hstate.2 o hmerge)
      · intro o' hmerge'
        cases hmerge.symm.trans hmerge'
        exact noLater_some (UInt64.le_refl _)
    · intro state hstate
      exact ⟨hstored state hstate, fun o hmerge => (merges o hmerge).2 state hstate⟩
  intro state hstate
  exact (hboth state hstate).1

end Stage

namespace Deployment

variable {d d' : Deployment}

/-- All times are in order: no list was downloaded after the last pass, nor did that end after
now, and what a pass is about to merge is no older than what was merged before. -/
structure Timely (d : Deployment) : Prop where
  locked : System.Locked d.system
  known : d.Known (Metadata.By (some d.now))
  lastSync : d.states.Has fun s => NoLater s.lastSync (some d.now)
  lists : d.states.Has fun s => s.AllKnown (Metadata.By s.lastSync)
  merging : ∀ (i : Nat) (a : Activity) (o : Outcome), d.system.activities[i]? = some a →
    a.stage.outcome? = some o → o.syncedAt ≤ d.now ∧
      (∀ l ∈ o.lists, l.metadata.By (some o.syncedAt)) ∧
      d.states.Has fun s => NoLater s.lastSync (some o.syncedAt)

theorem Timely.step (h : d.Timely) (hhappens : Happens d d') (forward : d.now ≤ d'.now) :
    d'.Timely := by
  have hnow : NoLater (some d.now) (some d'.now) := noLater_some forward
  have hlocked : System.Locked d'.system := locked_step h.locked hhappens
  have hknown : d'.Known (Metadata.By (some d'.now)) := by
    refine (h.known.mono ?_).step hhappens (Metadata.admitted_by _ _)
    intro m hm
    exact hm.trans hnow
  cases hhappens with
  | restarted config rules =>
    refine ⟨hlocked, hknown, ?_, h.lists, ?_⟩
    · intro state hstate
      exact (h.lastSync state hstate).trans hnow
    · intro i a o hi
      cases hi
  | turned acts =>
    cases acts with
    | begun op =>
      refine ⟨hlocked, hknown, h.lastSync, h.lists, ?_⟩
      intro i a o hi ho
      rcases System.getElem?_begun hi with hi | rfl
      · exact h.merging i a o hi ho
      · cases op <;> cases ho
    | surrounded w =>
      refine ⟨hlocked, hknown, ?_, h.lists, ?_⟩
      · intro state hstate
        exact (h.lastSync state hstate).trans hnow
      · intro i a o hi ho
        obtain ⟨hle, hrest⟩ := h.merging i a o hi ho
        exact ⟨UInt64.le_trans hle forward, hrest⟩
    | @advanced who op stage stage' s' place move =>
      have hlastSync : s'.states.Has fun s => NoLater s.lastSync (some s'.now) := by
        refine move.stores.lastSync_by ?_ ?_
        · rintro o rfl
          exact (noLater_some (h.merging who _ o place rfl).1).trans hnow
        · intro state hstate
          exact (h.lastSync state hstate).trans hnow
      refine ⟨hlocked, hknown, hlastSync, ?_, ?_⟩
      · refine move.stores.by_lastSync ?_ h.lists
        rintro o rfl
        exact (h.merging who _ o place rfl).2
      · intro i a o hi ho
        have hstill := hi
        rw [System.getElem?_moved place] at hi
        split at hi
        · next hwho =>
          cases hi
          rcases move.outcome ho with hsame | hfresh
          · obtain ⟨hle, hlists, hstored⟩ := h.merging who _ o place hsame
            refine ⟨UInt64.le_trans hle forward, hlists, move.stores.lastSync_by ?_ hstored⟩
            rintro o' rfl
            cases hsame
            exact noLater_some (UInt64.le_refl _)
          · rw [hfresh]
            exact ⟨UInt64.le_refl _, (hknown.carried i _ hstill).of_outcome? ho, hlastSync⟩
        · next hwho =>
          obtain ⟨hle, hlists, hstored⟩ := h.merging i a o hi ho
          refine ⟨UInt64.le_trans hle forward, hlists, move.stores.lastSync_by ?_ hstored⟩
          -- there is no other pass that could end meanwhile
          rintro o' rfl
          exact absurd (h.locked.eq_of_holdsPass place hi rfl (Stage.holdsPass_of_outcome? ho)) hwho

theorem timely_first (config : Config) (rules : RuleStore) {states : StateStore}
    (empty : states.load = .ok none) : (first config rules states).Timely := by
  have hhas : ∀ P : SyncState → Prop, states.Has P := by
    intro P state hstate
    cases empty.symm.trans hstate
  refine ⟨System.locked_start rules states, known_first config rules empty _, hhas _, hhas _, ?_⟩
  intro i a o hi
  cases hi

theorem synced_step (h : d.states.Has SyncState.Synced) (hhappens : Happens d d') :
    d'.states.Has SyncState.Synced := by
  cases hhappens with
  | restarted config rules => exact h
  | turned acts =>
    cases acts with
    | begun op => exact h
    | surrounded w => exact h
    | advanced place move => exact move.stores.synced h

/-- With one configuration, all that is known of lists fits together. -/
theorem coherent_live {config : Config} {rules : RuleStore} {states : StateStore}
    {hs : List Happening} (fixed : ∀ c ∈ configs hs, c = config) (empty : states.load = .ok none)
    (hlive : (first config rules states).live hs = some d) :
    d.Known (Metadata.Coherent config.rules) ∧ d.states.Has SyncState.Synced := by
  refine (live_invariant (P := fun d => d.config = config ∧
    d.Known (Metadata.Coherent config.rules) ∧ d.states.Has SyncState.Synced)
    ?_ ?_ (each_of_configs fixed) hlive).2
  · rintro d d' ⟨hconfig, hcoherent, hsynced⟩ hhappens hfixed
    have hconfig' : d'.config = config := hfixed.elim (·.trans hconfig) id
    refine ⟨hconfig', hcoherent.step hhappens ?_, synced_step hsynced hhappens⟩
    rw [hconfig']
    exact Metadata.admitted_coherent _ _
  · refine ⟨rfl, known_first config rules empty _, ?_⟩
    intro state hstate
    cases empty.symm.trans hstate

/-- In every persisted state that services of one configuration leave, one after the other and
with operations in any order, what is known of a list is never a mix of old and new. A list that
has failed counts no rules; one that counts rules was downloaded and has not failed since; no list
counts more rules than the ceiling; once anything is known of a list, a pass has finished; and if
the clock is never put back, no list was downloaded after the last pass. -/
theorem coherent_metadata {config : Config} {rules : RuleStore} {states : StateStore}
    {hs : List Happening} {state : SyncState} (fixed : ∀ c ∈ configs hs, c = config)
    (empty : states.load = .ok none) (hlive : (first config rules states).live hs = some d)
    (hload : d.states.load = .ok (some state)) :
    (∀ l ∈ state.lists, l.lastError.isSome = true → l.ruleCount = 0) ∧
    (∀ l ∈ state.lists, 0 < l.ruleCount → l.lastUpdated.isSome = true ∧ l.lastError = none) ∧
    (∀ l ∈ state.lists, l.ruleCount.toNat ≤ config.rules.maxRules.toNat) ∧
    (∀ l ∈ state.lists, l.lastUpdated.isSome = true ∨ l.lastError.isSome = true →
      state.lastSync.isSome = true) ∧
    ((first config rules states).ClockForward hs → ∀ l ∈ state.lists, ∀ t,
      l.lastUpdated = some t → ∃ t', state.lastSync = some t' ∧ t ≤ t') := by
  obtain ⟨hcoherent, hsynced⟩ := coherent_live fixed empty hlive
  have hknown := hcoherent.stored state hload
  refine ⟨?_, ?_, ?_, ?_, ?_⟩
  · intro l hl
    exact (hknown l hl).failed
  · intro l hl
    exact (hknown l hl).downloaded
  · intro l hl
    exact (hknown l hl).bounded
  · intro l hl hsome
    by_contra hnone
    rw [Bool.not_eq_true, Option.isSome_eq_false_iff, Option.isNone_iff_eq_none] at hnone
    obtain ⟨hupdated, herror⟩ := hsynced state hload hnone l hl
    rw [show l.lastUpdated = none from hupdated, show l.lastError = none from herror] at hsome
    simp at hsome
  · intro hforward l hl
    have htimely : d.Timely :=
      live_invariant Timely.step (timely_first config rules empty) hforward hlive
    exact htimely.lists state hload l hl

/-- A list is downloaded by one service, and the download fails in the next. -/
def failsLater : List Happening :=
  [.turn (.surround (System.serving (fun _ => false) "||ads.example^")), .turn (.begin .refresh)] ++
  List.replicate 10 (.turn (.advance 0)) ++
  [.restart System.oneList (.new .memory), .turn (.surround ⟨fun _ => none, .empty, 9⟩),
    .turn (.begin .refresh)] ++
  List.replicate 9 (.turn (.advance 0))

theorem coherent_metadata_failsLater :
    ∃ d state, (first System.oneList (.new .memory) (.memory none)).live failsLater = some d ∧
      d.states.load = .ok (some state) ∧
      state.lists.map (·.metadata) =
        [⟨0, some 5, some "failed to fetch https://a: HTTP 404"⟩] ∧
      state.lastSync = some 9 ∧
      ∀ l ∈ state.lists, ∀ t, l.lastUpdated = some t → ∃ t', state.lastSync = some t' ∧ t ≤ t' := by
  have hseen : ((first System.oneList (.new .memory) (.memory none)).live failsLater).map
      (fun d => d.states.state?.map fun s => (s.lists.map (·.metadata), s.lastSync)) =
      some (some ([⟨0, some 5, some "failed to fetch https://a: HTTP 404"⟩], some 9)) := by
    decide +kernel
  have hforward :
      (first System.oneList (.new .memory) (.memory none)).ClockForward failsLater := by
    decide +kernel
  obtain ⟨d, hlive, hseen⟩ := Option.map_eq_some_iff.1 hseen
  obtain ⟨state, hstate, hseen⟩ := Option.map_eq_some_iff.1 hseen
  rw [Prod.mk.injEq] at hseen
  have hload := StateStore.load_of_state? hstate
  have hcoherent := coherent_metadata (by decide) rfl hlive hload
  exact ⟨d, state, hlive, hload, hseen.1, hseen.2, hcoherent.2.2.2.2 hforward⟩

end Deployment

end FilterSync
