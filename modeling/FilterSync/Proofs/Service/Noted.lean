import FilterSync.Proofs.Service.History

/-!
# Which step makes which call

Every call is noted with the phase in which it was made. A step makes the calls of its stage
and no others: the state is loaded and saved under its lock, lists are downloaded by who takes
them, and only who commits a pass touches the rule store.

Main statement: `Stage.Moves.makes`.
-/

namespace FilterSync

namespace Stage

/-- The calls that can be made in a stage while there is a given phase. -/
def Makes (stage : Stage) (phase : Phase) : Call → Prop
  | .load | .save => stage.holdsState = true
  | .fetch url noted => noted = phase ∧
      ∃ p l left filters, stage = taking p (l :: left) filters ∧ url = l.url
  | .ids noted => noted = phase ∧ ∃ c, stage = listing c
  | .replace removed added noted => noted = phase ∧
      ∃ live c, stage = replacing live c ∧ removed = live.length ∧ added = c.rules.length

/-- Between two moments only calls of the stage were made. -/
def MakesOnly (stage : Stage) (s s' : Shared) : Prop :=
  ∃ calls, s'.events = calls ++ s.events ∧ ∀ e ∈ calls, stage.Makes s.phase e.call

variable {stage : Stage} {s s' : Shared}

theorem MakesOnly.nothing (stage : Stage) (h : s'.events = s.events) : stage.MakesOnly s s' :=
  ⟨[], h, by simp⟩

theorem MakesOnly.single {e : Event} (h : s'.events = e :: s.events)
    (he : stage.Makes s.phase e.call) : stage.MakesOnly s s' := by
  refine ⟨[e], h, ?_⟩
  intro e' he'
  rwa [List.mem_singleton.1 he']

end Stage

namespace Shared

/-- Work on the state is loading and saving. -/
def LoadsAndSaves (s s' : Shared) : Prop :=
  ∃ calls, s'.events = calls ++ s.events ∧ ∀ e ∈ calls, e.call = .load ∨ e.call = .save

variable {catalog : List CatalogEntry} {change : SyncState → SyncState} {s s' : Shared}
  {result : Except StoreError SyncState}

theorem Reading.loadsAndSaves (h : Reading catalog s result s') : LoadsAndSaves s s' := by
  cases h with
  | unloaded faults e => exact ⟨[⟨.load, true⟩], rfl, by simp⟩
  | unreadable faults e stored => exact ⟨[⟨.load, false⟩], rfl, by simp⟩
  | found faults state stored complete => exact ⟨[⟨.load, false⟩], rfl, by simp⟩
  | uncompleted faults faults' e found stored incomplete =>
    exact ⟨[⟨.save, true⟩, ⟨.load, false⟩], rfl, by simp⟩
  | completed faults faults' found stored incomplete =>
    exact ⟨[⟨.save, false⟩, ⟨.load, false⟩], rfl, by simp⟩

theorem LoadsAndSaves.save {failed : Bool} {s'' : Shared} (h : LoadsAndSaves s s')
    (hsave : s''.events = ⟨.save, failed⟩ :: s'.events) : LoadsAndSaves s s'' := by
  obtain ⟨calls, hevents, hcalls⟩ := h
  refine ⟨⟨.save, failed⟩ :: calls, ?_, ?_⟩
  · rw [hsave, hevents]
    rfl
  · intro e he
    rcases List.mem_cons.1 he with rfl | he
    · exact Or.inr rfl
    · exact hcalls e he

theorem Updating.loadsAndSaves (h : Updating catalog change s result s') :
    LoadsAndSaves s s' := by
  cases h with
  | unread reading => exact reading.loadsAndSaves
  | unsaved reading faults e => exact reading.loadsAndSaves.save rfl
  | saved reading faults => exact reading.loadsAndSaves.save rfl

/-- Who holds the lock of the state may load and save it. -/
theorem LoadsAndSaves.makesOnly {stage : Stage} {s'' : Shared} (h : LoadsAndSaves s s')
    (hholds : stage.holdsState = true) (hevents : s''.events = s'.events) :
    stage.MakesOnly s s'' := by
  obtain ⟨calls, hcalls, hall⟩ := h
  refine ⟨calls, hevents.trans hcalls, ?_⟩
  intro e he
  rcases hall e he with hload | hsave
  · rw [hload]
    exact hholds
  · rw [hsave]
    exact hholds

end Shared

/-- A step makes no calls but those of its stage, and notes them with the phase in which it
makes them. -/
theorem Stage.Moves.makes {config : Config} {who : Nat} {op : Operation} {stage stage' : Stage}
    {s s' : Shared} (move : Moves config who op stage s stage' s') : stage.MakesOnly s s' := by
  cases move with
  | enterState | enterPass | taken | received | filled => exact .nothing _ rfl
  | changeFailed h | changed h | mergeFailed h | merged h =>
    exact (Shared.updating_of_eq h).loadsAndSaves.makesOnly rfl rfl
  | readFailed h | read h | snapshotFailed h | protect h | unprotect h =>
    exact (Shared.reading_of_eq h).loadsAndSaves.makesOnly rfl rfl
  | requested p l left filters => exact .single rfl ⟨rfl, p, l, left, filters, rfl, rfl⟩
  | unlisted c | unlistable c => exact .single rfl ⟨rfl, c, rfl⟩
  | @nothing s c | @listed s c => exact .single rfl ⟨rfl, c, rfl⟩
  | unreplaced live c => exact .single rfl ⟨rfl, live, c, rfl, rfl, rfl⟩
  | @refused s live c | @replaced s live c =>
    exact .single rfl ⟨rfl, live, c, rfl, rfl, rfl⟩

end FilterSync
