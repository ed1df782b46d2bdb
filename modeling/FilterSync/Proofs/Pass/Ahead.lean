import FilterSync.Proofs.Pass.Exhaustive
import Mathlib.Algebra.GroupWithZero.Nat
import Mathlib.Logic.Relation

/-!
# Downloads ahead of a pass

A pass may have several downloads under way at once, up to some number. They begin in the
order of the lists and end in any order; the pass takes a list when its download has ended
and those of all lists in front of it were taken. When the rules have reached the ceiling,
downloads that are still under way are given up.

Whatever number that is, and in whatever order the downloads end, such a pass does what a
pass does that makes one download after the other.

Main statements: `Ahead.takeLists_of_reaches` and `Ahead.exists_reaches`.
-/

namespace FilterSync

/-- A download that has begun: what it gives, and whether it has ended. -/
structure Begun where
  list : ListSource
  answer : Download
  ended : Bool

/-- A pass that downloads ahead. -/
inductive Ahead
  | taking (pass : Pass) (begun : List Begun) (waiting : List (ListSource × Download))
  | taken (pass : Pass)

namespace Ahead

/-- A pass over a state, given what the download of each enabled list gives. -/
def start (limits : Config.Rules) (s : SyncState) (answers : List Download) : Ahead :=
  taking (.start limits) [] ((s.lists.filter (·.enabled)).zip answers)

/-- The steps of a pass with at most `width` downloads under way. -/
inductive Step (limits : Config.Rules) (width : Nat) : Ahead → Ahead → Prop
  | begin {p : Pass} {begun : List Begun} {waiting : List (ListSource × Download)}
      (l : ListSource) (d : Download) (room : begun.length < width) :
      Step limits width (taking p begun ((l, d) :: waiting))
        (taking p (begun ++ [⟨l, d, false⟩]) waiting)
  /-- Some download comes to its end. -/
  | ends {p : Pass} {waiting : List (ListSource × Download)} (before after : List Begun)
      (l : ListSource) (d : Download) :
      Step limits width (taking p (before ++ ⟨l, d, false⟩ :: after) waiting)
        (taking p (before ++ ⟨l, d, true⟩ :: after) waiting)
  | take {p : Pass} {begun : List Begun} {waiting : List (ListSource × Download)}
      {l : ListSource} {d : Download} (now : Timestamp)
      (room : (p.takeList limits l d now).isFull limits = false) :
      Step limits width (taking p (⟨l, d, true⟩ :: begun) waiting)
        (taking (p.takeList limits l d now) begun waiting)
  /-- Takes no more lists, as the rules have reached the ceiling. -/
  | fill {p : Pass} {begun : List Begun} {waiting : List (ListSource × Download)}
      {l : ListSource} {d : Download} (now : Timestamp)
      (full : (p.takeList limits l d now).isFull limits = true) :
      Step limits width (taking p (⟨l, d, true⟩ :: begun) waiting)
        (taken (p.takeList limits l d now))
  | finish {p : Pass} : Step limits width (taking p [] []) (taken p)

/-- What a pass comes to by its steps. -/
def Reaches (limits : Config.Rules) (width : Nat) : Ahead → Ahead → Prop :=
  Relation.ReflTransGen (Step limits width)

variable {limits : Config.Rules} {width : Nat} {a a' : Ahead}

/-! ## Order -/

/-- The lists that are still to be taken, in order, with what their downloads give. -/
def left : Ahead → List (ListSource × Download)
  | taking _ begun waiting => begun.map (fun b => (b.list, b.answer)) ++ waiting
  | taken _ => []

/-- How far a pass has come. -/
def pass : Ahead → Pass
  | taking p _ _ | taken p => p

/-- A pass that has taken its lists has taken those that were left one after the other, at
some times. -/
theorem takeLists_of_reaches {q : Pass} (h : Reaches limits width a (taken q)) :
    ∃ entries : List (ListSource × Download × Timestamp),
      entries.map (fun e => (e.1, e.2.1)) = a.left ∧ q = a.pass.takeLists limits entries := by
  induction h using Relation.ReflTransGen.head_induction_on with
  | refl => exact ⟨[], rfl, rfl⟩
  | head hstep _ ih =>
    obtain ⟨entries, hleft, rfl⟩ := ih
    cases hstep with
    | begin l d room => exact ⟨entries, by simpa [left] using hleft, rfl⟩
    | ends before after l d => exact ⟨entries, by simpa [left] using hleft, rfl⟩
    | @take p begun waiting l d now room =>
      refine ⟨(l, d, now) :: entries, ?_, ?_⟩
      · rw [List.map_cons, hleft]
        rfl
      · have hstep : p.takeLists limits ((l, d, now) :: entries) =
            (p.takeList limits l d now).takeLists limits entries := by
          rw [Pass.takeLists, room, if_neg Bool.false_ne_true]
        exact hstep.symm
    | @fill p begun waiting l d now full =>
      -- the other lists are passed over, whenever their downloads would have ended
      have hnone : entries = [] := List.map_eq_nil_iff.1 hleft
      subst hnone
      let others := begun.map (fun b => (b.list, b.answer)) ++ waiting
      refine ⟨(l, d, now) :: others.map (fun e => (e.1, e.2, 0)), ?_, ?_⟩
      · rw [List.map_cons, List.map_map]
        show _ :: others.map id = _ :: others
        rw [List.map_id]
      · have hstop : p.takeLists limits ((l, d, now) :: others.map fun e => (e.1, e.2, 0)) =
            p.takeList limits l d now := by
          rw [Pass.takeLists, if_pos full]
        exact hstop.symm
    | finish => exact ⟨entries, hleft, rfl⟩

/-- However it downloads ahead, a pass commits the rules of a pass that never stops early. -/
theorem commitOf_of_reaches {s : SyncState} {answers : List Download} {q : Pass}
    (hanswers : answers.length = (s.lists.filter (·.enabled)).length)
    (h : Reaches limits width (start limits s answers) (taken q)) :
    (q.commitOf limits s.customFilters).rules =
      Pass.exhaustiveRules limits answers s.customFilters := by
  obtain ⟨entries, hleft, rfl⟩ := takeLists_of_reaches h
  have hdownloads : entries.map (·.2.1) = answers := by
    have hsnd := congrArg (List.map Prod.snd) hleft
    rw [List.map_map] at hsnd
    refine hsnd.trans ?_
    show List.map Prod.snd (List.zip _ answers) = answers
    exact List.map_snd_zip (Nat.le_of_eq hanswers)
  rw [← hdownloads]
  exact Pass.live_eq_exhaustiveRules entries s.customFilters

/-! ## Coming to an end -/

/-- How many steps are left at most. -/
def size : Ahead → Nat
  | taking _ begun waiting =>
    1 + 3 * waiting.length + (begun.map fun b => if b.ended then 1 else 2).sum
  | taken _ => 0

theorem size_lt (h : Step limits width a a') : a'.size < a.size := by
  cases h with
  | begin l d room =>
    simp only [size, List.map_append, List.sum_append, List.length_cons, List.map_cons,
      List.map_nil, List.sum_cons, List.sum_nil, Bool.false_eq_true, if_false]
    omega
  | ends before after l d =>
    simp only [size, List.map_append, List.sum_append, List.map_cons, List.sum_cons,
      Bool.false_eq_true, if_false, if_true]
    omega
  | take now room =>
    simp only [size, List.map_cons, List.sum_cons, if_true]
    omega
  | fill now full =>
    simp only [size]
    omega
  | finish =>
    simp only [size]
    omega

/-- With room for a download a pass that takes lists never waits for nothing. -/
theorem exists_step (limits : Config.Rules) (hwidth : 0 < width) (p : Pass) (begun : List Begun)
    (waiting : List (ListSource × Download)) :
    ∃ a', Step limits width (taking p begun waiting) a' := by
  cases begun with
  | nil =>
    cases waiting with
    | nil => exact ⟨_, .finish⟩
    | cons entry waiting =>
      obtain ⟨l, d⟩ := entry
      exact ⟨_, .begin l d hwidth⟩
  | cons b begun =>
    obtain ⟨l, d, ended⟩ := b
    cases ended with
    | false => exact ⟨_, .ends [] begun l d⟩
    | true =>
      cases hfull : (p.takeList limits l d 0).isFull limits with
      | false => exact ⟨_, .take 0 hfull⟩
      | true => exact ⟨_, .fill 0 hfull⟩

/-- Each step brings a pass closer to the point where it has taken its lists. -/
theorem exists_reaches (hwidth : 0 < width) (a : Ahead) :
    ∃ q, Reaches limits width a (taken q) := by
  induction hsize : a.size using Nat.strong_induction_on generalizing a with
  | _ n ih =>
    cases a with
    | taken q => exact ⟨q, .refl⟩
    | taking p begun waiting =>
      obtain ⟨a', hstep⟩ := exists_step limits hwidth p begun waiting
      obtain ⟨q, hrest⟩ := ih _ (hsize ▸ size_lt hstep) a' rfl
      exact ⟨q, .head hstep hrest⟩

end Ahead

end FilterSync
