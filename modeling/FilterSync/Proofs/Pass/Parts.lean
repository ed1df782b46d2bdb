import FilterSync.Proofs.Pass.Choices
import Mathlib.Data.List.Forall2

/-!
# What is compiled from what

A pass takes the enabled lists in order, until their rules reach the ceiling, and then filters of
the user, as long as there is room. `Part.compile` and `compileFilters` say what is compiled from
each list and from each filter, and `Part.upTo` how far a pass gets; a pass that replays its
downloads is compared with them, and the positions at which it has recorded the rules of each list
with the rules themselves.

Only the last list that a pass takes can give more rules than there is room for, and then no filter
is compiled.

Main statements: `Part.isShortest_upTo`, `Pass.replay?_upTo` and `SyncState.plan?_made`.
-/

namespace FilterSync

open Pass (ceiling)

/-! ## What is compiled -/

def Batch.ofDownload (c : IdCursor) (ceiling : Nat) : Download → Batch
  | .ok text => ofText c ceiling text.toList
  | .error _ => ⟨[], c⟩

/-- A list, what its download gave, and what is compiled from that. -/
structure Part where
  list : ListSource
  download : Download
  batch : Batch

namespace Part

def rules (part : Part) : List Rule := part.batch.rules

/-- Lists are compiled in order, with one cursor for all. -/
def compile (ceiling : Nat) (c : IdCursor) (answers : Nat → Download) :
    List ListSource → List Part
  | [] => []
  | l :: ls =>
    let batch := Batch.ofDownload c ceiling (answers 0)
    ⟨l, answers 0, batch⟩ :: compile ceiling batch.cursor (fun k => answers (k + 1)) ls

/-- The parts up to the first one with which the rules fill the room. -/
def upTo (room : Nat) : List Part → List Part
  | [] => []
  | part :: rest =>
    if part.rules.length < room then part :: upTo (room - part.rules.length) rest else [part]

def allRules (parts : List Part) : List Rule := parts.flatMap rules

def cursorBehind (c : IdCursor) (parts : List Part) : IdCursor :=
  parts.foldl (fun _ part => part.batch.cursor) c

end Part

/-- The filters of the user that are compiled behind `size` rules, with their rules. -/
def compileFilters (ceiling : Nat) : Nat → IdCursor → List CustomFilter → List (CustomFilter × Rule)
  | _, _, [] => []
  | size, c, f :: rest =>
    if ceiling ≤ size then []
    else
      match c.compile (Pass.filterBody f) f.action.isAllow with
      | (none, c) => compileFilters ceiling size c rest
      | (some rule, c) => (f, rule) :: compileFilters ceiling (size + 1) c rest

/-! ## The shortest prefix -/

namespace Part

variable {room : Nat} {part : Part} {parts shorter : List Part}

@[simp] theorem allRules_nil : allRules [] = [] := rfl

@[simp] theorem allRules_cons (part : Part) (parts : List Part) :
    allRules (part :: parts) = part.rules ++ allRules parts := rfl

theorem allRules_append (parts parts' : List Part) :
    allRules (parts ++ parts') = allRules parts ++ allRules parts' := List.flatMap_append

theorem upTo_prefix (room : Nat) (parts : List Part) : upTo room parts <+: parts := by
  induction parts generalizing room with
  | nil => exact List.prefix_rfl
  | cons part rest ih =>
    unfold upTo
    split
    · exact (List.prefix_cons_inj part).2 (ih _)
    · exact List.prefix_append [part] rest

/-- No shorter beginning fills the room. -/
theorem length_allRules_lt (hroom : 0 < room) (hshorter : shorter <+: upTo room parts)
    (hne : shorter ≠ upTo room parts) : (allRules shorter).length < room := by
  induction parts generalizing room shorter with
  | nil => exact absurd (List.prefix_nil.1 hshorter) hne
  | cons part rest ih =>
    cases shorter with
    | nil => exact hroom
    | cons part' shorter =>
      unfold upTo at hshorter hne
      split at hshorter
      · next hfits =>
        rw [if_pos hfits] at hne
        obtain ⟨rfl, hprefix⟩ := List.cons_prefix_cons.1 hshorter
        have hrest := ih (by omega) hprefix (fun heq => hne (by rw [heq]))
        rw [allRules_cons, List.length_append]
        omega
      · next hfull =>
        rw [if_neg hfull] at hne
        obtain ⟨rfl, hprefix⟩ := List.cons_prefix_cons.1 hshorter
        exact absurd (by rw [List.prefix_nil.1 hprefix]) hne

theorem upTo_fills_or_eq (room : Nat) (parts : List Part) :
    room ≤ (allRules (upTo room parts)).length ∨ upTo room parts = parts := by
  induction parts generalizing room with
  | nil => exact Or.inr rfl
  | cons part rest ih =>
    unfold upTo
    split
    · next hfits =>
      rcases ih (room - part.rules.length) with hfills | heq
      · left
        rw [allRules_cons, List.length_append]
        omega
      · right
        rw [heq]
    · next hfull =>
      left
      rw [allRules_cons, List.length_append]
      omega

theorem map_list_compile (ceiling : Nat) (c : IdCursor) (answers : Nat → Download)
    (ls : List ListSource) : (compile ceiling c answers ls).map (·.list) = ls := by
  induction ls generalizing c answers with
  | nil => rfl
  | cons l ls ih => rw [compile, List.map_cons, ih]

theorem exists_answer {ceiling : Nat} {c : IdCursor} {answers : Nat → Download}
    {ls : List ListSource} {part : Part} (h : part ∈ compile ceiling c answers ls) :
    ∃ k, ls[k]? = some part.list ∧ part.download = answers k := by
  induction ls generalizing c answers with
  | nil => cases h
  | cons l ls ih =>
    rcases List.mem_cons.1 h with rfl | hrest
    · exact ⟨0, rfl, rfl⟩
    · obtain ⟨k, hk, hdownload⟩ := ih hrest
      exact ⟨k + 1, hk, hdownload⟩

end Part

/-! ## Filters of the user -/

theorem length_compileFilters_le (ceiling size : Nat) (c : IdCursor) (filters : List CustomFilter) :
    (compileFilters ceiling size c filters).length ≤ ceiling - size := by
  induction filters generalizing size c with
  | nil => exact Nat.zero_le _
  | cons f rest ih =>
    unfold compileFilters
    split
    · exact Nat.zero_le _
    · split
      · exact ih size _
      · next rule c' _ =>
        have hrest := ih (size + 1) c'
        rw [List.length_cons]
        omega

namespace Pass

variable {limits : Config.Rules} {p q : Pass}

theorem rules_takeFilters (p : Pass) (filters : List CustomFilter) :
    (p.takeFilters limits filters).rules =
      p.rules ++ (compileFilters (ceiling limits) p.rules.length p.cursor filters).map (·.2) := by
  induction filters generalizing p with
  | nil => exact (List.append_nil _).symm
  | cons f rest ih =>
    unfold takeFilters compileFilters
    by_cases hfull : p.isFull limits = true
    · rw [if_pos hfull, if_pos (ceiling_le_of_isFull hfull), List.map_nil, List.append_nil]
    · have hroom : ¬ceiling limits ≤ p.rules.length := fun hle => hfull (decide_eq_true hle)
      rw [if_neg hfull, if_neg hroom, ih, takeFilter_eq]
      rcases hcompile : p.cursor.compile (filterBody f) f.action.isAllow with ⟨rule | rule, c⟩
      · simp
      · simp

end Pass

/-! ## A pass and its record -/

/-- How a pass has recorded a list whose rules are among those that it has made. -/
inductive Part.Recorded (rules : List Rule) (part : Part) : TakenList → Prop
  | compiled (text : String) (time : Timestamp) (before after : List Rule)
      (hdownload : part.download = .ok text) (hrules : rules = before ++ (part.rules ++ after)) :
      Recorded rules part ⟨part.list.recordSuccess part.rules.length time,
        some (before.length, before.length + part.rules.length)⟩
  | failed (e : DownloadError) (hdownload : part.download = .error e) (hnone : part.rules = []) :
      Recorded rules part ⟨part.list.recordFailure e.message, none⟩

theorem Part.Recorded.append {rules : List Rule} {part : Part} {t : TakenList}
    (h : part.Recorded rules t) (more : List Rule) : part.Recorded (rules ++ more) t := by
  cases h with
  | compiled text time before after hdownload hrules =>
    refine .compiled text time before (after ++ more) hdownload ?_
    rw [hrules, List.append_assoc, List.append_assoc]
  | failed e hdownload hnone => exact .failed e hdownload hnone

theorem Fetch.Gave.tail {answers : Nat → Download} {f : Fetch} {fs : List Fetch}
    (h : Gave answers (f :: fs)) : Gave (fun k => answers (k + 1)) fs :=
  fun k f' hf' => h (k + 1) f' hf'

namespace Pass

variable {limits : Config.Rules} {p q : Pass}

theorem lt_ceiling_of_not_isFull (h : p.isFull limits = false) :
    p.rules.length < ceiling limits :=
  Nat.lt_of_not_le (of_decide_eq_false h)

/-- What is known of a list as soon as it is taken. -/
theorem recorded_takeList (limits : Config.Rules) (p : Pass) (l : ListSource)
    (download : Download) (now : Timestamp) :
    let part : Part := ⟨l, download, Batch.ofDownload p.cursor (ceiling limits) download⟩
    (p.takeList limits l download now).cursor = part.batch.cursor ∧
      (p.takeList limits l download now).rules = p.rules ++ part.rules ∧
      ∃ t, (p.takeList limits l download now).taken = p.taken ++ [t] ∧
        part.Recorded (p.rules ++ part.rules) t := by
  cases download with
  | ok text =>
    refine ⟨rfl, rfl, _, rfl, .compiled text now p.rules [] rfl ?_⟩
    rw [List.append_nil]
  | error e => exact ⟨rfl, (List.append_nil _).symm, _, rfl, .failed e rfl rfl⟩

/-- A pass takes the lists up to the one with which the rules reach the ceiling. -/
theorem replay?_upTo {ls : List ListSource} {fs : List Fetch} {answers : Nat → Download}
    (hreplay : p.replay? limits ls fs = some q) (hgave : Fetch.Gave answers fs)
    (hroom : p.rules.length < ceiling limits) :
    let touched := Part.upTo (ceiling limits - p.rules.length)
      (Part.compile (ceiling limits) p.cursor answers ls)
    q.rules = p.rules ++ Part.allRules touched ∧ q.cursor = Part.cursorBehind p.cursor touched ∧
      fs.map (·.url) = touched.map (·.list.url) ∧
      ∃ taken, q.taken = p.taken ++ taken ∧
        List.Forall₂ (fun part t => part.Recorded q.rules t) touched taken := by
  replace hreplay := replays_of_eq hreplay
  induction hreplay generalizing answers with
  | done p =>
    exact ⟨(List.append_nil _).symm, rfl, rfl, [], (List.append_nil _).symm, .nil⟩
  | @last p l f ls url full =>
    have hanswer : f.download = answers 0 := hgave 0 f rfl
    rw [hanswer] at full ⊢
    obtain ⟨hcursor, hrules, t, htaken, hrecord⟩ :=
      recorded_takeList limits p l (answers 0) f.time
    have hfills := ceiling_le_of_isFull full
    rw [hrules, List.length_append] at hfills
    unfold Part.compile Part.upTo
    rw [if_neg (by omega)]
    refine ⟨?_, hcursor, congrArg (· :: []) url.symm, [t], htaken, .cons ?_ .nil⟩
    · rw [hrules, Part.allRules_cons, Part.allRules_nil, List.append_nil]
    · rw [hrules]
      exact hrecord
  | @more p q l f ls fs url room _ ih =>
    have hanswer : f.download = answers 0 := hgave 0 f rfl
    rw [hanswer] at room ih
    obtain ⟨hcursor, hrules, t, htaken, hrecord⟩ :=
      recorded_takeList limits p l (answers 0) f.time
    have hfits := lt_ceiling_of_not_isFull room
    obtain ⟨hqrules, hqcursor, hurls, taken, hqtaken, hrecords⟩ := ih hgave.tail hfits
    rw [hrules, List.length_append] at hfits
    rw [hrules, List.length_append, hcursor, ← Nat.sub_sub] at hqrules hqcursor hurls hrecords
    unfold Part.compile Part.upTo
    rw [if_pos (by omega)]
    refine ⟨?_, hqcursor, ?_, t :: taken, ?_, .cons ?_ hrecords⟩
    · rw [hqrules, List.append_assoc]
      rfl
    · rw [List.map_cons, List.map_cons, hurls, url]
    · rw [hqtaken, htaken, List.append_assoc]
      rfl
    · rw [hqrules]
      exact hrecord.append _

end Pass

/-! ## A whole pass -/

/-- The shortest beginning of `parts` whose rules fill the room, or all of them if they do not. -/
structure Part.IsShortest (room : Nat) (parts touched : List Part) : Prop where
  begins : touched <+: parts
  shorter : ∀ shorter, shorter <+: touched → shorter ≠ touched →
    (Part.allRules shorter).length < room
  fills : room ≤ (Part.allRules touched).length ∨ touched = parts

theorem Part.isShortest_upTo {room : Nat} (hroom : 0 < room) (parts : List Part) :
    IsShortest room parts (upTo room parts) where
  begins := upTo_prefix room parts
  shorter := fun _ => length_allRules_lt hroom
  fills := upTo_fills_or_eq room parts

/-- Only rules of the last part are behind the first `room` ones. -/
theorem Part.IsShortest.mem_last {room : Nat} {parts touched : List Part} {r : Rule}
    (h : IsShortest room parts touched) (hr : r ∈ allRules touched)
    (hcut : r ∉ (allRules touched).take room) :
    ∃ part, touched.getLast? = some part ∧ r ∈ part.rules := by
  rcases List.eq_nil_or_concat' touched with rfl | ⟨front, last, rfl⟩
  · cases hr
  · refine ⟨last, List.getLast?_concat, ?_⟩
    have hfront := h.shorter front (List.prefix_append _ _) (by simp)
    rw [allRules_append, List.mem_append] at hr
    rw [allRules_append, List.take_append, List.take_of_length_le (Nat.le_of_lt hfront),
      List.mem_append, not_or] at hcut
    simpa using hr.resolve_left hcut.1

namespace SyncState

variable (s : SyncState) (limits : Config.Rules) (answers : Nat → Download)

/-- What is compiled from each enabled list if the downloads give these answers in order. -/
def parts : List Part :=
  Part.compile (ceiling limits) ⟨limits.firstRuleId⟩ answers (s.lists.filter (·.enabled))

/-- The lists that a pass takes. -/
def touched : List Part := Part.upTo (ceiling limits) (s.parts limits answers)

/-- The filters of the user that a pass compiles, with their rules. -/
def ownRules : List (CustomFilter × Rule) :=
  compileFilters (ceiling limits) (Part.allRules (s.touched limits answers)).length
    (Part.cursorBehind ⟨limits.firstRuleId⟩ (s.touched limits answers))
    (s.customFilters.filter (·.enabled))

/-- All rules that a pass makes, before they are cut. -/
def made : List Rule :=
  Part.allRules (s.touched limits answers) ++ (s.ownRules limits answers).map (·.2)

variable {s limits answers}

theorem touched_sublist : ((s.touched limits answers).map (·.list)).Sublist
    (s.lists.filter (·.enabled)) := by
  have hprefix := (Part.upTo_prefix (ceiling limits) (s.parts limits answers)).map (·.list)
  rw [parts, Part.map_list_compile] at hprefix
  exact hprefix.sublist

/-- Filters are compiled only where there is room for their rules. -/
theorem own_live {r : Rule} (hr : r ∈ (s.ownRules limits answers).map (·.2)) :
    r ∈ (s.made limits answers).take (ceiling limits) := by
  have hsize : (s.ownRules limits answers).length ≤
      ceiling limits - (Part.allRules (s.touched limits answers)).length :=
    length_compileFilters_le _ _ _ _
  have hpos : 0 < (s.ownRules limits answers).length := by
    rw [← List.length_map (·.2)]
    exact List.length_pos_of_mem hr
  have hall : (s.made limits answers).length ≤ ceiling limits := by
    rw [made, List.length_append, List.length_map]
    omega
  rw [List.take_of_length_le hall]
  exact List.mem_append_right _ hr

/-- What is cut is rules of the last list. -/
theorem cut_of_last {r : Rule} (room : 0 < ceiling limits) (hr : r ∈ s.made limits answers)
    (hcut : r ∉ (s.made limits answers).take (ceiling limits)) :
    ∃ part, (s.touched limits answers).getLast? = some part ∧ r ∈ part.rules := by
  rcases List.mem_append.1 hr with hlist | hown
  · apply (Part.isShortest_upTo room (s.parts limits answers)).mem_last hlist
    intro hmem
    apply hcut
    rw [made, List.take_append]
    exact List.mem_append_left _ hmem
  · exact absurd (own_live hown) hcut

theorem plan?_made {fetched : List Fetch} {c : Commit} (on : s.protectionEnabled = true)
    (room : 0 < ceiling limits) (hgave : Fetch.Gave answers fetched)
    (hplan : s.plan? limits fetched = some c) :
    c.rules = (s.made limits answers).take (ceiling limits) ∧ (s.made limits answers).Nodup ∧
      fetched.map (·.url) = (s.touched limits answers).map (·.list.url) ∧
      ∃ taken, c.lists = taken.map (·.settle c.rules.length) ∧
        List.Forall₂ (fun part t => part.Recorded (s.made limits answers) t)
          (s.touched limits answers) taken := by
  obtain ⟨q, hreplay, rfl⟩ := (plan?_eq_some_iff on).1 hplan
  obtain ⟨hrules, hcursor, hurls, taken, htaken, hrecords⟩ := Pass.replay?_upTo hreplay hgave room
  have hmade : (q.takeEnabled limits s.customFilters).rules = s.made limits answers := by
    rw [Pass.takeEnabled, Pass.rules_takeFilters, hcursor, hrules]
    rfl
  have hissued : Issued _ (q.takeEnabled limits s.customFilters).cursor
      (q.takeEnabled limits s.customFilters).rules :=
    Pass.issued_takeEnabled (Pass.issued_replay? (Pass.issued_start limits) hreplay) _
  rw [hmade] at hissued
  refine ⟨?_, hissued.nodup_ids.of_map, hurls, taken, ?_, ?_⟩
  · rw [← hmade]
    rfl
  · rw [Pass.lists_commitOf, htaken]
    rfl
  · refine hrecords.imp fun part t h => ?_
    rw [← hmade, Pass.takeEnabled, Pass.rules_takeFilters]
    exact h.append _

end SyncState

end FilterSync
