import FilterSync.Proofs.Rule.ClosedForm

/-!
# The identifiers that a cursor gives away

A cursor can be used in three ways, any number of times: to build something with its next
identifier, to compile a filter, and to compile a list. What happens on the way cannot be seen from
the results alone. A watched cursor keeps a record of it: of the identifiers with which something
was to be built, and of those among them that were given away, in order. Its work has no outcome if
it comes to subtract a larger identifier from a smaller one. Apart from that watching does not
change what is done.

The record then shows that identifiers are given away in turn, one for each thing that is built,
from where the cursor stood at first to where it stands in the end, and that the largest one of
thirty-two bits is never touched.

Main statements: `WatchedCursor.compileLines_eq`, `WatchedCursor.play_eq` and
`CursorUse.identifiers_in_turn`.
-/

namespace FilterSync

open FilterSync.Filter

/-! ## Watching a cursor -/

/-- A cursor, and what has been done with it. -/
structure WatchedCursor where
  cursor : IdCursor
  /-- The identifiers with which something was to be built, in order. -/
  tried : List UInt32
  /-- The identifiers that were given away, in order. -/
  issued : List UInt32

namespace WatchedCursor

/-- A cursor with which nothing has been done. -/
def fresh (start : UInt32) : WatchedCursor := ⟨⟨start⟩, [], []⟩

/-- Builds something with the next identifier. -/
def issue {α : Type} (w : WatchedCursor) (build : UInt32 → Option α) :
    Option α × WatchedCursor :=
  if w.cursor.isSpent then (none, w)
  else
    match build w.cursor.next with
    | none => (none, { w with tried := w.tried ++ [w.cursor.next] })
    | some a =>
      (some a, ⟨⟨w.cursor.next + 1⟩, w.tried ++ [w.cursor.next], w.issued ++ [w.cursor.next]⟩)

/-- How far the cursor has gone on from `start`, where it has not gone back. -/
def since? (w : WatchedCursor) (start : UInt32) : Option Nat :=
  if w.cursor.next < start then none else some (w.cursor.next - start).toNat

/-- Compiles lines in order, where the list began at `start`. -/
def compileLines (start : UInt32) (ceiling : Nat) :
    List Line → WatchedCursor → Option (List Rule × WatchedCursor)
  | [], w => some ([], w)
  | line :: rest, w =>
    match line.filter? with
    | none => compileLines start ceiling rest w
    | some (body, isAllow) =>
      match w.issue (Rule.compile? body isAllow) with
      | (none, w) => compileLines start ceiling rest w
      | (some rule, w) => do
        if ceiling < (← w.since? start) then return ([rule], w)
        let (rules, w) ← compileLines start ceiling rest w
        return (rule :: rules, w)

/-- Compiles the text of a list. -/
def compileText (w : WatchedCursor) (ceiling : Nat) (text : List Char) :
    Option (Batch × WatchedCursor) := do
  let (rules, w) ← compileLines w.cursor.next ceiling ((Text.lines text).map Line.read) w
  return (⟨Batch.allowFirst rules, w.cursor⟩, w)

end WatchedCursor

/-- Something to do with a cursor. -/
inductive CursorUse : Type 1
  | issue {α : Type} (build : UInt32 → Option α)
  | compile (body : List Char) (isAllow : Bool)
  | list (ceiling : Nat) (text : List Char)

namespace CursorUse

/-- What comes of it. -/
def Result : CursorUse → Type
  | @issue α _ => Option α
  | compile _ _ => Option Rule
  | list _ _ => Batch

/-- Does it with a cursor. -/
def run : (use : CursorUse) → IdCursor → use.Result × IdCursor
  | issue build, c => c.issue build
  | compile body isAllow, c => c.compile body isAllow
  | list ceiling text, c => (Batch.ofText c ceiling text, (Batch.ofText c ceiling text).cursor)

/-- Does it with a watched cursor. -/
def watched : (use : CursorUse) → WatchedCursor → Option (use.Result × WatchedCursor)
  | issue build, w => some (w.issue build)
  | compile body isAllow, w => some (w.issue (Rule.compile? body isAllow))
  | list ceiling text, w => w.compileText ceiling text

/-- The identifiers of what came of it with a cursor. -/
def ids : (use : CursorUse) → IdCursor → use.Result → List UInt32
  | issue _, c, result => result.toList.map fun _ => c.next
  | compile _ _, _, result => result.toList.map (·.id)
  | list _ _, _, batch => batch.rules.map (·.id)

end CursorUse

/-- Does one thing after the other with a cursor. -/
def IdCursor.after (c : IdCursor) (uses : List CursorUse) : IdCursor :=
  uses.foldl (fun c use => (use.run c).2) c

/-- Does one thing after the other with a watched cursor. -/
def WatchedCursor.play : List CursorUse → WatchedCursor → Option WatchedCursor
  | [], w => some w
  | use :: uses, w => (use.watched w).bind fun r => play uses r.2

/-! ## What the record shows -/

/-- Between two times identifiers have been given away in turn. -/
structure IssuedInTurn (w w' : WatchedCursor) (ids : List UInt32) : Prop where
  next : w'.cursor.next.toNat = w.cursor.next.toNat + ids.length
  issued : w'.issued = w.issued ++ ids
  consecutive : ids.map (·.toNat) = List.range' w.cursor.next.toNat ids.length
  tried : ∃ more, w'.tried = w.tried ++ more ∧ ∀ id ∈ more, id.toNat < 2 ^ 32 - 1
  /-- Where no identifier is left nothing is to be built either. -/
  spent : w.cursor.isSpent = true → w' = w

namespace IssuedInTurn

variable {w w' w'' : WatchedCursor} {ids more : List UInt32}

theorem refl (w : WatchedCursor) : IssuedInTurn w w [] where
  next := rfl
  issued := (List.append_nil _).symm
  consecutive := rfl
  tried := ⟨[], (List.append_nil _).symm, by simp⟩
  spent := fun _ => rfl

theorem trans (h : IssuedInTurn w w' ids) (h' : IssuedInTurn w' w'' more) :
    IssuedInTurn w w'' (ids ++ more) where
  next := by rw [h'.next, h.next, List.length_append, Nat.add_assoc]
  issued := by rw [h'.issued, h.issued, List.append_assoc]
  consecutive := by
    rw [List.map_append, List.length_append, ← List.range'_append_1, h.consecutive,
      h'.consecutive, h.next]
  tried := by
    obtain ⟨tried, htried, hids⟩ := h.tried
    obtain ⟨tried', htried', hids'⟩ := h'.tried
    refine ⟨tried ++ tried', by rw [htried', htried, List.append_assoc], ?_⟩
    intro id hid
    rcases List.mem_append.1 hid with hid | hid
    · exact hids id hid
    · exact hids' id hid
  spent := by
    intro hspent
    obtain rfl := h.spent hspent
    exact h'.spent hspent

/-- What is not built takes no identifier. -/
theorem of_tried (hroom : w.cursor.next.toNat < 2 ^ 32 - 1) :
    IssuedInTurn w { w with tried := w.tried ++ [w.cursor.next] } [] where
  next := rfl
  issued := (List.append_nil _).symm
  consecutive := rfl
  tried := ⟨[w.cursor.next], rfl, by simpa using hroom⟩
  spent := fun hspent => absurd (IdCursor.isSpent_iff.1 hspent) (Nat.ne_of_lt hroom)

/-- What is built takes the next identifier. -/
theorem of_built (hroom : w.cursor.next.toNat < 2 ^ 32 - 1) :
    IssuedInTurn w
      ⟨⟨w.cursor.next + 1⟩, w.tried ++ [w.cursor.next], w.issued ++ [w.cursor.next]⟩
      [w.cursor.next] where
  next := by
    show (w.cursor.next + 1).toNat = w.cursor.next.toNat + 1
    rw [UInt32.toNat_add]
    simp only [UInt32.reduceToNat]
    omega
  issued := rfl
  consecutive := rfl
  tried := ⟨[w.cursor.next], rfl, by simpa using hroom⟩
  spent := fun hspent => absurd (IdCursor.isSpent_iff.1 hspent) (Nat.ne_of_lt hroom)

theorem le_next (h : IssuedInTurn w w' ids) : w.cursor.next ≤ w'.cursor.next := by
  rw [UInt32.le_iff_toNat_le, h.next]
  exact Nat.le_add_right _ _

theorem cursor_eq (h : IssuedInTurn w w' []) : w'.cursor = w.cursor := by
  have hnext : w'.cursor.next = w.cursor.next := UInt32.toNat_inj.1 h.next
  cases hw : w.cursor
  cases hw' : w'.cursor
  rw [hw, hw'] at hnext
  exact congrArg IdCursor.mk hnext

/-- The identifier behind one that is given away has thirty-two bits. -/
theorem lt_last (h : IssuedInTurn w w' ids) {id : UInt32} (hid : id ∈ ids) :
    id.toNat < 2 ^ 32 - 1 := by
  have hmem : id.toNat ∈ List.range' w.cursor.next.toNat ids.length :=
    h.consecutive ▸ List.mem_map_of_mem hid
  have hlt := (List.mem_range'_1.1 hmem).2
  have hnext := h.next
  have hcursor := w'.cursor.next.toNat_lt
  omega

end IssuedInTurn

/-! ## Using a watched cursor -/

namespace WatchedCursor

/-- Watching changes neither what is built nor where the cursor goes. -/
theorem issue_eq {α : Type} (w : WatchedCursor) (build : UInt32 → Option α) :
    ∃ w', w.issue build = ((w.cursor.issue build).1, w') ∧
      w'.cursor = (w.cursor.issue build).2 ∧
      IssuedInTurn w w' ((w.cursor.issue build).1.toList.map fun _ => w.cursor.next) := by
  cases hspent : w.cursor.isSpent with
  | true =>
    have hplain : w.cursor.issue build = (none, w.cursor) := by
      rw [IdCursor.issue, hspent]
      rfl
    rw [hplain]
    refine ⟨w, ?_, rfl, .refl w⟩
    rw [issue, hspent]
    rfl
  | false =>
    have hroom := IdCursor.next_lt_of_not_isSpent hspent
    cases hbuild : build w.cursor.next with
    | none =>
      have hplain : w.cursor.issue build = (none, w.cursor) := by
        rw [IdCursor.issue, hspent, hbuild]
        rfl
      rw [hplain]
      refine ⟨{ w with tried := w.tried ++ [w.cursor.next] }, ?_, rfl, .of_tried hroom⟩
      rw [issue, hspent, hbuild]
      rfl
    | some a =>
      have hplain : w.cursor.issue build = (some a, ⟨w.cursor.next + 1⟩) := by
        rw [IdCursor.issue, hspent, hbuild]
        rfl
      rw [hplain]
      refine ⟨_, ?_, rfl, .of_built hroom⟩
      rw [issue, hspent, hbuild]
      rfl

/-- A rule that is made has the identifier that it was made with. -/
theorem issue_compile_eq (w : WatchedCursor) (body : List Char) (isAllow : Bool) :
    ∃ w', w.issue (Rule.compile? body isAllow) = ((w.cursor.compile body isAllow).1, w') ∧
      w'.cursor = (w.cursor.compile body isAllow).2 ∧
      IssuedInTurn w w' ((w.cursor.compile body isAllow).1.toList.map (·.id)) := by
  obtain ⟨w', hw', hcursor, hturn⟩ := w.issue_eq (Rule.compile? body isAllow)
  refine ⟨w', hw', hcursor, ?_⟩
  have hid : ∀ r ∈ (w.cursor.compile body isAllow).1.toList, r.id = w.cursor.next := by
    intro r hr
    have hissued := w.cursor.issued_compile body isAllow
    have hbounds := hissued.bounds hr
    have hnext := hissued.next
    have hone := Option.length_toList_le (o := (w.cursor.compile body isAllow).1)
    exact UInt32.toNat_inj.1 (by omega)
  rw [List.map_congr_left hid]
  exact hturn

theorem since?_eq {w : WatchedCursor} {start : UInt32} (h : start ≤ w.cursor.next) :
    w.since? start = some (w.cursor.next.toNat - start.toNat) := by
  rw [since?, if_neg (UInt32.not_lt.2 h), UInt32.toNat_sub_of_le _ _ h]

/-- The lines of a list take identifiers in turn, and the cursor is never behind the place where the
list began. -/
theorem compileLines_eq {w : WatchedCursor} {start : UInt32} (h : start ≤ w.cursor.next)
    (ceiling : Nat) (lines : List Line) :
    ∃ w', compileLines start ceiling lines w =
        some ((Batch.ofLines start ceiling lines w.cursor).rules, w') ∧
      w'.cursor = (Batch.ofLines start ceiling lines w.cursor).cursor ∧
      IssuedInTurn w w' ((Batch.ofLines start ceiling lines w.cursor).rules.map (·.id)) := by
  induction lines generalizing w with
  | nil => exact ⟨w, rfl, rfl, .refl w⟩
  | cons line rest ih =>
    cases hline : line.filter? with
    | none =>
      simp only [compileLines, Batch.ofLines, hline]
      exact ih h
    | some f =>
      obtain ⟨body, isAllow⟩ := f
      obtain ⟨w', hw', hcursor, hturn⟩ := w.issue_compile_eq body isAllow
      simp only [compileLines, Batch.ofLines, hline, hw']
      cases hcompile : w.cursor.compile body isAllow with
      | mk result c =>
        rw [hcompile] at hcursor hturn
        obtain rfl : w'.cursor = c := hcursor
        obtain ⟨w'', hw'', hcursor', hturn'⟩ := ih (UInt32.le_trans h hturn.le_next)
        cases result with
        | none => exact ⟨w'', hw'', hcursor', hturn.trans hturn'⟩
        | some rule =>
          have hsince := since?_eq (UInt32.le_trans h hturn.le_next)
          simp only [hsince, hw'', Option.bind_eq_bind, Option.bind_some, Option.pure_def]
          split
          · exact ⟨w', rfl, rfl, hturn⟩
          · exact ⟨w'', rfl, hcursor', hturn.trans hturn'⟩

theorem compileText_eq (w : WatchedCursor) (ceiling : Nat) (text : List Char) :
    ∃ w' ids, w.compileText ceiling text = some (Batch.ofText w.cursor ceiling text, w') ∧
      w'.cursor = (Batch.ofText w.cursor ceiling text).cursor ∧ IssuedInTurn w w' ids ∧
      ids.Perm ((Batch.ofText w.cursor ceiling text).rules.map (·.id)) := by
  obtain ⟨w', hw', hcursor, hturn⟩ :=
    compileLines_eq (UInt32.le_refl w.cursor.next) ceiling ((Text.lines text).map Line.read)
  refine ⟨w', _, ?_, hcursor, hturn, ((Batch.allowFirst_perm _).map _).symm⟩
  rw [compileText, hw']
  show some (Batch.mk (Batch.allowFirst _) w'.cursor, w') = some (Batch.ofText _ _ _, w')
  rw [hcursor]
  rfl

end WatchedCursor

/-- A use of a watched cursor does what it does with a cursor that is not watched, and gives
identifiers away in turn to what comes of it. -/
structure CursorUse.InTurn (use : CursorUse) (w w' : WatchedCursor) (ids : List UInt32) : Prop where
  watched : use.watched w = some ((use.run w.cursor).1, w')
  cursor : w'.cursor = (use.run w.cursor).2
  issued : IssuedInTurn w w' ids
  perm : ids.Perm (use.ids w.cursor (use.run w.cursor).1)

theorem CursorUse.exists_inTurn (use : CursorUse) (w : WatchedCursor) :
    ∃ w' ids, use.InTurn w w' ids := by
  cases use with
  | issue build =>
    obtain ⟨w', hw', hcursor, hturn⟩ := w.issue_eq build
    exact ⟨w', _, congrArg some hw', hcursor, hturn, .refl _⟩
  | compile body isAllow =>
    obtain ⟨w', hw', hcursor, hturn⟩ := w.issue_compile_eq body isAllow
    exact ⟨w', _, congrArg some hw', hcursor, hturn, .refl _⟩
  | list ceiling text =>
    obtain ⟨w', ids, hw', hcursor, hturn, hperm⟩ := w.compileText_eq ceiling text
    exact ⟨w', ids, hw', hcursor, hturn, hperm⟩

theorem WatchedCursor.play_append (front back : List CursorUse) (w : WatchedCursor) :
    play (front ++ back) w = (play front w).bind (play back) := by
  induction front generalizing w with
  | nil => rfl
  | cons use front ih =>
    rw [List.cons_append, play, play, Option.bind_assoc]
    congr 1
    funext r
    exact ih r.2

/-- Whatever is done with a cursor, identifiers are given away in turn. -/
theorem WatchedCursor.play_eq (uses : List CursorUse) (w : WatchedCursor) :
    ∃ w' ids, play uses w = some w' ∧ w'.cursor = w.cursor.after uses ∧
      IssuedInTurn w w' ids := by
  induction uses generalizing w with
  | nil => exact ⟨w, [], rfl, rfl, .refl w⟩
  | cons use uses ih =>
    obtain ⟨w', ids, hturn⟩ := use.exists_inTurn w
    obtain ⟨w'', more, hplay, hcursor, hmore⟩ := ih w'
    refine ⟨w'', ids ++ more, ?_, ?_, hturn.issued.trans hmore⟩
    · rw [play, hturn.watched]
      exact hplay
    · rw [hcursor, hturn.cursor]
      rfl

namespace CursorUse

/-- Whatever is done with a cursor and in whatever order, the identifiers given away are the
consecutive ones from where it stood at first to where it stands in the end. Nothing is to be built
with the largest identifier of thirty-two bits, and it is not given away. No use has the cursor go
back, a use that gives nothing leaves it where it is, and where it stands at the largest identifier
nothing is to be built and nothing comes of any use. -/
theorem identifiers_in_turn (start : UInt32) (uses : List CursorUse) :
    ∃ w, WatchedCursor.play uses (.fresh start) = some w ∧
      w.cursor = IdCursor.after ⟨start⟩ uses ∧
      start.toNat ≤ w.cursor.next.toNat ∧ w.cursor.next.toNat ≤ 2 ^ 32 - 1 ∧
      w.issued.map (·.toNat) =
        List.range' start.toNat (w.cursor.next.toNat - start.toNat) ∧
      (∀ id ∈ w.issued, id.toNat < 2 ^ 32 - 1) ∧ (∀ id ∈ w.tried, id.toNat < 2 ^ 32 - 1) ∧
      ∀ front use back, uses = front ++ use :: back →
        ∃ before after ids, WatchedCursor.play front (.fresh start) = some before ∧
          use.watched before = some ((use.run before.cursor).1, after) ∧
          WatchedCursor.play back after = some w ∧
          after.cursor = (use.run before.cursor).2 ∧
          before.cursor.next ≤ after.cursor.next ∧
          after.issued = before.issued ++ ids ∧
          ids.Perm (use.ids before.cursor (use.run before.cursor).1) ∧
          (ids = [] → after.cursor = before.cursor) ∧
          (before.cursor.next.toNat = 2 ^ 32 - 1 → ids = [] ∧ after = before) := by
  obtain ⟨w, ids, hplay, hcursor, hturn⟩ := WatchedCursor.play_eq uses (.fresh start)
  have hissued : w.issued = ids := hturn.issued
  obtain ⟨tried, htried, hlast⟩ := hturn.tried
  have hnext : w.cursor.next.toNat = start.toNat + ids.length := hturn.next
  have hbits := w.cursor.next.toNat_lt
  refine ⟨w, hplay, hcursor, by omega, by omega, ?_, ?_, ?_, ?_⟩
  · rw [hissued, hturn.consecutive, hnext, Nat.add_sub_cancel_left]
    rfl
  · intro id hid
    exact hturn.lt_last (hissued ▸ hid)
  · intro id hid
    rw [htried] at hid
    exact hlast id hid
  · rintro front use back rfl
    obtain ⟨before, -, hbefore, -⟩ := WatchedCursor.play_eq front (.fresh start)
    obtain ⟨after, ids, huse⟩ := use.exists_inTurn before
    rw [WatchedCursor.play_append, hbefore, Option.bind_some, WatchedCursor.play, huse.watched,
      Option.bind_some] at hplay
    refine ⟨before, after, ids, hbefore, huse.watched, hplay, huse.cursor, huse.issued.le_next,
      huse.issued.issued, huse.perm, ?_, ?_⟩
    · rintro rfl
      exact huse.issued.cursor_eq
    · intro hspent
      obtain rfl := huse.issued.spent (IdCursor.isSpent_iff.2 hspent)
      exact ⟨List.self_eq_append_right.1 huse.issued.issued, rfl⟩

/-- A list has three filters for the last two identifiers. Behind it a filter changes nothing. -/
theorem identifiers_in_turn_lastTwo :
    ∃ before result,
      WatchedCursor.play [.issue fun _ => (none : Option Unit),
        .list 9 "||a^$image\r\n@@b/c\n||d".toList] (.fresh 4294967293) = some before ∧
      before.cursor.next.toNat = 2 ^ 32 - 1 ∧
      before.issued.map (·.toNat) = [4294967293, 4294967294] ∧
      (CursorUse.compile "x.net".toList false).watched before = some (result, before) := by
  obtain ⟨w, hplay, hcursor, -, -, hissued, -⟩ :=
    identifiers_in_turn 4294967293 [.issue fun _ => (none : Option Unit),
      .list 9 "||a^$image\r\n@@b/c\n||d".toList]
  obtain ⟨_, -, -, -, -, -, -, -, huses⟩ :=
    identifiers_in_turn 4294967293 [.issue fun _ => (none : Option Unit),
      .list 9 "||a^$image\r\n@@b/c\n||d".toList, .compile "x.net".toList false]
  obtain ⟨before, after, ids, hbefore, hwatched, -, -, -, -, -, -, hspent⟩ :=
    huses [_, _] _ [] rfl
  obtain rfl : before = w := Option.some.inj (hbefore.symm.trans hplay)
  have hlast : before.cursor.next.toNat = 2 ^ 32 - 1 := by
    rw [hcursor]
    decide +kernel
  rw [(hspent hlast).2] at hwatched
  refine ⟨before, _, hplay, hlast, ?_, hwatched⟩
  rw [hissued, hlast]
  rfl

end CursorUse

end FilterSync
