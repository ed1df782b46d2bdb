import FilterSync.Sync.Pass
import Mathlib.Data.List.Nodup
import Mathlib.Data.List.Range

/-!
# Identifiers of the rules of a pass

All rules of a pass get their identifiers from one cursor. Whatever is compiled, the
identifiers given away are the consecutive ones between the cursor before and the cursor
behind, each once, and each rule has the priority of its action. Putting allowing rules in
front only reorders rules, and cutting at the ceiling only drops some.

Main statements: `Issued.nodup_ids` and `Pass.issued_takeEnabled`.
-/

namespace FilterSync

/-- The rules that were made while the cursor moved from one place to another: their
identifiers are the ones in between, in some order. -/
structure Issued (c c' : IdCursor) (rules : List Rule) : Prop where
  next : c'.next.toNat = c.next.toNat + rules.length
  ids : (rules.map (·.id.toNat)).Perm (List.range' c.next.toNat rules.length)
  priority : ∀ r ∈ rules, r.priority = r.action.priority

namespace Issued

variable {c c' c'' : IdCursor} {rules more : List Rule}

theorem nil (c : IdCursor) : Issued c c [] where
  next := rfl
  ids := List.Perm.refl _
  priority := by simp

theorem append (h : Issued c c' rules) (h' : Issued c' c'' more) :
    Issued c c'' (rules ++ more) where
  next := by rw [h'.next, h.next, List.length_append, Nat.add_assoc]
  ids := by
    rw [List.map_append, List.length_append, ← List.range'_append_1]
    refine h.ids.append ?_
    rw [← h.next]
    exact h'.ids
  priority := by
    intro r hr
    rcases List.mem_append.1 hr with hr | hr
    · exact h.priority r hr
    · exact h'.priority r hr

theorem perm (h : Issued c c' rules) (hp : more.Perm rules) : Issued c c' more where
  next := by rw [hp.length_eq, h.next]
  ids := by
    rw [hp.length_eq]
    exact (hp.map _).trans h.ids
  priority := fun r hr => h.priority r (hp.mem_iff.1 hr)

/-- No identifier is given away twice. -/
theorem nodup_ids (h : Issued c c' rules) : (rules.map (·.id)).Nodup := by
  have hnat : (rules.map (·.id.toNat)).Nodup := h.ids.nodup_iff.2 List.nodup_range'
  have hcomp : (rules.map (·.id.toNat)) = (rules.map (·.id)).map UInt32.toNat := by
    rw [List.map_map]
    rfl
  rw [hcomp] at hnat
  exact hnat.of_map

theorem bounds (h : Issued c c' rules) {r : Rule} (hr : r ∈ rules) :
    c.next.toNat ≤ r.id.toNat ∧ r.id.toNat < c'.next.toNat := by
  have hmem : r.id.toNat ∈ List.range' c.next.toNat rules.length :=
    h.ids.mem_iff.1 (List.mem_map.2 ⟨r, hr, rfl⟩)
  obtain ⟨i, hi, heq⟩ := List.mem_range'.1 hmem
  have hnext := h.next
  omega

end Issued

/-! ## One filter -/

/-- A compiled rule has the identifier it was given, and the priority of its action. -/
theorem Rule.compile?_eq_some {body : List Char} {isAllow : Bool} {id : UInt32} {r : Rule}
    (h : Rule.compile? body isAllow id = some r) :
    r.id = id ∧ r.priority = r.action.priority := by
  unfold Rule.compile? at h
  obtain ⟨pattern, -, rfl⟩ := Option.map_eq_some_iff.1 h
  exact ⟨rfl, rfl⟩

namespace IdCursor

theorem issued_compile (c : IdCursor) (body : List Char) (isAllow : Bool) :
    Issued c (c.compile body isAllow).2 (c.compile body isAllow).1.toList := by
  unfold compile
  cases hrule : (c.issue (Rule.compile? body isAllow)).1 with
  | none =>
    rw [issue_snd_of_none hrule]
    exact Issued.nil c
  | some r =>
    obtain ⟨hnext, -⟩ := toNat_next_issue hrule
    have hmade : Rule.compile? body isAllow c.next = some r := by
      unfold issue at hrule
      split at hrule
      · cases hrule
      · split at hrule
        · cases hrule
        · next heq =>
          cases hrule
          exact heq
    obtain ⟨hid, hpriority⟩ := Rule.compile?_eq_some hmade
    exact
      { next := hnext
        ids := by simp [hid]
        priority := by simpa using hpriority }

end IdCursor

/-! ## One list -/

namespace Batch

theorem issued_ofLines (start : UInt32) (ceiling : Nat) (lines : List Filter.Line)
    (c : IdCursor) :
    Issued c (ofLines start ceiling lines c).cursor (ofLines start ceiling lines c).rules := by
  induction lines generalizing c with
  | nil => exact Issued.nil c
  | cons line rest ih =>
    unfold ofLines
    split
    · exact ih c
    · next body isAllow hline =>
      have hcompile := c.issued_compile body isAllow
      split
      · next c' heq =>
        rw [heq] at hcompile
        exact hcompile.append (ih c')
      · next rule c' heq =>
        rw [heq] at hcompile
        split
        · exact hcompile
        · exact hcompile.append (ih c')

theorem issued_ofText (c : IdCursor) (ceiling : Nat) (text : List Char) :
    Issued c (ofText c ceiling text).cursor (ofText c ceiling text).rules := by
  unfold ofText
  exact (issued_ofLines _ _ _ c).perm (allowFirst_perm _)

end Batch

/-! ## A pass -/

namespace Pass

variable {limits : Config.Rules} {p : Pass} {c : IdCursor}

theorem issued_start (limits : Config.Rules) :
    Issued ⟨limits.firstRuleId⟩ (start limits).cursor (start limits).rules :=
  Issued.nil _

theorem issued_takeList (h : Issued c p.cursor p.rules) (list : ListSource)
    (download : Download) (now : Timestamp) :
    Issued c (p.takeList limits list download now).cursor
      (p.takeList limits list download now).rules := by
  cases download with
  | ok text => exact h.append (Batch.issued_ofText _ _ _)
  | error e => exact h

theorem issued_takeFilter (h : Issued c p.cursor p.rules) (f : CustomFilter) :
    Issued c (p.takeFilter f).cursor (p.takeFilter f).rules := by
  unfold takeFilter
  split
  · exact h
  · exact h.append (IdCursor.issued_compile _ _ _)

theorem issued_takeFilters (h : Issued c p.cursor p.rules) (filters : List CustomFilter) :
    Issued c (p.takeFilters limits filters).cursor (p.takeFilters limits filters).rules := by
  induction filters generalizing p with
  | nil => exact h
  | cons f rest ih =>
    unfold takeFilters
    split
    · exact h
    · exact ih (issued_takeFilter h f)

theorem issued_takeEnabled (h : Issued c p.cursor p.rules) (filters : List CustomFilter) :
    Issued c (p.takeEnabled limits filters).cursor (p.takeEnabled limits filters).rules :=
  issued_takeFilters h _

end Pass

/-! ## Rules that may be live -/

/-- What is promised of the live rules: no more than the ceiling, distinct identifiers
from the first one on and below the largest of thirty-two bits, and the priorities of
their actions. -/
structure Admissible (limits : Config.Rules) (rules : List Rule) : Prop where
  length_le : rules.length ≤ limits.maxRules.toNat
  nodup_ids : (rules.map (·.id)).Nodup
  first_le : ∀ r ∈ rules, limits.firstRuleId ≤ r.id
  lt_last : ∀ r ∈ rules, r.id.toNat < UInt32.size - 1
  priority : ∀ r ∈ rules, r.priority = r.action.priority

namespace Admissible

variable {limits : Config.Rules} {rules more : List Rule}

theorem nil (limits : Config.Rules) : Admissible limits [] := by
  constructor <;> simp

theorem perm (h : Admissible limits rules) (hp : more.Perm rules) : Admissible limits more where
  length_le := hp.length_eq ▸ h.length_le
  nodup_ids := (hp.map _).nodup_iff.2 h.nodup_ids
  first_le := fun r hr => h.first_le r (hp.mem_iff.1 hr)
  lt_last := fun r hr => h.lt_last r (hp.mem_iff.1 hr)
  priority := fun r hr => h.priority r (hp.mem_iff.1 hr)

end Admissible

/-- The rules that a pass wants live may be live. -/
theorem Pass.admissible_live {limits : Config.Rules} {p : Pass}
    (h : Issued ⟨limits.firstRuleId⟩ p.cursor p.rules) : Admissible limits (p.live limits) := by
  have hsub : (p.live limits).Sublist p.rules := List.take_sublist _ _
  constructor
  · exact List.length_take_le _ _
  · exact h.nodup_ids.sublist (hsub.map _)
  · intro r hr
    rw [UInt32.le_iff_toNat_le]
    exact (h.bounds (hsub.subset hr)).1
  · intro r hr
    have hlt := (h.bounds (hsub.subset hr)).2
    have hcursor := p.cursor.next.toNat_lt
    simp only [UInt32.size]
    omega
  · intro r hr
    exact h.priority r (hsub.subset hr)

end FilterSync
