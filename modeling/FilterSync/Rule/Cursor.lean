import FilterSync.Rule.Compile

/-!
# Identifiers of rules

Rules get consecutive identifiers. A cursor holds the next one and gives it away only
to a rule that can be made. The largest identifier of thirty-two bits is never given
away, so the cursor can always stand behind the last one that was.
-/

namespace FilterSync

/-- The identifier that the next rule will have. -/
structure IdCursor where
  next : UInt32
  deriving DecidableEq, Repr

namespace IdCursor

/-- Whether no identifier is left. -/
def isSpent (c : IdCursor) : Bool := c.next = UInt32.ofNat (UInt32.size - 1)

/-- Builds something with the next identifier, which is taken only if that succeeds.
Nothing is built when no identifier is left. -/
def issue {α : Type} (c : IdCursor) (build : UInt32 → Option α) : Option α × IdCursor :=
  if c.isSpent then (none, c)
  else
    match build c.next with
    | none => (none, c)
    | some a => (some a, ⟨c.next + 1⟩)

/-- Compiles a filter's body with the next identifier. -/
def compile (c : IdCursor) (body : List Char) (isAllow : Bool) : Option Rule × IdCursor :=
  c.issue (Rule.compile? body isAllow)

/-- Without a result the cursor stays where it is. -/
theorem issue_snd_of_none {α : Type} {c : IdCursor} {build : UInt32 → Option α}
    (h : (c.issue build).1 = none) : (c.issue build).2 = c := by
  unfold issue at *
  split
  · rfl
  · split
    · rfl
    · simp_all

/-- With a result the cursor moves by one, and did not stand at the largest identifier. -/
theorem toNat_next_issue {α : Type} {c : IdCursor} {build : UInt32 → Option α} {a : α}
    (h : (c.issue build).1 = some a) :
    (c.issue build).2.next.toNat = c.next.toNat + 1 ∧ c.next.toNat + 1 < UInt32.size := by
  unfold issue at *
  by_cases hs : c.isSpent
  · simp [hs] at h
  · have hne : c.next ≠ UInt32.ofNat (UInt32.size - 1) := by simpa [isSpent] using hs
    have hlt : c.next.toNat + 1 < 4294967296 := by
      have := c.next.toNat_lt
      have hv : c.next.toNat ≠ 4294967295 := fun he => hne (UInt32.toNat_inj.1 (by simpa using he))
      omega
    simp only [hs, Bool.false_eq_true, if_false] at h ⊢
    split at h
    · simp at h
    · simp only [UInt32.toNat_add, UInt32.reduceToNat, UInt32.size]
      omega

end IdCursor

end FilterSync
