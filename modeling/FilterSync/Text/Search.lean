/-!
# Searching a text

The three questions that filter syntax asks of a text: does it begin with a given
marker, does it end with a given character, does a marker occur anywhere in it. The
first and second also say what is left once the marker is taken away.
-/

namespace FilterSync.Text

/-- What follows `lead` in a text that begins with it. -/
def after? (lead s : List Char) : Option (List Char) :=
  if lead.isPrefixOf s then some (s.drop lead.length) else none

/-- A text without `c` at its end, where at most one `c` is taken away. -/
def dropLast (c : Char) (s : List Char) : List Char :=
  if s.getLast? = some c then s.dropLast else s

/-- Whether `marker` occurs in a text as a run of neighbouring characters. -/
def occurs (marker : List Char) : List Char → Bool
  | [] => marker.isEmpty
  | c :: s => marker.isPrefixOf (c :: s) || occurs marker s

/-- The pieces of a text between the separators; one more than there are separators. -/
def pieces (separator : Char) : List Char → List (List Char)
  | [] => [[]]
  | c :: s =>
    if c = separator then [] :: pieces separator s
    else
      match pieces separator s with
      | [] => [[c]]
      | p :: ps => (c :: p) :: ps

theorem after?_eq_some_iff {lead s rest : List Char} :
    after? lead s = some rest ↔ s = lead ++ rest := by
  unfold after?
  constructor
  · intro h
    split at h
    · next hp =>
      obtain ⟨t, rfl⟩ := List.isPrefixOf_iff_prefix.1 hp
      simp_all
    · cases h
  · rintro rfl
    simp

theorem occurs_iff {marker s : List Char} : occurs marker s = true ↔ marker <:+: s := by
  induction s with
  | nil => simp [occurs]
  | cons c s ih =>
    simp only [occurs, Bool.or_eq_true, List.isPrefixOf_iff_prefix, ih, List.infix_cons_iff]

theorem pieces_ne_nil (separator : Char) (s : List Char) : pieces separator s ≠ [] := by
  cases s with
  | nil => simp [pieces]
  | cons c s => unfold pieces; split <;> (try split) <;> simp

end FilterSync.Text
