/-!
# Lines

A sequence is cut at each line feed; one carriage return directly before the line
feed belongs to the line's end and is dropped with it. What follows the last line
feed is a line of its own unless it is empty, and keeps a carriage return at its end.

The cut is written once for any alphabet with a line feed and a carriage return, so
that the lines of a text and the lines of its bytes are the same notion.
-/

namespace FilterSync.Text

variable {α : Type} [DecidableEq α]

/-- Drops one `cr` from the front of a line that is held in reverse. -/
def dropReturn (cr : α) : List α → List α
  | [] => []
  | a :: line => if a = cr then line else a :: line

/-- Cuts what is left of a sequence into lines, where `line` holds in reverse what the
current line has so far. -/
def cutLines (lf cr : α) (line : List α) : List α → List (List α)
  | [] => if line.isEmpty then [] else [line.reverse]
  | a :: rest =>
    if a = lf then (dropReturn cr line).reverse :: cutLines lf cr [] rest
    else cutLines lf cr (a :: line) rest

/-- The lines of a text. -/
def lines (text : List Char) : List (List Char) :=
  cutLines '\n' '\r' [] text

/-- The lines of a byte sequence. -/
def byteLines (bytes : List UInt8) : List (List UInt8) :=
  cutLines 0x0A 0x0D [] bytes

@[simp] theorem lines_nil : lines [] = [] := rfl

/-- A line feed closes the line in front of it. -/
theorem cutLines_append_lf (lf cr : α) (line a rest : List α) (h : lf ∉ a) :
    cutLines lf cr line (a ++ lf :: rest) =
      (dropReturn cr (a.reverse ++ line)).reverse :: cutLines lf cr [] rest := by
  induction a generalizing line with
  | nil => simp [cutLines]
  | cons x a ih =>
    rw [List.mem_cons, not_or] at h
    simp [cutLines, Ne.symm h.1, ih _ h.2]

/-- A sequence without a line feed is one line, or none when it is empty. -/
theorem cutLines_of_not_mem (lf cr : α) (line a : List α) (h : lf ∉ a) :
    cutLines lf cr line a =
      if (a.reverse ++ line).isEmpty then [] else [(a.reverse ++ line).reverse] := by
  induction a generalizing line with
  | nil => simp [cutLines]
  | cons x a ih =>
    rw [List.mem_cons, not_or] at h
    simp [cutLines, Ne.symm h.1, ih _ h.2]

end FilterSync.Text
