import FilterSync.Text.Blank
import FilterSync.Text.Search

/-!
# Lines of a filter list

A line of a list is a remark, an exception or an ordinary filter. Reading a line
never fails: whether a filter's body can be compiled is decided later.
-/

namespace FilterSync.Filter

open FilterSync.Text

/-- What one line of a filter list says. -/
inductive Line
  /-- An empty line, a comment, metadata or a section header. -/
  | skip
  /-- A filter whose matches are let through. -/
  | allow (body : List Char)
  /-- A filter whose matches are blocked. -/
  | block (body : List Char)
  deriving DecidableEq, Repr

/-- Marks an exception. -/
def allowMarker : List Char := ['@', '@']

namespace Line

/-- Whether a trimmed line is a remark: it is empty or begins with `!`, `#` or `[`. -/
def isRemark : List Char → Bool
  | [] => true
  | c :: _ => c == '!' || c == '#' || c == '['

/-- Reads a line, blanks at both ends not counting. -/
def read (text : List Char) : Line :=
  let s := trim text
  if isRemark s then skip
  else
    match after? allowMarker s with
    | some body => allow body
    | none => block s

/-- The body of a filter and whether it is an exception. -/
def filter? : Line → Option (List Char × Bool)
  | skip => none
  | allow body => some (body, true)
  | block body => some (body, false)

end Line

end FilterSync.Filter
