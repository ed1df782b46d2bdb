import FilterSync.Filter.Options

/-!
# Match patterns

A filter that network matching can express is turned into a match pattern. Anchored
and wildcard forms stay as they are, up to one closing separator behind a domain
anchor; a bare host becomes a pattern for every scheme and path of that host.
-/

namespace FilterSync.Filter

open FilterSync.Text

/-- Anchors a pattern at a domain. -/
def domainAnchor : List Char := ['|', '|']

/-- Syntax that asks for more than network matching: element hiding and its exceptions,
extended selectors, snippets, and popups of a domain. -/
def unsupportedMarkers : List (List Char) :=
  [['#', '#'], ['#', '@', '#'], ['#', '?', '#'], ['#', '$', '#'],
    ['^', '$', 'p', 'o', 'p', 'u', 'p']]

/-- Whether a body is a comment or holds unsupported syntax anywhere, options included. -/
def isUnsupported (body : List Char) : Bool :=
  body.head? = some '!' || unsupportedMarkers.any (occurs · body)

/-- Whether a pattern has a wildcard, a separator or a path. -/
def isStructured (pattern : List Char) : Bool :=
  pattern.any fun c => c = '*' || c = '^' || c = '/'

/-- The match pattern of a filter's pattern part. -/
def anchor? (pattern : List Char) : Option (List Char) :=
  match after? domainAnchor pattern with
  | some domain =>
    let host := dropLast '^' domain
    if host.isEmpty then none else some (domainAnchor ++ host)
  | none =>
    if pattern.isEmpty then none
    else if pattern.head? = some '|' || isStructured pattern then some pattern
    else some ("*://".toList ++ pattern ++ "/*".toList)

/-- The match pattern of a filter's body, if it has one. -/
def matchPattern? (body : List Char) : Option (List Char) :=
  if isUnsupported body then none else anchor? (splitOptions body).1

end FilterSync.Filter
