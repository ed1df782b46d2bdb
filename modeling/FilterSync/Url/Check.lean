import FilterSync.Url.Host

/-!
# Whether a text is a URL

A URL starts with a scheme and a colon. The special schemes have a host that is a domain
name or an address, and any number of slashes of either kind in front of it; files may go
without a host. Other schemes have a host only behind two slashes. Paths, queries and
fragments are free of faults.
-/

namespace FilterSync.Url

/-- What a scheme demands of the text behind it. -/
inductive Scheme
  /-- A host, with or without slashes in front of it. -/
  | special
  /-- Perhaps a host. -/
  | file
  | other
  deriving DecidableEq, Repr

/-- The scheme of a name in small letters. -/
def Scheme.ofName (name : String) : Scheme :=
  if name = "file" then .file
  else if ["http", "https", "ws", "wss", "ftp"].contains name then .special
  else .other

/-- Whether a character may stand in the name of a scheme behind its first letter. -/
def isSchemeChar (c : Char) : Bool := c.isAlphanum || c = '+' || c = '-' || c = '.'

/-- Splits a text behind the colon of its scheme. -/
def scheme? (s : List Char) : Option (Scheme × List Char) :=
  let name := s.takeWhile isSchemeChar
  match s.drop name.length with
  | ':' :: rest =>
    if name.head?.any Char.isAlpha then
      some (.ofName (String.ofList (name.map Char.toLower)), rest)
    else none
  | _ => none

/-- Whether a character is a slash of either kind. -/
def isSlash (c : Char) : Bool := c = '/' || c = '\\'

/-- Whether a character ends an authority. -/
def endsAuthority (isSpecial : Bool) (c : Char) : Bool :=
  c = '/' || c = '?' || c = '#' || (isSpecial && c = '\\')

/-- Splits a text in front of the first colon that is not in brackets. -/
def splitHost (inBrackets : Bool) : List Char → List Char × List Char
  | [] => ([], [])
  | c :: s =>
    if c = ':' && !inBrackets then ([], c :: s)
    else
      let (host, rest) := splitHost (c = '[' || (inBrackets && c ≠ ']')) s
      (c :: host, rest)

/-- What is wrong with what follows a host. A backslash ends a port. -/
def portFault? (s : List Char) : Option Fault :=
  match s with
  | ':' :: s =>
    let digits := s.takeWhile Char.isDigit
    let rest := s.drop digits.length
    if (Text.numeral? 10 digits).all (· < UInt16.size) && rest.head?.all (· = '\\') then none
    else some .badPort
  | _ => none

/-- What is wrong with the host and the port of an authority. -/
def hostPortFault? (isSpecial hasUser : Bool) (s : List Char) : Option Fault :=
  let (host, port) := splitHost false s
  if host.isEmpty then
    if isSpecial || hasUser || !port.isEmpty then some .emptyHost else none
  else (hostFault? isSpecial host).orElse fun _ => portFault? port

/-- What is wrong with the authority at the front of a text. It is a user in front of the last
at sign, a host, and a port. -/
def authorityFault? (isSpecial : Bool) (s : List Char) : Option Fault :=
  let authority := s.takeWhile (!endsAuthority isSpecial ·)
  let place := (authority.reverse.takeWhile (· ≠ '@')).reverse
  let user := authority.take (authority.length - place.length - 1)
  if authority = ['@'] && authority.length < s.length then some .emptyHost
  else hostPortFault? isSpecial (!user.isEmpty && user ≠ [':']) place

/-- Whether a text is a letter and a colon or a bar. -/
def isDrive : List Char → Bool
  | [letter, c] => letter.isAlpha && (c = ':' || c = '|')
  | _ => false

/-- What is wrong with the text behind the scheme of a file. -/
def fileFault? (s : List Char) : Option Fault :=
  match s with
  | a :: b :: s =>
    let host := s.takeWhile fun c => !endsAuthority true c
    if isSlash a && isSlash b && !host.isEmpty && !isDrive host then hostFault? true host
    else none
  | _ => none

/-- The text that counts: no spaces or control characters at its ends, and no tabs or line
ends anywhere. -/
def strip (s : List Char) : List Char :=
  let isOuter : Char → Bool := fun c => c.toNat ≤ 0x20
  let s := ((s.dropWhile isOuter).reverse.dropWhile isOuter).reverse
  s.filter fun c => c ≠ '\t' && c ≠ '\n' && c ≠ '\r'

/-- Why a text is no URL, if it is none. -/
def fault? (text : String) : Option Fault :=
  match scheme? (strip text.toList) with
  | none => some .noScheme
  | some (.special, s) => authorityFault? true (s.dropWhile isSlash)
  | some (.file, s) => fileFault? s
  | some (.other, '/' :: '/' :: s) => authorityFault? false s
  | some (.other, _) => none

example : fault? "http:/x" = none ∧ fault? "https://u:p@/" = some .emptyHost := by decide +kernel

example : fault? "x://a:80:90" = some .badPort ∧ fault? "//x" = some .noScheme := by
  decide +kernel

end FilterSync.Url
