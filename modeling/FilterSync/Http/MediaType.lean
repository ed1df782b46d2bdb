/-!
# Media types

A media type is a type and a subtype of token characters, with parameters behind
semicolons. A subtype may end in `+` and a suffix. Letters count without their case.

Only JSON media types are of interest: those of type `application` whose subtype or
suffix is `json`.
-/

namespace FilterSync.Http

/-- Characters of types, subtypes, and the names and plain values of parameters. -/
def isToken (c : Char) : Bool :=
  c.isAlphanum || "!#$%&'*+-.^_`|~".toList.contains c

/-- Characters of quoted values. -/
def isQuotable (c : Char) : Bool := 0x1F < c.toNat && c.toNat < 0x80 && c.toNat ≠ 0x7F

/-- What follows a quoted value: spaces, then the end or another parameter. -/
def afterQuoted? (s : List Char) : Option (List Char) :=
  match s.dropWhile (· = ' ') with
  | [] => some []
  | ';' :: s => some s
  | _ => none

/-- Passes over the value of a parameter, and the semicolon behind it. A quoted value is not
empty, so a quote directly behind the opening one belongs to the value. -/
def skipValue? (s : List Char) : Option (List Char) :=
  match s with
  | '"' :: first :: s =>
    if isQuotable first then
      match s.dropWhile (fun c => isQuotable c && c ≠ '"') with
      | '"' :: s => afterQuoted? s
      | _ => none
    else none
  | s =>
    match s.takeWhile isToken, s.dropWhile isToken with
    | _, [] => some []
    | _ :: _, ';' :: s => some s
    | _, _ => none

/-- Passes over a parameter, and the semicolon behind it. -/
def skipParameter? (s : List Char) : Option (List Char) :=
  match s.takeWhile isToken, s.dropWhile isToken with
  | _ :: _, '=' :: s => skipValue? s
  | _, _ => none

/-- Whether a text is a sequence of parameters. The fuel bounds their number. -/
def areParameters : Nat → List Char → Bool
  | 0, _ => false
  | fuel + 1, s =>
    match s.dropWhile (· = ' ') with
    | [] => true
    | s =>
      match skipParameter? s with
      | none => false
      | some rest => areParameters fuel rest

/-- The subtype without its suffix, and the suffix. -/
def splitSuffix (subtype : List Char) : List Char × Option (List Char) :=
  let tail := subtype.reverse.takeWhile (· ≠ '+')
  match subtype.reverse.dropWhile (· ≠ '+') with
  | '+' :: front => if front.isEmpty then (subtype, none) else (front.reverse, some tail.reverse)
  | _ => (subtype, none)

/-- Whether a content type says that the content is JSON. -/
def isJsonType (contentType : String) : Bool :=
  let s := contentType.toList
  match s.takeWhile isToken, s.dropWhile isToken with
  | type, '/' :: s =>
    let subtype := s.takeWhile isToken
    let parametersOk :=
      match s.dropWhile isToken with
      | [] => true
      | ';' :: s => !subtype.isEmpty && areParameters (s.length + 1) s
      | _ => false
    let (main, suffix) := splitSuffix (subtype.map Char.toLower)
    let json := "json".toList
    parametersOk && type.map Char.toLower = "application".toList &&
      (main = json || suffix = some json)
  | _, _ => false

end FilterSync.Http
