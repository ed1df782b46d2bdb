import FilterSync.Json.Basic
import FilterSync.Json.Magnitude

/-!
# Decoding documents

The rules by which documents become values. A structure is written as an object of
its fields or as an array of them in their order. In an object no field of the
structure may appear twice, and members that are not fields are passed over whatever
they hold. In an array the last fields may be missing; whether anything may follow the
fields depends on the notation of the document.

Each decoder returns nothing for a document that is no value of its type.
-/

namespace FilterSync.Json

/-! ## Plain values -/

/-- The text of a string. -/
def text? : Json → Option String
  | text s => some s
  | _ => none

/-- A truth value. -/
def bool? : Json → Option Bool
  | bool b => some b
  | _ => none

/-- A natural number below a bound. -/
def natBelow? (bound : Nat) : Json → Option Nat
  | number n => n.toNat?.bind fun k => if k < bound then some k else none
  | _ => none

/-- A number of sixteen bits. -/
def uint16? (j : Json) : Option UInt16 := (natBelow? UInt16.size j).map UInt16.ofNat

/-- A number of thirty-two bits. -/
def uint32? (j : Json) : Option UInt32 := (natBelow? UInt32.size j).map UInt32.ofNat

/-- A number of sixty-four bits. -/
def uint64? (j : Json) : Option UInt64 := (natBelow? UInt64.size j).map UInt64.ofNat

/-- The values of an array's items. -/
def array? {α : Type} (decode : Json → Option α) : Json → Option (List α)
  | array items => items.mapM decode
  | _ => none

/-- A value or `null`. -/
def optional? {α : Type} (decode : Json → Option α) : Json → Option (Option α)
  | null => some none
  | j => (decode j).map some

/-! ## Dialects -/

/-- What the rules leave to the notation in which a document is written. -/
structure Dialect where
  /-- Whether the payload of a choice counts as empty. -/
  isEmpty : Json → Bool
  /-- Whether an array of a structure's fields may have further items. -/
  allowsMore : Bool

/-- The rules for documents that are written in JSON. -/
def Dialect.plain : Dialect where
  isEmpty := isNull
  allowsMore := false

/-- One of some named values: its name, or an object whose only member has that name and
a payload that counts as empty. -/
def Dialect.choice? {α : Type} (dialect : Dialect) (ofName? : String → Option α) :
    Json → Option α
  | text s => ofName? s
  | object [(name, payload)] => if dialect.isEmpty payload then ofName? name else none
  | _ => none

/-! ## Structures -/

/-- What a document gives for each field of a structure. -/
abbrev Fields := String → Option Json

/-- How often a name occurs among members. -/
def occurrences (name : String) (members : List (String × Json)) : Nat :=
  members.countP (·.1 = name)

/-- The fields of a structure with the given field names. -/
def Dialect.fields? (dialect : Dialect) (names : List String) : Json → Option Fields
  | object members =>
    if names.all fun n => occurrences n members ≤ 1 then some (members.lookup ·) else none
  | array items =>
    if dialect.allowsMore || items.length ≤ names.length then some ((names.zip items).lookup ·)
    else none
  | _ => none

/-- The fields of a structure whose document is written in JSON. -/
def fields? (names : List String) (j : Json) : Option Fields := Dialect.plain.fields? names j

/-- A field that must be there. -/
def required? {α : Type} (fields : Fields) (name : String) (decode : Json → Option α) :
    Option α :=
  (fields name).bind decode

/-- A field that has a default. -/
def withDefault? {α : Type} (fields : Fields) (name : String) (default : α)
    (decode : Json → Option α) : Option α :=
  match fields name with
  | none => some default
  | some j => decode j

/-- A field that may be absent or `null`. -/
def absent? {α : Type} (fields : Fields) (name : String) (decode : Json → Option α) :
    Option (Option α) :=
  withDefault? fields name none (optional? decode)

/-! ## Limits of held documents -/

/-- The largest number of nested arrays and objects in a document that is held while its
meaning is open. -/
def maxDepth : Nat := 127

mutual

/-- Whether a document can be held at a nesting of `depth` more levels: its strings stand
for texts and its numbers stay finite when they are scaled. -/
def isHoldable : Nat → Json → Bool
  | _, null => true
  | _, bool _ => true
  | _, number n => n.isScalable
  | _, text _ => true
  | _, garbled => false
  | depth, array items => depth != 0 && areHoldable (depth - 1) items
  | depth, object members => depth != 0 && membersHoldable (depth - 1) members

/-- Whether every item can be held. -/
def areHoldable : Nat → List Json → Bool
  | _, [] => true
  | depth, j :: js => isHoldable depth j && areHoldable depth js

/-- Whether every member's document can be held. -/
def membersHoldable : Nat → List (String × Json) → Bool
  | _, [] => true
  | depth, (_, j) :: ms => isHoldable depth j && membersHoldable depth ms

end

end FilterSync.Json
