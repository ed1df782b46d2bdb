/-!
# JSON documents

A document is kept as it is written: the members of an object stay in order and may
repeat a name, and a number keeps its digits. What a document means is decided by
whoever decodes it.

A string literal may escape half of a surrogate pair without the other half. Such a
literal is well formed but stands for no text. It becomes the document `garbled`, and
so does an object with such a name: no decoder accepts it, and one that passes over a
member does not look at it.
-/

namespace FilterSync

/-- The exponent of a number. -/
structure Json.Exponent where
  /-- Written with `E` instead of `e`. -/
  capital : Bool
  /-- The written sign, `true` for minus. -/
  minus? : Option Bool
  /-- The first digit. -/
  first : Fin 10
  /-- The other digits. -/
  more : List (Fin 10)
  deriving DecidableEq, Repr

/-- A number literal. Each literal has one such description and each description is one
literal. -/
structure Json.Number where
  /-- Written with a minus sign. -/
  negative : Bool
  /-- The digits in front of the point. -/
  whole : Nat
  /-- The digits behind the point; none without a point. -/
  fraction : List (Fin 10)
  /-- The exponent, if there is one. -/
  exponent : Option Json.Exponent
  deriving DecidableEq, Repr

/-- A JSON document. -/
inductive Json
  | null
  | bool (value : Bool)
  | number (value : Json.Number)
  | text (value : String)
  /-- A string, or an object with a name, that stands for no text. -/
  | garbled
  | array (items : List Json)
  | object (members : List (String × Json))
  deriving Inhabited

namespace Json

/-- The literal of a natural number. -/
def Number.ofNat (n : Nat) : Number := ⟨false, n, [], none⟩

/-- The natural number that a literal without sign, point and exponent writes. -/
def Number.toNat? (n : Number) : Option Nat :=
  if n.negative || !n.fraction.isEmpty || n.exponent.isSome then none else some n.whole

@[simp] theorem Number.toNat?_ofNat (n : Nat) : (Number.ofNat n).toNat? = some n := rfl

/-- The document of a natural number. -/
def nat (n : Nat) : Json := number (.ofNat n)

/-- The document of an optional value, `null` when it is absent. -/
def optional {α : Type} (encode : α → Json) : Option α → Json
  | none => null
  | some a => encode a

/-- Whether the document is `null`. -/
def isNull : Json → Bool
  | null => true
  | _ => false

end Json

end FilterSync
