import FilterSync.Json.Reader
import FilterSync.Sync.Message

/-!
# Bodies of message requests

A body is a message, possibly with other text behind it. A body that is not is refused
either because it is not JSON or because it is JSON but no message. A body can be both,
and then the fault that is met first from the left decides: a second `type` member or a
`type` that names no request is met where it stands, a missing `type` or a bad field
only at the end of the document.
-/

namespace FilterSync.Http

open Json (skipBlanks)

/-- Why a body is refused. -/
inductive BodyFault
  | notJson
  | notMessage
  deriving DecidableEq, Repr

/-- The fault of a document that stands where a type is expected, if it is one. A string
has to be read to its end, an array or an object has not. -/
def typeFault? (s : List Char) : Option BodyFault :=
  match skipBlanks s with
  | '[' :: _ => some .notMessage
  | '\x7b' :: _ => some .notMessage
  | s =>
    match Json.take? s with
    | none => some .notJson
    | some (.text name, _) =>
      if (Message.Kind.ofName? name).isSome then none else some .notMessage
    | some (j, _) => if Json.isHoldable Json.maxDepth j then some .notMessage else some .notJson

/-- The first fault among the items of an array behind its type. -/
def itemsFault : Nat → List Char → BodyFault
  | 0, _ => .notJson
  | fuel + 1, s =>
    match skipBlanks s with
    | ']' :: _ => .notMessage
    | ',' :: s =>
      match Json.take? s with
      | none => .notJson
      | some (j, s) =>
        if Json.isHoldable (Json.maxDepth - 1) j then itemsFault fuel s else .notJson
    | _ => .notJson

/-- The first fault among the members of an object, from the name of one of them on. -/
def membersFault : Nat → Bool → List Char → BodyFault
  | 0, _, _ => .notJson
  | fuel + 1, typed, s =>
    match skipBlanks s with
    | '"' :: s =>
      match Json.literal? s with
      | some (some name, s) =>
        if typed && name = Message.typeName then .notMessage
        else
          match skipBlanks s with
          | ':' :: s =>
            match (if name = Message.typeName then typeFault? s else none) with
            | some fault => fault
            | none =>
              match Json.take? s with
              | none => .notJson
              | some (j, s) =>
                if Json.isHoldable (Json.maxDepth - 1) j then
                  match skipBlanks s with
                  | ',' :: s => membersFault fuel (typed || name = Message.typeName) s
                  | '\x7d' :: _ => .notMessage
                  | _ => .notJson
                else .notJson
          | _ => .notJson
      | _ => .notJson
    | _ => .notJson

/-- The first fault of a body that is no message. -/
def bodyFault (s : List Char) : BodyFault :=
  match skipBlanks s with
  | '\x7b' :: s =>
    match skipBlanks s with
    | '\x7d' :: _ => .notMessage
    | s => membersFault (s.length + 1) false s
  | '[' :: s =>
    match skipBlanks s with
    | ']' :: _ => .notMessage
    | s =>
      match typeFault? s with
      | some fault => fault
      | none =>
        match Json.take? s with
        | none => .notJson
        | some (_, s) => itemsFault (s.length + 1) s
  | s =>
    match Json.take? s with
    | some (j, _) => if Json.isHoldable Json.maxDepth j then .notMessage else .notJson
    | none => .notJson

/-- The message of a body. -/
def messageOfBody (body : String) : Except BodyFault Message :=
  match (Json.take? body.toList).bind fun (j, _) => Message.ofJson? j with
  | some m => .ok m
  | none => .error (bodyFault body.toList)

end FilterSync.Http
