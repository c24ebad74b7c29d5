import SoundEffect.Json.Skipped
import SoundEffect.Json.Value
import SoundEffect.Json.Written

namespace SoundEffect.Json

def anotherElement (isFirst : Bool) : Reader Bool := do
  let byte ← ahead
  if byte = ']'.toUInt8 then return false
  else if isFirst then return true
  else
    token ','
    if (← ahead) = ']'.toUInt8 then throw .malformed else return true

def elementRound {α : Type} (element : Reader α) (elements : List α) :
    Reader (Round (List α) (List α)) := do
  if ← anotherElement elements.isEmpty then return .again ((← element) :: elements)
  else return .done elements.reverse

def sequenceOf {α : Type} (element : Reader α) : Reader (List α) := do
  if (← ahead) = '['.toUInt8 then
    token '['
    let elements ← loop (elementRound element) []
    token ']'
    return elements
  else wrongKind "a sequence"

/-- A member of a record: how it is written, and how it is read into a record that has none yet or
the default. Only an optional member may be missing. -/
structure Member (α : Type) where
  name : String
  optional : Bool
  write : α → Scalar
  read : α → Reader α

structure Shape (α : Type) where
  name : String
  blank : α
  members : List (Member α)

structure Draft (α : Type) where
  value : α
  read : List String

namespace Shape

variable {α : Type}

def record (shape : Shape α) (value : α) : Record :=
  shape.members.map fun member => (member.name, member.write value)

def member? (shape : Shape α) (name : String) : Option (Member α) :=
  shape.members.find? (·.name = name)

def missing? (shape : Shape α) (draft : Draft α) : Option (Member α) :=
  shape.members.find? fun member => !member.optional && !draft.read.contains member.name

def finish (shape : Shape α) (draft : Draft α) : Reader α :=
  match shape.missing? draft with
  | some member => throw (.data (.missing member.name))
  | none => return draft.value

def anotherKey (isFirst : Bool) : Reader Bool := do
  let byte ← ahead
  if byte = '\x7d'.toUInt8 then return false
  else
    if isFirst then pure () else token ','
    if (← ahead) = 0x22 then return true else throw .malformed

def memberRound (shape : Shape α) : Bool × Draft α → Reader (Round (Bool × Draft α) α)
  | (isFirst, draft) => do
      if ← anotherKey isFirst then
        let name ← text
        match shape.member? name with
        | none =>
            token ':'
            skipped
            return .again (false, draft)
        | some member =>
            if draft.read.contains name then throw (.data (.duplicate name))
            else
              token ':'
              return .again (false, ⟨← member.read draft.value, name :: draft.read⟩)
      else return .done (← shape.finish draft)

def ofMap (shape : Shape α) : Reader α := do
  token '\x7b'
  let value ← loop shape.memberRound (true, ⟨shape.blank, []⟩)
  token '\x7d'
  return value

def ofElements (shape : Shape α) : Nat → List (Member α) → α → Reader α
  | _, [], value => return value
  | count, member :: rest, value => do
      if ← anotherElement (count = 0) then
        ofElements shape (count + 1) rest (← member.read value)
      else if (member :: rest).all (·.optional) then return value
      else
        throw (.data (.wrongLength count
          (shape.name ++ " with " ++ toString shape.members.length ++ " elements")))

def ofList (shape : Shape α) : Reader α := do
  token '['
  let value ← shape.ofElements 0 shape.members shape.blank
  token ']'
  return value

def reader (shape : Shape α) : Reader α := do
  let byte ← ahead
  if byte = '\x7b'.toUInt8 then shape.ofMap
  else if byte = '['.toUInt8 then shape.ofList
  else wrongKind shape.name

end Shape

end SoundEffect.Json
