import SoundEffect.Json.Number
import SoundEffect.Json.Spelling

namespace SoundEffect.Json

def kind : Reader Found := do
  let byte ← ahead
  if byte = 'n'.toUInt8 then
    word "null".toList
    return .null
  else if byte = 't'.toUInt8 then
    word "true".toList
    return .boolean true
  else if byte = 'f'.toUInt8 then
    word "false".toList
    return .boolean false
  else if byte = '-'.toUInt8 || isDigit byte then
    match ← number with
    | .integer value => return .integer value
    | .floatingPoint => return .floatingPoint
  else if byte = 0x22 then return .text (← text)
  else if byte = '['.toUInt8 then return .sequence
  else if byte = '\x7b'.toUInt8 then return .map
  else throw .malformed

def wrongKind {α : Type} (expected : String) : Reader α := do
  throw (.data (.wrongKind (← kind) expected))

def integer (low high : Int) (expected : String) : Reader Int := do
  let byte ← ahead
  if byte = '-'.toUInt8 || isDigit byte then
    match ← number with
    | .integer value =>
        if low ≤ value ∧ value ≤ high then return value
        else throw (.data (.outOfRange value expected))
    | .floatingPoint => throw (.data (.wrongKind .floatingPoint expected))
  else wrongKind expected

def uint8 : Reader UInt8 :=
  return UInt8.ofNat (← integer 0 255 "u8").toNat

def uint16 : Reader UInt16 :=
  return UInt16.ofNat (← integer 0 65535 "u16").toNat

def uint32 : Reader UInt32 :=
  return UInt32.ofNat (← integer 0 4294967295 "u32").toNat

def int16 : Reader Int16 :=
  return Int16.ofInt (← integer (-32768) 32767 "i16")

def size : Reader Nat :=
  return (← integer 0 18446744073709551615 "usize").toNat

def textOf (expected : String) : Reader String := do
  if (← ahead) = 0x22 then text else wrongKind expected

def nothing (expected : String) : Reader Unit := do
  if (← ahead) = 'n'.toUInt8 then word "null".toList else wrongKind expected

def named {α : Type} (choices : List (String × α)) (name : String) : Reader α :=
  match choices.lookup name with
  | some value => return value
  | none => throw (.data (.unknownName name (choices.map (·.1))))

def oneOf {α : Type} (choices : List (String × α)) : Reader α := do
  let byte ← ahead
  if byte = 0x22 then named choices (← text)
  else if byte = '\x7b'.toUInt8 then
    token '\x7b'
    let value ← named choices (← text)
    token ':'
    nothing "unit"
    token '\x7d'
    return value
  else throw .malformed

end SoundEffect.Json
