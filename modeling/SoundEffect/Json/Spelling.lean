import SoundEffect.Json.Reader
import SoundEffect.Text.Basic

namespace SoundEffect.Json

def shortEscapes : List (Char × UInt8) :=
  [('\x22', 0x22), ('\\', 0x5C), ('/', 0x2F), ('b', 0x08), ('f', 0x0C), ('n', 0x0A), ('r', 0x0D),
    ('t', 0x09)]

def shortEscape? (letter : UInt8) : Option UInt8 :=
  (shortEscapes.find? fun entry => entry.1.toUInt8 = letter).map (·.2)

def hexadecimal? (byte : UInt8) : Option Nat :=
  if '0'.toUInt8 ≤ byte ∧ byte ≤ '9'.toUInt8 then some (byte.toNat - '0'.toNat)
  else if 'a'.toUInt8 ≤ byte ∧ byte ≤ 'f'.toUInt8 then some (byte.toNat - 'a'.toNat + 10)
  else if 'A'.toUInt8 ≤ byte ∧ byte ≤ 'F'.toUInt8 then some (byte.toNat - 'A'.toNat + 10)
  else none

def codeUnit : Reader Nat
  | a :: b :: c :: d :: rest =>
      match hexadecimal? a, hexadecimal? b, hexadecimal? c, hexadecimal? d with
      | some a, some b, some c, some d => .ok (((a * 16 + b) * 16 + c) * 16 + d, rest)
      | _, _, _, _ => .error .malformed
  | _ => .error .truncated

def isHighSurrogate (unit : Nat) : Bool :=
  0xD800 ≤ unit && unit < 0xDC00

def isLowSurrogate (unit : Nat) : Bool :=
  0xDC00 ≤ unit && unit < 0xE000

def codePoint : Reader Char := do
  let unit ← codeUnit
  if isLowSurrogate unit then throw .malformed
  else if isHighSurrogate unit then
    word ['\\', 'u']
    let low ← codeUnit
    if isLowSurrogate low then
      return Char.ofNat ((unit - 0xD800) * 0x400 + (low - 0xDC00) + 0x10000)
    else throw .malformed
  else return Char.ofNat unit

def escape : Reader (List UInt8) := do
  let letter ← next
  if letter = 'u'.toUInt8 then return Text.utf8 [← codePoint]
  else
    match shortEscape? letter with
    | some byte => return [byte]
    | none => throw .malformed

def skippedEscape : Reader (List UInt8) := do
  let letter ← next
  if letter = 'u'.toUInt8 then
    let _ ← codeUnit
    return []
  else if (shortEscape? letter).isSome then return []
  else throw .malformed

def spellRound (escape : Reader (List UInt8)) (spelled : List UInt8) :
    Reader (Round (List UInt8) (List UInt8)) := do
  let byte ← next
  if byte = 0x22 then return .done spelled.reverse
  else if byte = '\\'.toUInt8 then return .again ((← escape).reverse ++ spelled)
  else if byte < 0x20 then throw .malformed
  else return .again (byte :: spelled)

def text : Reader String := do
  token '\x22'
  match Text.ofUtf8? (← loop (spellRound escape) []) with
  | some text => return text
  | none => throw .malformed

def skippedText : Reader Unit := do
  token '\x22'
  let _ ← loop (spellRound skippedEscape) []

end SoundEffect.Json
