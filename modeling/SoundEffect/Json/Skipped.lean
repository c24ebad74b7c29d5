import SoundEffect.Json.Number
import SoundEffect.Json.Spelling

namespace SoundEffect.Json

inductive Bracket where
  | sequence
  | map
  deriving DecidableEq, Repr

namespace Bracket

def opening : Bracket → Char
  | sequence => '['
  | map => '\x7b'

def closing : Bracket → Char
  | sequence => ']'
  | map => '\x7d'

end Bracket

inductive Position where
  | value (within : List Bracket)
  | separator (bracket : Bracket) (within : List Bracket)

def ended : List Bracket → Round Position Unit
  | [] => .done ()
  | bracket :: within => .again (.separator bracket within)

def skippedKey : Bracket → Reader Unit
  | .sequence => pure ()
  | .map => do
      skippedText
      token ':'

def skipOpening (bracket : Bracket) (within : List Bracket) : Reader (Round Position Unit) := do
  token bracket.opening
  if (← ahead) = bracket.closing.toUInt8 then
    token bracket.closing
    return ended within
  else
    skippedKey bracket
    return .again (.value (bracket :: within))

def skipValue (within : List Bracket) : Reader (Round Position Unit) := do
  let byte ← ahead
  if byte = '['.toUInt8 then skipOpening .sequence within
  else if byte = '\x7b'.toUInt8 then skipOpening .map within
  else
    if byte = 'n'.toUInt8 then word "null".toList
    else if byte = 't'.toUInt8 then word "true".toList
    else if byte = 'f'.toUInt8 then word "false".toList
    else if byte = 0x22 then skippedText
    else if byte = '-'.toUInt8 || isDigit byte then skippedNumber
    else throw .malformed
    return ended within

def skipSeparator (bracket : Bracket) (within : List Bracket) : Reader (Round Position Unit) := do
  let byte ← ahead
  if byte = ','.toUInt8 then
    token ','
    skippedKey bracket
    return .again (.value (bracket :: within))
  else
    token bracket.closing
    return ended within

def skipRound : Position → Reader (Round Position Unit)
  | .value within => skipValue within
  | .separator bracket within => skipSeparator bracket within

def skipped : Reader Unit :=
  loop skipRound (.value [])

end SoundEffect.Json
