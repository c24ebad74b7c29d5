import SoundEffect.Json.Reader

namespace SoundEffect.Json

/-- Integers have 64 bits, with or without a sign; every other number counts as floating point. -/
inductive Number where
  | integer (value : Int)
  | floatingPoint
  deriving DecidableEq, Repr

structure Numeral where
  negative : Bool
  whole : List Nat
  fraction : Option (List Nat)
  exponent : Option Int
  deriving DecidableEq, Repr

def isDigit (byte : UInt8) : Bool :=
  '0'.toUInt8 ≤ byte && byte ≤ '9'.toUInt8

def digitValue (byte : UInt8) : Nat :=
  byte.toNat - '0'.toNat

def digits : Reader (List Nat) := do
  if isDigit (← peek) then
    fun text => .ok ((text.takeWhile isDigit).map digitValue, text.dropWhile isDigit)
  else throw .malformed

def wholePart : Reader (List Nat) := do
  match ← digits with
  | 0 :: _ :: _ => throw .malformed
  | whole => return whole

def fractionPart : Reader (Option (List Nat)) := do
  match ← nextIf (· = '.'.toUInt8) with
  | some _ => return some (← digits)
  | none => return none

def exponentPart : Reader (Option Int) := do
  match ← nextIf (fun byte => byte = 'e'.toUInt8 || byte = 'E'.toUInt8) with
  | some _ =>
      let sign ← nextIf (fun byte => byte = '+'.toUInt8 || byte = '-'.toUInt8)
      let magnitude : Nat := (← digits).foldl (fun value digit => value * 10 + digit) 0
      return some (if sign = some '-'.toUInt8 then -magnitude else magnitude)
  | none => return none

def numeral : Reader Numeral := do
  let sign ← nextIf (· = '-'.toUInt8)
  let whole ← wholePart
  let fraction ← fractionPart
  let exponent ← exponentPart
  return ⟨sign.isSome, whole, fraction, exponent⟩

def wordLimit : Nat := 18446744073709551616

def appendDigits (significand : Nat) : List Nat → Nat × Nat
  | [] => (significand, 0)
  | digit :: rest =>
      if significand * 10 + digit < wordLimit then appendDigits (significand * 10 + digit) rest
      else (significand, rest.length + 1)

/-- The nearest number with a significand of 53 bits; a tie goes to the even one. -/
def nearestDouble (n : Nat) : Nat :=
  let excess := n.log2 + 1 - 53
  let floor := n >>> excess
  let rest := n - floor <<< excess
  let unit := 1 <<< excess
  if unit < 2 * rest ∨ (unit = 2 * rest ∧ floor % 2 = 1) then (floor + 1) <<< excess
  else floor <<< excess

/-- Halfway between the greatest finite double and the power of two that would be the next. -/
def doubleLimit : Nat :=
  1 <<< 1024 - 1 <<< 970

namespace Numeral

def scaled (numeral : Numeral) : Nat × Int :=
  let fraction := numeral.fraction.getD []
  let (significand, dropped) := appendDigits 0 numeral.whole
  let (extended, ignored) := appendDigits significand fraction
  (extended, numeral.exponent.getD 0 + dropped - (fraction.length - ignored))

def overflows (numeral : Numeral) : Bool :=
  let (significand, exponent) := numeral.scaled
  if significand = 0 ∨ exponent < 0 then false
  else if 308 < exponent then true
  else doubleLimit ≤ nearestDouble significand * nearestDouble (Nat.pow 10 exponent.toNat)

def integer? (numeral : Numeral) : Option Int :=
  match numeral.fraction, numeral.exponent, appendDigits 0 numeral.whole with
  | none, none, (magnitude, 0) =>
      if numeral.negative then
        if magnitude = 0 ∨ wordLimit < 2 * magnitude then none else some (-magnitude)
      else some magnitude
  | _, _, _ => none

end Numeral

def number : Reader Number := do
  let numeral ← numeral
  match numeral.integer? with
  | some value => return .integer value
  | none => if numeral.overflows then throw .malformed else return .floatingPoint

def skippedNumber : Reader Unit := fun text =>
  match numeral text with
  | .ok (_, rest) => .ok ((), rest)
  | .error _ => .error .malformed

end SoundEffect.Json
