import SoundEffect.Control
import SoundEffect.Json.Fault
import SoundEffect.Text.Basic
import SoundEffect.Text.Numeral

namespace SoundEffect.Control

def flags (control : Control) : List Char :=
  List.intercalate " | ".toList (control.lines.map fun line => line.name.toList)

def hexByte? (digits : List Char) : Option UInt8 :=
  let unsigned :=
    match digits with
    | '+' :: rest => rest
    | _ => digits
  if unsigned.isEmpty then .none
  else
    match Text.hexDigits? 0 unsigned with
    | some value => if value < 256 then some (UInt8.ofNat value) else .none
    | .none => .none

def ofFlag (part : List Char) : Except Json.DataFault Control :=
  match part with
  | [] => .error .emptyFlag
  | '0' :: 'x' :: digits =>
      match hexByte? digits with
      | some bits => .ok ⟨bits⟩
      | .none => .error .invalidHexFlag
  | _ =>
      match ControlLine.ofName? (String.ofList part) with
      | some line => .ok (Control.none.raise line)
      | .none => .error .unrecognizedFlag

def unionOfFlags : List (List Char) → Except Json.DataFault Control
  | [] => .ok .none
  | part :: rest => do
      let first ← ofFlag (Text.trim part)
      return first.union (← unionOfFlags rest)

def ofFlags (text : List Char) : Except Json.DataFault Control :=
  if (Text.trim text).isEmpty then .ok .none else unionOfFlags (Text.splitOn '|' text)

end SoundEffect.Control
