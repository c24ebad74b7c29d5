import SoundEffect.Text.Numeral
import SoundEffect.Text.Quoted

namespace SoundEffect.Log

inductive Level where
  | error
  | warn
  | info
  | debug
  | trace
  deriving DecidableEq, Repr

namespace Level

def name : Level → String
  | error => "ERROR"
  | warn => "WARN"
  | info => "INFO"
  | debug => "DEBUG"
  | trace => "TRACE"

def rank : Level → Nat
  | error => 1
  | warn => 2
  | info => 3
  | debug => 4
  | trace => 5

end Level

structure Event where
  level : Level
  target : String
  message : List Char
  fields : List (String × List Char)
  deriving DecidableEq, Repr

def steeringChars : List Char :=
  ['\x07', '\x08', '\x0c', '\x1b', '\x7f']

def messageChar (c : Char) : List Char :=
  if steeringChars.contains c then ['\\', 'x'] ++ Text.hexByte (UInt8.ofNat c.toNat)
  else if 0x80 ≤ c.toNat ∧ c.toNat ≤ 0x9F then Text.byNumber c
  else [c]

namespace Event

def hasField (event : Event) (name : List Char) : Bool :=
  name = "message".toList || event.fields.any fun field => field.1.toList = name

def line (event : Event) : List Char :=
  event.level.name.toList ++ [' '] ++ event.target.toList ++ ": ".toList ++
    event.message.flatMap messageChar ++
    event.fields.flatMap fun field => [' '] ++ field.1.toList ++ ['='] ++ field.2

end Event

end SoundEffect.Log
