import SoundEffect.Log.Event
import SoundEffect.Log.Pattern
import SoundEffect.Text.Alphanumeric
import SoundEffect.Text.Basic

namespace SoundEffect.Log

structure Directive where
  target : Option (List Char)
  field : Option (List Char)
  inSpan : Bool
  limit : Nat
  deriving DecidableEq, Repr

namespace Directive

def general (limit : Nat) : Directive := ⟨none, none, false, limit⟩

def covers (directive : Directive) (event : Event) : Bool :=
  !directive.inSpan && directive.target.all (·.isPrefixOf event.target.toList) &&
    directive.field.all event.hasField

def reach (directive : Directive) : Nat :=
  match directive.target with
  | some target => target.length + 1
  | none => 0

def yieldsTo (directive other : Directive) : Bool :=
  if directive.reach ≠ other.reach then directive.reach < other.reach
  else
    match directive.field, other.field with
    | none, _ => true
    | some _, none => false
    | some field, some later => !later.lex field fun a b => a.toNat < b.toNat

def limitNames : List (List Char × Nat) :=
  [("off".toList, 0), ("error".toList, 1), ("warn".toList, 2), ("info".toList, 3),
    ("debug".toList, 4), ("trace".toList, 5)]

def limit? (text : List Char) : Option Nat :=
  match Text.unsigned? text with
  | some rank => if rank ≤ Level.trace.rank then some rank else none
  | none => limitNames.lookup (text.map Char.toLower)

/-- The characters of a trimmed text, each with the octets that have its place in the whole text.
The former are the signs that divide a directive, the latter make up its words. -/
abbrev Signs := List (Char × List UInt8)

def alongside : List Char → List UInt8 → Signs
  | [], _ => []
  | c :: text, octets =>
      (c, octets.take c.utf8Size) :: alongside text (octets.drop c.utf8Size)

def octets (signs : Signs) : List UInt8 :=
  signs.flatMap (·.2)

def word? (signs : Signs) (rest : List UInt8) : Option (List Char) :=
  (Text.ofUtf8? (octets signs ++ rest)).map String.toList

def beforeStop (stops : List Char) (signs : Signs) : Signs :=
  signs.takeWhile fun sign => !stops.contains sign.1

def fromStop (stops : List Char) (signs : Signs) : Signs :=
  signs.dropWhile fun sign => !stops.contains sign.1

def levelPart (signs : Signs) (rest : List UInt8) : Option Nat := do
  let text ← word? signs rest
  if text.isEmpty then some Level.trace.rank else limit? text

def afterBrackets (rest : List UInt8) : Signs → Option Nat
  | [] => some Level.trace.rank
  | ('=', _) :: signs => levelPart signs rest
  | _ => none

def field? (text : List Char) : Option (List Char × Bool) :=
  match Text.splitOn '=' text with
  | [name] => if name.isEmpty then none else some (name, false)
  | name :: value :: _ => if Pattern.isValue value then some (name, true) else none
  | [] => none

def bracketed (target : Option (List Char)) (signs : Signs) (rest : List UInt8) :
    Option Directive :=
  match fromStop [']', '\x7b'] signs with
  | (']', _) :: signs => (afterBrackets rest signs).map fun limit => ⟨target, none, true, limit⟩
  | (_, _) :: inner =>
      match fromStop ['\x7d'] inner with
      | _ :: (']', _) :: after => do
          let span ← word? (beforeStop [']', '\x7b'] signs) []
          let (field, valued) ← field? (← word? (beforeStop ['\x7d'] inner) [])
          return ⟨target, some field, !span.isEmpty || valued, ← afterBrackets rest after⟩
      | _ => none
  | [] => none

def plain (text : List Char) : Directive :=
  match limit? text with
  | some limit => general limit
  | none => ⟨some text, none, false, Level.trace.rank⟩

def isFirst (c : Char) : Bool :=
  Text.isAlphanumeric c || c = '-' || c = ':' || c = '_'

/-- Blanks around a directive do not hide its first sign, but they belong to its words. -/
def ofText? (text : List Char) : Option Directive :=
  let body := Text.trim text
  let whole := Text.utf8 text
  let rest := whole.drop (Text.utf8 body).length
  match alongside body whole with
  | [] => none
  | ('[', _) :: signs => bracketed none signs rest
  | (first, octets) :: signs =>
      if isFirst first then
        match fromStop ['=', '['] signs with
        | [] => some (plain text)
        | (stop, _) :: after => do
            let target ← word? ((first, octets) :: beforeStop ['=', '['] signs) []
            if stop = '=' then return ⟨some target, none, false, ← levelPart after rest⟩
            else bracketed (some target) after rest
      else none

end Directive

end SoundEffect.Log
