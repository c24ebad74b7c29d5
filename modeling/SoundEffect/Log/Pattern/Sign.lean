import SoundEffect.Log.Pattern.Mode
import SoundEffect.Text.Numeral

namespace SoundEffect.Log.Pattern

inductive Sign where
  | literal (c : Char) (octet : Bool)
  | any
  | textEdge
  | wordEdge
  | kind (negated : Bool)
  deriving DecidableEq, Repr

namespace Sign

def isLegal (mode : Mode) : Sign → Bool
  | literal c octet => if mode.unicode then !mode.ignoreCase else !octet || c.toNat < 128
  | any => mode.unicode
  | kind negated => !mode.unicode && !negated
  | textEdge | wordEdge => true

def isMember (mode : Mode) : Sign → Bool
  | literal c _ => if mode.unicode then !mode.ignoreCase else c.toNat < 128
  | kind negated => !mode.unicode && !negated
  | any | textEdge | wordEdge => false

end Sign

def isHexDigit (c : Char) : Bool :=
  (Text.hexDigit? c).isSome

def ofDigits? (digits : List Char) : Option Char := do
  let number ← Text.hexDigits? 0 digits
  if digits.isEmpty || !number.isValidChar then none else return Char.ofNat number

def digitCount (letter : Char) : Nat :=
  if letter = 'x' then 2 else if letter = 'u' then 4 else 8

def numbered? (mode : Mode) (letter : Char) (text : List Char) : Option (Sign × List Char) :=
  match mode.skip text with
  | '\x7b' :: text =>
      match mode.run isHexDigit text.length (mode.skip text) with
      | (digits, '\x7d' :: rest) =>
          (ofDigits? digits).map fun c => (.literal c false, mode.skip rest)
      | _ => none
  | text =>
      let (digits, rest) := mode.run isHexDigit (digitCount letter) text
      if digits.length = digitCount letter then
        (ofDigits? digits).map fun c => (.literal c (letter = 'x'), rest)
      else none

def edgeNames : List String :=
  ["start", "end", "start-half", "end-half"]

def isEdgeLetter (c : Char) : Bool :=
  c.isAlpha || c = '-'

def afterWordEdge? (mode : Mode) (text : List Char) : Option (List Char) :=
  match text with
  | '\x7b' :: inner =>
      match mode.run isEdgeLetter inner.length (mode.skip inner) with
      | ([], []) => none
      | ([], _) => some text
      | (name, '\x7d' :: rest) =>
          if edgeNames.contains (String.ofList name) then some rest else none
      | _ => none
  | _ => some text

def isMark (c : Char) : Bool :=
  c.toNat < 128 && !c.isAlphanum && c ≠ '<' && c ≠ '>'

def controls : List (Char × Char) :=
  [('a', '\x07'), ('f', '\x0c'), ('t', '\t'), ('n', '\n'), ('r', '\r'), ('v', '\x0b')]

def escape? (mode : Mode) : List Char → Option (Sign × List Char)
  | [] => none
  | c :: text =>
      if isMark c then some (.literal c false, text)
      else if c = 'x' || c = 'u' || c = 'U' then numbered? mode c text
      else if "dsw".toList.contains c then some (.kind false, text)
      else if "DSW".toList.contains c then some (.kind true, text)
      else if c = 'A' || c = 'z' then some (.textEdge, text)
      else if c = 'b' then (afterWordEdge? mode text).map fun rest => (.wordEdge, rest)
      else if c = 'B' || c = '<' || c = '>' then some (.wordEdge, text)
      else (controls.lookup c).map fun control => (.literal control false, text)

end SoundEffect.Log.Pattern
