import SoundEffect.Log.Pattern.Bracket
import SoundEffect.Text.Alphanumeric

namespace SoundEffect.Log.Pattern

structure Part where
  depth : Nat
  isSetting : Bool
  wordEdge : Bool
  deriving DecidableEq, Repr

namespace Part

def ofDepth (depth : Nat) : Part := ⟨depth, false, false⟩

def setting : Part := ⟨0, true, false⟩

def repeated (part : Part) (times : Option Nat) : Part :=
  ⟨part.depth + 1, false, part.wordEdge && times ≠ some 0⟩

def grouped (part : Part) : Part :=
  ⟨part.depth + 1, false, part.wordEdge⟩

def united (parts : List Part) : Part :=
  ⟨unitedDepth (parts.map (·.depth)), false, parts.any (·.wordEdge)⟩

end Part

/-- What has been read of a group, or of the pattern outside of all groups: the parts of the present
alternative, the last one first, and the alternatives before it. -/
structure Level where
  parts : List Part
  alternatives : List Part
  deriving DecidableEq, Repr

namespace Level

def empty : Level := ⟨[], []⟩

def add (level : Level) (part : Part) : Level :=
  { level with parts := part :: level.parts }

def alternative (level : Level) : Level :=
  ⟨[], .united level.parts :: level.alternatives⟩

def close (level : Level) : Part :=
  .united (.united level.parts :: level.alternatives)

def repeatLast? (level : Level) (times : Option Nat) : Option Level :=
  match level.parts with
  | part :: parts =>
      if part.isSetting then none else some { level with parts := part.repeated times :: parts }
  | [] => none

end Level

structure Progress where
  mode : Mode
  level : Level
  outer : List (Mode × Level)
  names : List (List Char)
  deriving DecidableEq, Repr

namespace Progress

def start : Progress := ⟨.standard, .empty, [], []⟩

def add (progress : Progress) (part : Part) : Progress :=
  { progress with level := progress.level.add part }

def sign? (progress : Progress) (sign : Sign) : Option Progress :=
  if sign.isLegal progress.mode then
    some (progress.add ⟨0, false, sign = .wordEdge && progress.mode.unicode⟩)
  else none

def opened (progress : Progress) (mode : Mode) : Progress :=
  { progress with
    mode := mode, level := .empty, outer := (progress.mode, progress.level) :: progress.outer }

def closed? (progress : Progress) : Option Progress :=
  match progress.outer with
  | [] => none
  | (mode, level) :: outer =>
      some { progress with
        mode := mode, level := level.add progress.level.close.grouped, outer := outer }

def isNameChar (c : Char) : Bool :=
  c = '_' || c = '.' || c = '[' || c = ']' || Text.isAlphanumeric c

def isName : List Char → Bool
  | [] => false
  | c :: name => (c = '_' || Text.isAlphabetic c) && name.all isNameChar

def named? (progress : Progress) (text : List Char) : Option (Progress × List Char) :=
  let name := text.takeWhile (· ≠ '>')
  match text.dropWhile (· ≠ '>') with
  | _ :: rest =>
      if isName name && !progress.names.contains name then
        some ({ progress.opened progress.mode with names := name :: progress.names }, rest)
      else none
  | [] => none

def flagged? (progress : Progress) (text : List Char) : Option (Progress × List Char) :=
  let flags := text.takeWhile fun c => c ≠ ':' && c ≠ ')'
  if !isFlags flags then none
  else
    let mode := progress.mode.set flags
    match text.dropWhile fun c => c ≠ ':' && c ≠ ')' with
    | ':' :: rest => some (progress.opened mode, rest)
    | ')' :: rest =>
        if flags.isEmpty then none else some ({ progress.add .setting with mode := mode }, rest)
    | _ => none

def group? (progress : Progress) (text : List Char) : Option (Progress × List Char) :=
  match progress.mode.skip text with
  | '?' :: '<' :: '=' :: _ | '?' :: '<' :: '!' :: _ => none
  | '?' :: 'P' :: '<' :: rest | '?' :: '<' :: rest => progress.named? rest
  | '?' :: rest => progress.flagged? rest
  | text => some (progress.opened progress.mode, text)

def count? (mode : Mode) (text : List Char) : Option (Nat × List Char) :=
  let text := Text.trimLeft (mode.skip text)
  let (digits, rest) := mode.run Char.isDigit text.length text
  match Text.natural? digits, Text.trimLeft rest with
  | some times, '\x7d' :: rest => if times < 4294967296 then some (times, mode.skip rest) else none
  | _, _ => none

def repeated? (progress : Progress) (times : Option Nat) (text : List Char) :
    Option (Progress × List Char) :=
  (progress.level.repeatLast? times).map fun level =>
    ({ progress with level := level }, if text.head? = some '?' then text.tail else text)

def next? (progress : Progress) (c : Char) (text : List Char) : Option (Progress × List Char) :=
  if c = '(' then progress.group? text
  else if c = ')' then progress.closed?.map fun progress => (progress, text)
  else if c = '|' then some ({ progress with level := progress.level.alternative }, text)
  else if c = '[' then do
    let (depth, rest) ← set? progress.mode text
    return (progress.add (.ofDepth depth), rest)
  else if c = '?' || c = '*' || c = '+' then progress.repeated? none text
  else if c = '\x7b' then do
    let (times, rest) ← count? progress.mode text
    progress.repeated? (some times) rest
  else do
    let (sign, rest) ←
      if c = '\\' then escape? progress.mode text
      else if c = '.' then some (.any, text)
      else if c = '^' || c = '$' then some (.textEdge, text)
      else some (.literal c false, text)
    return (← progress.sign? sign, rest)

def read? (progress : Progress) : Nat → List Char → Option Progress
  | 0, _ => none
  | signs + 1, text =>
      match progress.mode.skip text with
      | [] => some progress
      | c :: rest => do
          let (progress, rest) ← progress.next? c rest
          progress.read? signs rest

end Progress

def deepest : Nat := 250

def isWellFormed (text : List Char) : Bool :=
  match Progress.start.read? (text.length + 1) text with
  | some progress =>
      let whole := progress.level.close
      progress.outer.isEmpty && !whole.wordEdge && whole.depth ≤ deepest
  | none => false

end SoundEffect.Log.Pattern
