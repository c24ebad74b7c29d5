import SoundEffect.Log.Pattern.Sign

namespace SoundEffect.Log.Pattern

def unitedDepth : List Nat → Nat
  | [] => 0
  | [depth] => depth
  | depths => depths.foldr max 0 + 1

structure OpenSet where
  members : List Nat
  joined : Option Nat
  deriving DecidableEq, Repr

namespace OpenSet

def depth (set : OpenSet) : Nat :=
  match set.joined with
  | none => unitedDepth set.members
  | some joined => max joined (unitedDepth set.members) + 1

def add (set : OpenSet) (depth : Nat) : OpenSet :=
  { set with members := depth :: set.members }

def join (set : OpenSet) : OpenSet :=
  ⟨[], some set.depth⟩

end OpenSet

def openSet? (mode : Mode) (text : List Char) : Option (OpenSet × List Char) :=
  let text := mode.skip text
  let negated := text.head? = some '^'
  let text := if negated then mode.skip text.tail else text
  let (hyphens, text) := mode.run (· = '-') text.length text
  let (plain, text) :=
    match hyphens, text with
    | [], ']' :: rest => ([']'], mode.skip rest)
    | _, _ => (hyphens, text)
  if (negated && !mode.unicode) || (!plain.isEmpty && mode.unicode && mode.ignoreCase) then none
  else some (⟨plain.map fun _ => 0, none⟩, text)

def className : List String :=
  ["alnum", "alpha", "ascii", "blank", "cntrl", "digit", "graph", "lower", "print", "punct",
    "space", "upper", "word", "xdigit"]

def named? : List Char → Option (Bool × List Char)
  | ':' :: text =>
      let negated := text.head? = some '^'
      let text := if negated then text.tail else text
      match text.dropWhile (· ≠ ':') with
      | ':' :: ']' :: rest =>
          if className.contains (String.ofList (text.takeWhile (· ≠ ':'))) then
            some (negated, rest)
          else none
      | _ => none
  | _ => none

def member? (mode : Mode) : List Char → Option (Sign × List Char)
  | [] => none
  | '\\' :: text => escape? mode text
  | c :: text => some (.literal c false, text)

def range? (mode : Mode) (text : List Char) : Option (List Char) := do
  let (first, rest) ← member? mode text
  if !first.isMember mode then none
  match mode.skip rest with
  | [] => none
  | '-' :: after =>
      if mode.ahead after = some ']' || mode.ahead after = some '-' then some ('-' :: after)
      else
        let (last, rest) ← member? mode (mode.skip after)
        match first, last with
        | .literal low _, .literal high _ =>
            if low.toNat ≤ high.toNat && last.isMember mode then some rest else none
        | _, _ => none
  | rest => some rest

def sets? (mode : Mode) : Nat → OpenSet → List OpenSet → List Char → Option (Nat × List Char)
  | 0, _, _, _ => none
  | signs + 1, set, outer, text =>
      match mode.skip text with
      | [] => none
      | '[' :: rest =>
          match named? rest with
          | some (negated, rest) =>
              if if mode.unicode then mode.ignoreCase else negated then none
              else sets? mode signs (set.add 0) outer rest
          | none => do
              let (inner, rest) ← openSet? mode rest
              sets? mode signs inner (set :: outer) rest
      | ']' :: rest =>
          match outer with
          | [] => some (set.depth + 1, rest)
          | next :: outer => sets? mode signs (next.add (set.depth + 1)) outer rest
      | '&' :: '&' :: rest | '-' :: '-' :: rest | '~' :: '~' :: rest =>
          sets? mode signs set.join outer rest
      | text => do sets? mode signs (set.add 0) outer (← range? mode text)

def set? (mode : Mode) (text : List Char) : Option (Nat × List Char) := do
  let (set, rest) ← openSet? mode text
  sets? mode (text.length + 1) set [] rest

end SoundEffect.Log.Pattern
