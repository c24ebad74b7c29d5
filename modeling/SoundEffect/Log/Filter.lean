import SoundEffect.Log.Directive

namespace SoundEffect.Log

abbrev Filter := List Directive

namespace Filter

def upTo (level : Level) : Filter := [.general level.rank]

def decisive (event : Event) (best : Option Directive) (directive : Directive) : Option Directive :=
  if directive.covers event then
    match best with
    | some other => if other.yieldsTo directive then some directive else some other
    | none => some directive
  else best

def shows (filter : Filter) (event : Event) : Bool :=
  match filter.foldl (decisive event) none with
  | some directive => event.level.rank ≤ directive.limit
  | none => false

def ofText? (text : List Char) : Option Filter :=
  match ((Text.splitOn ',' text).filter fun part => !part.isEmpty).mapM Directive.ofText? with
  | some [] => some (upTo .error)
  | other => other

end Filter

end SoundEffect.Log
