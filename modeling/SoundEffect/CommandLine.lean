import SoundEffect.Command.Run
import SoundEffect.Log.Filter

namespace SoundEffect

structure Outcome where
  code : Nat
  output : List Char
  report : List Char
  log : List (List Char)
  deriving DecidableEq, Repr, Inhabited

namespace Outcome

def isLineBreak (c : Char) : Bool := c = '\n'

def entries (outcome : Outcome) : List (List Char) :=
  outcome.log.map fun entry => entry.takeWhile (!isLineBreak ·)

def furtherLines (entry : List Char) : List Char :=
  match entry.dropWhile (!isLineBreak ·) with
  | [] => []
  | _ :: rest => rest ++ ['\n']

def remarks (outcome : Outcome) : List Char :=
  outcome.log.flatMap furtherLines ++ outcome.report

end Outcome

namespace CommandLine

def version : List Char :=
  "sidfx 0.3.0\n".toList

def usage : List Char :=
  "Usage: sidfx [-v] new|show|preview|trace|export|to-json|from-json|edit FILE ...\n".toList

def refused : Refusal → Outcome
  | .usage => ⟨2, [], usage, []⟩
  | .help => ⟨0, usage, [], []⟩
  | .version => ⟨0, version, [], []⟩

def filter (setting : Option (List Char)) (verbose : Bool) : Log.Filter :=
  match setting.bind Log.Filter.ofText? with
  | some filter => filter
  | none => .upTo (if verbose then .debug else .info)

def outcome (filter : Log.Filter) (result : Except Failure Unit × Transcript) : Outcome :=
  let log := (result.2.events.filter filter.shows).map Log.Event.line
  match result.1 with
  | .ok () => ⟨0, result.2.output, [], log⟩
  | .error failure => ⟨1, result.2.output, failure.report, log⟩

def run {m : Type → Type} [Monad m] [Files m] (setting : Option (List Char))
    (arguments : List (List Char)) : m Outcome := do
  match Command.request arguments with
  | .error refusal => return refused refusal
  | .ok request =>
      let result ← (Command.run request.command).run.run default
      return outcome (filter setting request.verbose) result

end CommandLine

end SoundEffect
