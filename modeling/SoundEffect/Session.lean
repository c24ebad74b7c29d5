import SoundEffect.Error
import SoundEffect.Log.Event

namespace SoundEffect

inductive Failure where
  | error (context : List Char) (cause : Error)
  | creation (path : List Char) (cause : IoFault)
  deriving DecidableEq, Repr

namespace Failure

def context : Failure → List Char
  | error context _ => context
  | creation path _ => "Failed to create ".toList ++ path

def causes : Failure → List Char
  | error _ (.io fault) =>
      "    0: ".toList ++ (Error.io fault).message.toList ++ "\n    1: ".toList ++
        fault.message.toList ++ ['\n']
  | error _ (.json _) => "    0: JSON error:".toList
  | error _ cause => "    ".toList ++ cause.message.toList ++ ['\n']
  | creation _ fault => "    ".toList ++ fault.message.toList ++ ['\n']

def report (failure : Failure) : List Char :=
  "Error: ".toList ++ failure.context ++ "\n\nCaused by:\n".toList ++ failure.causes

end Failure

structure Transcript where
  output : List Char
  events : List Log.Event
  deriving DecidableEq, Repr, Inhabited

abbrev Session (m : Type → Type) := ExceptT Failure (StateT Transcript m)

namespace Session

variable {m : Type → Type} [Monad m]

def print (text : List Char) : Session m Unit :=
  modify fun transcript => { transcript with output := transcript.output ++ text }

def reportAll (events : List Log.Event) : Session m Unit :=
  modify fun transcript => { transcript with events := transcript.events ++ events }

def report (event : Log.Event) : Session m Unit :=
  reportAll [event]

def ofResult {α : Type} (context : List Char) : Except Error α → Session m α
  | .ok value => pure value
  | .error cause => throw (.error context cause)

end Session

end SoundEffect
