import SoundEffect.Interpreter
import SoundEffect.Rates

namespace SoundEffect

inductive Phase where
  | release
  | off
  | attack
  | decay
  deriving DecidableEq, Repr

namespace Phase

def excited : Phase → Bool
  | attack | decay => true
  | release | off => false

def name : Phase → String
  | release => "Release"
  | off => "Off"
  | attack => "Attack"
  | decay => "Decay"

end Phase

structure Envelope where
  phase : Phase
  level : UInt16
  deriving DecidableEq, Repr

namespace Envelope

def silent : Envelope := ⟨.off, 0⟩

def forceRelease (envelope : Envelope) : Envelope :=
  { envelope with phase := .release }

def followGate (envelope : Envelope) (gate : Bool) : Envelope :=
  if gate then if envelope.phase.excited then envelope else ⟨.attack, 0⟩
  else if envelope.phase.excited then { envelope with phase := .release }
  else envelope

def rise (level : UInt16) (step : UInt32) : Envelope :=
  let next := level.toUInt32 + step
  if levelMax.toUInt32 ≤ next then ⟨.decay, levelMax⟩ else ⟨.attack, next.toUInt16⟩

def fallToSustain (level target : UInt16) (step : UInt32) : Envelope :=
  if target.toUInt32 + step < level.toUInt32 then ⟨.decay, (level.toUInt32 - step).toUInt16⟩
  else if target < level then ⟨.decay, target⟩
  else ⟨.decay, level⟩

def fallToSilence (level : UInt16) (step : UInt32) : Envelope :=
  if step < level.toUInt32 then ⟨.release, (level.toUInt32 - step).toUInt16⟩ else silent

def advance (envelope : Envelope) (voice : Voice) (rates : Rates) : Envelope :=
  let now := envelope.followGate voice.control.gate
  match now.phase with
  | .attack => rise now.level (rates.attackStep (voice.attackDecay >>> 4))
  | .decay =>
      fallToSustain now.level (Curves.sustainTarget (voice.sustainRelease >>> 4))
        (rates.decayStep voice.attackDecay)
  | .release => fallToSilence now.level (rates.decayStep voice.sustainRelease)
  | .off => now

def bar (envelope : Envelope) : UInt8 :=
  match envelope.phase with
  | .attack => (envelope.level >>> 8).toUInt8
  | _ => Curves.levelBar envelope.level

end Envelope

end SoundEffect
