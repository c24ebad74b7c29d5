import SoundEffect.Config
import SoundEffect.Envelope
import SoundEffect.Program

namespace SoundEffect

structure Sample where
  envelope : UInt8
  frequency : UInt8
  deriving DecidableEq, Repr, Inhabited

structure TickTrace where
  tick : Nat
  state : PlayState
  position : Nat
  delay : UInt8
  phase : Phase
  level : UInt16
  frequency : UInt16
  pulseWidth : UInt16
  envelopeBar : UInt8
  frequencyBar : UInt8
  deriving DecidableEq, Repr

structure Simulator where
  config : Config
  segments : List Segment
  interpreter : Interpreter
  envelope : Envelope
  ticks : Nat
  samples : List Sample
  deriving DecidableEq, Repr

namespace Simulator

def start (config : Config) (segments : List Segment) : Simulator where
  config := config
  segments := segments
  interpreter := .initial
  envelope := .silent
  ticks := 0
  samples := List.replicate substeps ⟨0, 0⟩

def new (config : Config) : Simulator :=
  start config []

def reset (simulator : Simulator) (program : Program) : Simulator :=
  start simulator.config program.segments

def isFinished (simulator : Simulator) : Bool :=
  simulator.config.maxTicks ≤ simulator.ticks

def advances (voice : Voice) (rates : Rates) : Nat → Envelope → List Envelope
  | 0, _ => []
  | n + 1, envelope =>
      let next := envelope.advance voice rates
      next :: advances voice rates n next

def tick (simulator : Simulator) : Simulator :=
  if simulator.isFinished then simulator
  else
    let (interpreter, signal) := simulator.interpreter.tick simulator.segments
    let before :=
      match signal with
      | .forceRelease => simulator.envelope.forceRelease
      | .plain => simulator.envelope
    let after := advances interpreter.voice ⟨simulator.config.tickLength⟩ substeps before
    let frequency := Curves.frequencyBar interpreter.voice.frequency
    { simulator with
      interpreter := interpreter
      envelope := after.getLastD before
      ticks := simulator.ticks + 1
      samples := after.map fun envelope => ⟨envelope.bar, frequency⟩ }

def sample (simulator : Simulator) : Sample :=
  simulator.samples.getLastD ⟨0, 0⟩

def trace (simulator : Simulator) : TickTrace where
  tick := simulator.ticks
  state := simulator.interpreter.state
  position := simulator.interpreter.position
  delay := simulator.interpreter.delay
  phase := simulator.envelope.phase
  level := simulator.envelope.level
  frequency := simulator.interpreter.voice.frequency
  pulseWidth := simulator.interpreter.voice.pulseWidth
  envelopeBar := simulator.sample.envelope
  frequencyBar := simulator.sample.frequency

def run : Nat → Simulator → List Simulator
  | 0, _ => []
  | n + 1, simulator =>
      let next := simulator.tick
      next :: run n next

end Simulator

end SoundEffect
