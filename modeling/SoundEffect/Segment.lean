import SoundEffect.Field

namespace SoundEffect

/-- The envelope's four rates are nibbles: attack and sustain are the high ones of their bytes. -/
structure Segment where
  frequency : UInt16
  pulseWidth : UInt16
  control : Control
  attackDecay : UInt8
  sustainRelease : UInt8
  freqGlide : Int16
  pulseGlide : Int16
  gateTicks : UInt8
  releaseTicks : UInt8
  priority : UInt8
  deriving DecidableEq, Repr

namespace Segment

def base : Segment where
  frequency := 1000
  pulseWidth := 2048
  control := (Control.none.raise .gate).raise .sawtooth
  attackDecay := 0x11
  sustainRelease := 0x86
  freqGlide := 0
  pulseGlide := 0
  gateTicks := 4
  releaseTicks := 0
  priority := 0

instance : Inhabited Segment := ⟨base⟩

def attack (segment : Segment) : UInt8 :=
  segment.attackDecay >>> 4

def decay (segment : Segment) : UInt8 :=
  segment.attackDecay &&& 0x0F

def sustain (segment : Segment) : UInt8 :=
  segment.sustainRelease >>> 4

def release (segment : Segment) : UInt8 :=
  segment.sustainRelease &&& 0x0F

def gated (segment : Segment) : Bool :=
  segment.control.gate

def get (segment : Segment) : Field → Int
  | .frequency => segment.frequency.toNat
  | .pulseWidth => segment.pulseWidth.toNat
  | .attack => segment.attack.toNat
  | .decay => segment.decay.toNat
  | .sustain => segment.sustain.toNat
  | .release => segment.release.toNat
  | .freqGlide => segment.freqGlide.toInt
  | .pulseGlide => segment.pulseGlide.toInt
  | .gateTicks => segment.gateTicks.toNat
  | .releaseTicks => segment.releaseTicks.toNat

def withHighNibble (byte nibble : UInt8) : UInt8 :=
  (byte &&& (0x0F : UInt8)) ||| (nibble <<< (4 : UInt8))

def withLowNibble (byte nibble : UInt8) : UInt8 :=
  (byte &&& (0xF0 : UInt8)) ||| nibble

def store (segment : Segment) (value : Int) : Field → Segment
  | .frequency => { segment with frequency := UInt16.ofInt value }
  | .pulseWidth => { segment with pulseWidth := UInt16.ofInt value }
  | .attack =>
      { segment with attackDecay := withHighNibble segment.attackDecay (UInt8.ofInt value) }
  | .decay => { segment with attackDecay := withLowNibble segment.attackDecay (UInt8.ofInt value) }
  | .sustain =>
      { segment with sustainRelease := withHighNibble segment.sustainRelease (UInt8.ofInt value) }
  | .release =>
      { segment with sustainRelease := withLowNibble segment.sustainRelease (UInt8.ofInt value) }
  | .freqGlide => { segment with freqGlide := Int16.ofInt value }
  | .pulseGlide => { segment with pulseGlide := Int16.ofInt value }
  | .gateTicks => { segment with gateTicks := UInt8.ofInt value }
  | .releaseTicks => { segment with releaseTicks := UInt8.ofInt value }

def set (segment : Segment) (field : Field) (value : Int32) : Segment :=
  segment.store (field.clamp value.toInt) field

def saturatingSum (a b : Int) : Int32 :=
  Int32.ofInt (max (-2147483648) (min (a + b) 2147483647))

def adjust (segment : Segment) (field : Field) (delta : Int32) : Segment :=
  segment.set field (saturatingSum (segment.get field) delta.toInt)

def enable (segment : Segment) (waveform : Waveform) : Segment :=
  let cleared :=
    match waveform with
    | .noise => ((segment.control.lower .triangle).lower .sawtooth).lower .rectangle
    | _ => segment.control.lower .noise
  { segment with control := cleared.raise waveform.line }

def disable (segment : Segment) (waveform : Waveform) : Segment :=
  { segment with control := segment.control.lower waveform.line }

def setGate (segment : Segment) (on : Bool) : Segment :=
  { segment with control := segment.control.put .gate on }

def clamped (segment : Segment) : Segment :=
  { segment with
    pulseWidth := min segment.pulseWidth 4095
    freqGlide := max segment.freqGlide (-32767)
    pulseGlide := max (-4095) (min segment.pulseGlide 4095)
    gateTicks := min segment.gateTicks 99
    releaseTicks := min segment.releaseTicks 99 }

end Segment

end SoundEffect
