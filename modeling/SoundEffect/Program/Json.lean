import SoundEffect.Control.Flags
import SoundEffect.Json.Record
import SoundEffect.Program

namespace SoundEffect

namespace Field

def reader : Json.Reader Field :=
  Json.oneOf (all.map fun field => (field.name, field))

end Field

namespace Waveform

def reader : Json.Reader Waveform :=
  Json.oneOf (all.map fun waveform => (waveform.name, waveform))

end Waveform

namespace Control

def reader : Json.Reader Control := do
  match ofFlags (← Json.textOf "a string value of \x60|\x60 separated flags").toList with
  | .ok control => return control
  | .error fault => throw (.data fault)

end Control

namespace Segment

def shape : Json.Shape Segment where
  name := "struct Segment"
  blank := ⟨0, 0, .none, 0, 0, 0, 0, 0, 0, 0⟩
  members :=
    [⟨"frequency", false, fun s => .integer s.frequency.toNat,
        fun s => return { s with frequency := ← Json.uint16 }⟩,
      ⟨"pulse_width", false, fun s => .integer s.pulseWidth.toNat,
        fun s => return { s with pulseWidth := ← Json.uint16 }⟩,
      ⟨"control", false, fun s => .text s.control.flags,
        fun s => return { s with control := ← Control.reader }⟩,
      ⟨"attack_decay", false, fun s => .integer s.attackDecay.toNat,
        fun s => return { s with attackDecay := ← Json.uint8 }⟩,
      ⟨"sustain_release", false, fun s => .integer s.sustainRelease.toNat,
        fun s => return { s with sustainRelease := ← Json.uint8 }⟩,
      ⟨"freq_glide", false, fun s => .integer s.freqGlide.toInt,
        fun s => return { s with freqGlide := ← Json.int16 }⟩,
      ⟨"pulse_glide", false, fun s => .integer s.pulseGlide.toInt,
        fun s => return { s with pulseGlide := ← Json.int16 }⟩,
      ⟨"gate_ticks", false, fun s => .integer s.gateTicks.toNat,
        fun s => return { s with gateTicks := ← Json.uint8 }⟩,
      ⟨"release_ticks", false, fun s => .integer s.releaseTicks.toNat,
        fun s => return { s with releaseTicks := ← Json.uint8 }⟩,
      ⟨"priority", true, fun s => .integer s.priority.toNat,
        fun s => return { s with priority := ← Json.uint8 }⟩]

def json (segment : Segment) : List Char :=
  Json.compactRecord (shape.record segment)

def ofJson (text : List UInt8) : Except Json.Fault Segment :=
  Json.decode shape.reader text

end Segment

namespace Program

def json (program : Program) : List Char :=
  Json.compactList (program.segments.map Segment.shape.record)

def indentedJson (program : Program) : List Char :=
  Json.indentedList (program.segments.map Segment.shape.record)

def reader : Json.Reader Program := do
  match ofSegments (← Json.sequenceOf Segment.shape.reader) with
  | .ok program => return program
  | .error fault => throw (.data (.rejected fault.message))

def ofJson (text : List UInt8) : Except Json.Fault Program :=
  Json.decode reader text

end Program

end SoundEffect
