import SoundEffect.Program
import SoundEffect.Stream

namespace SoundEffect

namespace EffectFile

def magic : UInt8 := 0xB3

def recordSize : Nat := 14

def word (low high : UInt8) : UInt16 :=
  low.toUInt16 ||| (high.toUInt16 <<< 8)

def lowByte (word : UInt16) : UInt8 :=
  word.toUInt8

def highByte (word : UInt16) : UInt8 :=
  (word >>> 8).toUInt8

def encodeRecord (segment : Segment) : List UInt8 :=
  [lowByte segment.frequency, highByte segment.frequency,
    lowByte segment.pulseWidth, highByte segment.pulseWidth,
    segment.control.bits, segment.attackDecay, segment.sustainRelease,
    lowByte segment.freqGlide.toUInt16, highByte segment.freqGlide.toUInt16,
    lowByte segment.pulseGlide.toUInt16, highByte segment.pulseGlide.toUInt16,
    segment.gateTicks, segment.releaseTicks, segment.priority]

def decodeRecords : List UInt8 → List Segment
  | f₀ :: f₁ :: w₀ :: w₁ :: control :: attackDecay :: sustainRelease :: df₀ :: df₁ :: dw₀ :: dw₁ ::
      gateTicks :: releaseTicks :: priority :: rest =>
      { frequency := word f₀ f₁
        pulseWidth := word w₀ w₁
        control := ⟨control⟩
        attackDecay := attackDecay
        sustainRelease := sustainRelease
        freqGlide := (word df₀ df₁).toInt16
        pulseGlide := (word dw₀ dw₁).toInt16
        gateTicks := gateTicks
        releaseTicks := releaseTicks
        priority := priority } :: decodeRecords rest
  | _ => []

def readPart (part : FilePart) (count : Nat) (source : Source) :
    Except Error (List UInt8) × Source :=
  match source.read count with
  | (.ok bytes, rest) => (.ok bytes, rest)
  | (.error fault, rest) =>
      if fault.kind = .unexpectedEnd then (.error (.format (.truncated part)), rest)
      else (.error (.io fault), rest)

def segmentCount : List UInt8 → Except FormatFault Nat
  | version :: count :: _ =>
      if version < magic then .error (.badMagic version)
      else if count = 0 ∨ Program.capacity < count.toNat then .error (.segmentCount count.toNat)
      else .ok count.toNat
  | _ => .error (.truncated .header)

def read (source : Source) : Except Error Program × Source :=
  match readPart .header 2 source with
  | (.error fault, rest) => (.error fault, rest)
  | (.ok header, body) =>
      match segmentCount header with
      | .error fault => (.error (.format fault), body)
      | .ok count =>
          match readPart .records (count * recordSize) body with
          | (.error fault, rest) => (.error fault, rest)
          | (.ok bytes, rest) =>
              match Program.ofSegments (decodeRecords bytes) with
              | .ok program => (.ok program, rest)
              | .error fault => (.error (.program fault), rest)

def decode (bytes : List UInt8) : Except Error Program :=
  (read (.ofBytes bytes)).1

def encode (program : Program) : List UInt8 :=
  magic :: UInt8.ofNat program.length :: program.segments.flatMap encodeRecord

end EffectFile

end SoundEffect
