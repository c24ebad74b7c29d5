import SoundEffect.Segment
import SoundEffect.Text.Numeral

namespace SoundEffect

namespace Segment

def controlColumn (segment : Segment) : List Char :=
  Waveform.all.map (fun waveform =>
    if segment.control.has waveform.line then waveform.letter else '.') ++
  [if segment.gated then 'G' else '.']

def numericColumns (segment : Segment) : List (List Char) :=
  [Text.paddedDecimal 5 segment.frequency.toNat,
    Text.paddedDecimal 4 segment.pulseWidth.toNat,
    Text.upperHexByte segment.attackDecay ++ Text.upperHexByte segment.sustainRelease,
    Text.signedDecimal 6 segment.freqGlide.toInt,
    Text.signedDecimal 5 segment.pulseGlide.toInt,
    Text.paddedDecimal 2 segment.gateTicks.toNat,
    Text.paddedDecimal 2 segment.releaseTicks.toNat]

def row (segment : Segment) : List Char :=
  segment.controlColumn ++ segment.numericColumns.flatMap (' ' :: ·)

end Segment

def tableHeader : String :=
  "##  TSRNG FREQ  PWM  ADSR DFREQ  DPWM T1 T0"

end SoundEffect
