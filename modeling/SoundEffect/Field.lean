import SoundEffect.Error
import SoundEffect.Waveform

namespace SoundEffect

inductive Field where
  | frequency
  | pulseWidth
  | attack
  | decay
  | sustain
  | release
  | freqGlide
  | pulseGlide
  | gateTicks
  | releaseTicks
  deriving DecidableEq, Repr

namespace Field

def all : List Field :=
  [frequency, pulseWidth, attack, decay, sustain, release, freqGlide, pulseGlide, gateTicks,
    releaseTicks]

theorem mem_all (field : Field) : field ∈ all := by
  cases field <;> decide

def lowest : Field → Int
  | freqGlide => -32767
  | pulseGlide => -4095
  | _ => 0

def highest : Field → Int
  | frequency => 65535
  | pulseWidth | pulseGlide => 4095
  | attack | decay | sustain | release => 15
  | freqGlide => 32767
  | gateTicks | releaseTicks => 99

theorem lowest_le_highest (field : Field) : field.lowest ≤ field.highest := by
  cases field <;> decide

def clamp (field : Field) (value : Int) : Int :=
  max field.lowest (min value field.highest)

def name : Field → String
  | frequency => "frequency"
  | pulseWidth => "pulse-width"
  | attack => "attack"
  | decay => "decay"
  | sustain => "sustain"
  | release => "release"
  | freqGlide => "freq-glide"
  | pulseGlide => "pulse-glide"
  | gateTicks => "gate-ticks"
  | releaseTicks => "release-ticks"

def abbreviations : Field → List String
  | frequency => ["freq", "frequency"]
  | pulseWidth => ["pwm", "pulse", "pulse-width"]
  | attack => ["attack", "a"]
  | decay => ["decay", "d"]
  | sustain => ["sustain", "s"]
  | release => ["release", "r"]
  | freqGlide => ["dfreq", "freq-glide"]
  | pulseGlide => ["dpwm", "pulse-glide"]
  | gateTicks => ["t1", "gate-ticks"]
  | releaseTicks => ["t0", "release-ticks"]

def ofText? (text : String) : Option Field :=
  all.find? fun field => field.abbreviations.contains text.toLower

def ofText (text : String) : Except Error Field :=
  match ofText? text with
  | some field => .ok field
  | none => .error (.unknownField text.toLower)

end Field

def Waveform.ofText (text : String) : Except Error Waveform :=
  match ofText? text with
  | some waveform => .ok waveform
  | none => .error (.unknownWaveform text.toLower)

end SoundEffect
