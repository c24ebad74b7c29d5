import SoundEffect.Control

namespace SoundEffect

inductive Waveform where
  | triangle
  | sawtooth
  | rectangle
  | noise
  deriving DecidableEq, Repr

namespace Waveform

def all : List Waveform :=
  [triangle, sawtooth, rectangle, noise]

def line : Waveform → ControlLine
  | triangle => .triangle
  | sawtooth => .sawtooth
  | rectangle => .rectangle
  | noise => .noise

def letter : Waveform → Char
  | triangle => 'T'
  | sawtooth => 'S'
  | rectangle => 'R'
  | noise => 'N'

def name : Waveform → String
  | triangle => "triangle"
  | sawtooth => "sawtooth"
  | rectangle => "rectangle"
  | noise => "noise"

def abbreviations : Waveform → List String
  | triangle => ["t", "tri", "triangle"]
  | sawtooth => ["s", "saw", "sawtooth"]
  | rectangle => ["r", "rect", "rectangle", "pulse"]
  | noise => ["n", "noise"]

def ofText? (text : String) : Option Waveform :=
  all.find? fun waveform => waveform.abbreviations.contains text.toLower

end Waveform

end SoundEffect
