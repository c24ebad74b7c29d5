import SoundEffect.EffectName
import SoundEffect.Program
import SoundEffect.Text.Numeral

namespace SoundEffect

namespace CArray

def openingLine (name : List Char) : List Char :=
  "static const SIDFX SFX_".toList ++ identifier name ++ "[] = \x7b\n".toList

def closingLine : List Char :=
  "\x7d;\n".toList

def hexLiteral (byte : UInt8) : List Char :=
  "0x".toList ++ Text.hexByte byte

/-- The driver keeps its own priorities: the last initialiser is always zero. -/
def initialisers (segment : Segment) : List (List Char) :=
  [Text.decimal segment.frequency.toNat,
    Text.decimal segment.pulseWidth.toNat,
    hexLiteral segment.control.bits,
    hexLiteral segment.attackDecay,
    hexLiteral segment.sustainRelease,
    Text.integer segment.freqGlide.toInt,
    Text.integer segment.pulseGlide.toInt,
    Text.decimal segment.gateTicks.toNat,
    Text.decimal segment.releaseTicks.toNat,
    ['0']]

def segmentLine (segment : Segment) : List Char :=
  "\t\x7b".toList ++ List.intercalate ", ".toList (initialisers segment) ++ "\x7d,\n".toList

end CArray

def Program.cArray (program : Program) (name : List Char) : List Char :=
  CArray.openingLine name ++ program.segments.flatMap CArray.segmentLine ++ CArray.closingLine

end SoundEffect
