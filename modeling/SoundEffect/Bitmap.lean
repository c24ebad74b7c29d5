import SoundEffect.Text.Basic
import SoundEffect.Text.Numeral

namespace SoundEffect

structure Bitmap where
  width : Nat
  height : Nat
  data : Array UInt8
  deriving DecidableEq, Repr

namespace Bitmap

def strideOf (width : Nat) : Nat :=
  (width + 7) / 8

def blank (width height : Nat) : Bitmap :=
  ⟨width, height, Array.replicate (strideOf width * height) 0⟩

def stride (bitmap : Bitmap) : Nat :=
  strideOf bitmap.width

def clear (bitmap : Bitmap) : Bitmap :=
  blank bitmap.width bitmap.height

def pixelMask (x : Nat) : UInt8 :=
  0x80 >>> UInt8.ofNat (x % 8)

def byteIndex (bitmap : Bitmap) (column y : Nat) : Nat :=
  y * bitmap.stride + column

def get (bitmap : Bitmap) (x y : Nat) : Bool :=
  if x < bitmap.width ∧ y < bitmap.height then
    bitmap.data.getD (bitmap.byteIndex (x / 8) y) 0 &&& pixelMask x != 0
  else false

def set (bitmap : Bitmap) (x y : Nat) (on : Bool) : Bitmap :=
  if x < bitmap.width ∧ y < bitmap.height then
    let paint (byte : UInt8) := if on then byte ||| pixelMask x else byte &&& ~~~pixelMask x
    { bitmap with data := bitmap.data.modify (bitmap.byteIndex (x / 8) y) paint }
  else bitmap

/-- Writes eight pixels at once; columns count bytes. -/
def setByte (bitmap : Bitmap) (column y : Nat) (value : UInt8) : Bitmap :=
  if column < bitmap.stride ∧ y < bitmap.height then
    { bitmap with data := bitmap.data.setIfInBounds (bitmap.byteIndex column y) value }
  else bitmap

def row (bitmap : Bitmap) (y : Nat) : List UInt8 :=
  ((bitmap.data.toList.drop (y * bitmap.stride)).take bitmap.stride)

def asciiRow (bitmap : Bitmap) (y : Nat) : List Char :=
  (List.range bitmap.width).map (fun x => if bitmap.get x y then '#' else ' ') ++ ['\n']

def ascii (bitmap : Bitmap) : List Char :=
  (List.range bitmap.height).flatMap bitmap.asciiRow

def pbmHeader (bitmap : Bitmap) : List Char :=
  "P4\n".toList ++ Text.decimal bitmap.width ++ [' '] ++ Text.decimal bitmap.height ++ ['\n']

def pbm (bitmap : Bitmap) : List UInt8 :=
  Text.utf8 bitmap.pbmHeader ++ bitmap.data.toList

end Bitmap

end SoundEffect
