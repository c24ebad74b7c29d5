import SoundEffect.Bitmap
import SoundEffect.Simulator

namespace SoundEffect

namespace BarChart

def panelHeight : Nat := 32

def cellWidth : Nat := 8

def texture : UInt8 := 0x22

def blank (columns : Nat) : Bitmap :=
  Bitmap.blank (columns * cellWidth) (panelHeight * 2)

def topRow (height : UInt8) : Nat :=
  panelHeight - 1 - (min height barMax).toNat

def marks (heights : List UInt8) (row : Nat) : UInt8 :=
  (heights.take cellWidth).zipIdx.foldl
    (fun byte (height, x) => if topRow height = row then byte ||| Bitmap.pixelMask x else byte) 0

def smear (above : UInt8) : List UInt8 → List UInt8
  | [] => []
  | mark :: rest => (above ||| mark) :: smear (above ||| mark) rest

def panel (fill : Fill) (heights : List UInt8) : List UInt8 :=
  (smear 0 ((List.range panelHeight).map (marks heights))).zipIdx.map fun (bars, row) =>
    match fill with
    | .textured => if row % 2 = 1 then bars ^^^ texture else bars
    | .solid => bars

def drawPanel (bitmap : Bitmap) (cell top : Nat) (rows : List UInt8) : Bitmap :=
  rows.zipIdx.foldl (fun drawn (byte, row) => drawn.setByte cell (top + row) byte) bitmap

def drawCell (fill : Fill) (bitmap : Bitmap) (cell : Nat) (samples : List Sample) : Bitmap :=
  drawPanel (drawPanel bitmap cell 0 (panel fill (samples.map (·.envelope)))) cell panelHeight
    (panel fill (samples.map (·.frequency)))

end BarChart

end SoundEffect
