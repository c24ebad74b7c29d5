import SoundEffect.Proofs.Bitmap.Painting

namespace SoundEffect.Bitmap

def slot? (bitmap : Bitmap) (column y : Nat) : Option Nat :=
  let row := y * bitmap.stride
  if row < USize.size ∧ row + column < USize.size ∧ row + column < bitmap.data.size then
    some (row + column)
  else none

def get? (bitmap : Bitmap) (x y : Nat) : Option Bool :=
  if x < bitmap.width ∧ y < bitmap.height then
    (bitmap.slot? (x / 8) y).map fun slot => bitmap.data.getD slot 0 &&& pixelMask x != 0
  else some false

def set? (bitmap : Bitmap) (x y : Nat) (on : Bool) : Option Bitmap :=
  if x < bitmap.width ∧ y < bitmap.height then
    (bitmap.slot? (x / 8) y).map fun slot =>
      { bitmap with data := bitmap.data.modify slot (painted · x on) }
  else some bitmap

def setByte? (bitmap : Bitmap) (column y : Nat) (value : UInt8) : Option Bitmap :=
  if column < bitmap.stride ∧ y < bitmap.height then
    (bitmap.slot? column y).map fun slot =>
      { bitmap with data := bitmap.data.setIfInBounds slot value }
  else some bitmap

def Addressable (bitmap : Bitmap) : Prop :=
  bitmap.data.size < USize.size

variable {bitmap : Bitmap} (h : bitmap.Filled) (addressable : bitmap.Addressable)
include h addressable

theorem slot?_eq {column y : Nat} (hc : column < bitmap.stride) (hy : y < bitmap.height) :
    bitmap.slot? column y = some (bitmap.byteIndex column y) := by
  have inside : y * bitmap.stride + column < bitmap.data.size := h ▸ byteIndex_lt hc hy
  have word : y * bitmap.stride + column < USize.size := Nat.lt_trans inside addressable
  have row : y * bitmap.stride < USize.size := Nat.lt_of_le_of_lt (Nat.le_add_right _ _) word
  exact if_pos ⟨row, word, inside⟩

theorem get?_eq (x y : Nat) : bitmap.get? x y = some (bitmap.get x y) := by
  rw [get?, get]
  split
  · rename_i inside
    rw [slot?_eq h addressable (div_lt_stride inside.1) inside.2, Option.map_some]
  · rfl

theorem set?_eq (x y : Nat) (on : Bool) : bitmap.set? x y on = some (bitmap.set x y on) := by
  rw [set?, set]
  split
  · rename_i inside
    rw [slot?_eq h addressable (div_lt_stride inside.1) inside.2]
    rfl
  · rfl

theorem setByte?_eq (column y : Nat) (value : UInt8) :
    bitmap.setByte? column y value = some (bitmap.setByte column y value) := by
  rw [setByte?, setByte]
  split
  · rename_i inside
    rw [slot?_eq h addressable inside.1 inside.2, Option.map_some]
  · rfl

end SoundEffect.Bitmap
