import SoundEffect.Proofs.Bitmap.Pixels

namespace SoundEffect.Bitmap

def painted (byte : UInt8) (x : Nat) (on : Bool) : UInt8 :=
  if on then byte ||| pixelMask x else byte &&& ~~~pixelMask x

theorem testBit_painted (byte : UInt8) (x x' : Nat) (on : Bool) :
    (painted byte x on).toNat.testBit (7 - x' % 8) =
      if x % 8 = x' % 8 then on else byte.toNat.testBit (7 - x' % 8) := by
  cases on with
  | true =>
      rw [painted, if_pos rfl, testBit_or_pixelMask]
      by_cases here : x % 8 = x' % 8
      · simp [here]
      · simp [here]
  | false =>
      rw [painted, if_neg Bool.false_ne_true, testBit_and_not_pixelMask]
      by_cases here : x % 8 = x' % 8
      · simp [here]
      · simp [here]

variable {bitmap : Bitmap} {x y column : Nat}

theorem div_lt_stride (hx : x < bitmap.width) : x / 8 < bitmap.stride := by
  rw [stride, strideOf]
  omega

theorem get_of_outside (outside : ¬ (x < bitmap.width ∧ y < bitmap.height)) :
    bitmap.get x y = false := by
  rw [get, if_neg outside]

theorem set_of_outside (outside : ¬ (x < bitmap.width ∧ y < bitmap.height)) (on : Bool) :
    bitmap.set x y on = bitmap := by
  rw [set, if_neg outside]

theorem setByte_of_outside (outside : ¬ (column < bitmap.stride ∧ y < bitmap.height))
    (value : UInt8) : bitmap.setByte column y value = bitmap := by
  rw [setByte, if_neg outside]

theorem set_eq_setByte (h : bitmap.Filled) (hx : x < bitmap.width) (hy : y < bitmap.height)
    (on : Bool) :
    bitmap.set x y on = bitmap.setByte (x / 8) y (painted (bitmap.byteAt (x / 8) y) x on) := by
  have slot : bitmap.byteIndex (x / 8) y < bitmap.data.size :=
    h ▸ byteIndex_lt (div_lt_stride hx) hy
  have data : bitmap.data.modify (bitmap.byteIndex (x / 8) y) (painted · x on) =
      bitmap.data.setIfInBounds (bitmap.byteIndex (x / 8) y)
        (painted (bitmap.byteAt (x / 8) y) x on) := by
    apply Array.ext_getElem?
    intro i
    rw [Array.getElem?_modify, Array.getElem?_setIfInBounds]
    by_cases here : bitmap.byteIndex (x / 8) y = i
    · rw [if_pos here, if_pos here, if_pos slot, ← here, Array.getElem?_eq_getElem slot,
        Option.map_some, byteAt, Array.getElem_eq_getD]
    · rw [if_neg here, if_neg here]
  rw [set, if_pos ⟨hx, hy⟩, setByte, if_pos ⟨div_lt_stride hx, hy⟩, ← data]
  rfl

@[simp] theorem width_set (x y : Nat) (on : Bool) : (bitmap.set x y on).width = bitmap.width := by
  simp only [set]
  split <;> rfl

@[simp] theorem height_set (x y : Nat) (on : Bool) :
    (bitmap.set x y on).height = bitmap.height := by
  simp only [set]
  split <;> rfl

theorem Filled.set (h : bitmap.Filled) (x y : Nat) (on : Bool) : (bitmap.set x y on).Filled := by
  by_cases inside : x < bitmap.width ∧ y < bitmap.height
  · rw [set_eq_setByte h inside.1 inside.2]
    exact h.setByte _ _ _
  · rwa [set_of_outside inside]

theorem filled_clear (bitmap : Bitmap) : bitmap.clear.Filled :=
  filled_blank bitmap.width bitmap.height

theorem get_blank (width height x y : Nat) : (blank width height).get x y = false := by
  have nothing : (blank width height).byteAt (x / 8) y = 0 := by
    rw [byteAt, blank, Array.getD_eq_getD_getElem?, Array.getElem?_replicate]
    split <;> rfl
  by_cases inside : x < width ∧ y < height
  · rw [get_eq_testBit inside.1 inside.2, nothing]
    exact Nat.zero_testBit _
  · exact get_of_outside inside

theorem get_setByte (h : bitmap.Filled) (hy : y < bitmap.height) (column : Nat) (value : UInt8)
    (x' y' : Nat) :
    (bitmap.setByte column y value).get x' y' =
      if x' / 8 = column ∧ y' = y ∧ x' < bitmap.width then value.toNat.testBit (7 - x' % 8)
      else bitmap.get x' y' := by
  by_cases inside : x' < bitmap.width ∧ y' < bitmap.height
  · rw [get_eq_testBit (by simpa using inside.1) (by simpa using inside.2),
      byteAt_setByte h (div_lt_stride inside.1) inside.2,
      get_eq_testBit inside.1 inside.2]
    by_cases here : x' / 8 = column ∧ y' = y
    · rw [if_pos here, if_pos ⟨here.1, here.2, inside.1⟩]
    · rw [if_neg here, if_neg fun there => here ⟨there.1, there.2.1⟩]
  · have outside : ¬ (x' / 8 = column ∧ y' = y ∧ x' < bitmap.width) :=
      fun here => inside ⟨here.2.2, here.2.1 ▸ hy⟩
    rw [if_neg outside, get_of_outside inside, get_of_outside (by simpa using inside)]

theorem get_set (h : bitmap.Filled) (x y : Nat) (on : Bool) (x' y' : Nat) :
    (bitmap.set x y on).get x' y' =
      if x' = x ∧ y' = y ∧ x < bitmap.width ∧ y < bitmap.height then on
      else bitmap.get x' y' := by
  by_cases inside : x < bitmap.width ∧ y < bitmap.height
  · rw [set_eq_setByte h inside.1 inside.2, get_setByte h inside.2, testBit_painted]
    by_cases here : x' = x ∧ y' = y
    · obtain ⟨rfl, rfl⟩ := here
      rw [if_pos ⟨rfl, rfl, inside.1⟩, if_pos rfl, if_pos ⟨rfl, rfl, inside⟩]
    · rw [if_neg (c := x' = x ∧ _) fun there => here ⟨there.1, there.2.1⟩]
      -- the other pixels of the byte are written with what they show
      by_cases same : x' / 8 = x / 8 ∧ y' = y ∧ x' < bitmap.width
      · obtain ⟨byte, rfl, hx⟩ := same
        have other : x % 8 ≠ x' % 8 := fun bit => here ⟨by omega, rfl⟩
        rw [if_pos ⟨byte, rfl, hx⟩, if_neg other, ← byte, get_eq_testBit hx inside.2]
      · rw [if_neg same]
  · rw [set_of_outside inside, if_neg fun here => inside here.2.2]

end SoundEffect.Bitmap
