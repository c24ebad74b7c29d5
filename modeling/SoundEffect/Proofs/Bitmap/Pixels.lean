import Mathlib.Data.Nat.Bitwise
import SoundEffect.Bitmap

namespace SoundEffect.Bitmap

theorem toNat_pixelMask (x : Nat) : (pixelMask x).toNat = 2 ^ (7 - x % 8) := by
  have masks : ∀ k < 8, (0x80 >>> UInt8.ofNat k : UInt8).toNat = 2 ^ (7 - k) := by decide
  exact masks (x % 8) (Nat.mod_lt x (by decide))

theorem testBit_or_pixelMask (byte : UInt8) (x x' : Nat) :
    (byte ||| pixelMask x).toNat.testBit (7 - x' % 8) =
      (byte.toNat.testBit (7 - x' % 8) || decide (x % 8 = x' % 8)) := by
  have same : decide (7 - x % 8 = 7 - x' % 8) = decide (x % 8 = x' % 8) :=
    decide_eq_decide.mpr (by omega)
  rw [UInt8.toNat_or, Nat.testBit_or, toNat_pixelMask, Nat.testBit_two_pow, same]

theorem testBit_and_not_pixelMask (byte : UInt8) (x x' : Nat) :
    (byte &&& ~~~pixelMask x).toNat.testBit (7 - x' % 8) =
      (byte.toNat.testBit (7 - x' % 8) && decide (x % 8 ≠ x' % 8)) := by
  have masks : ∀ k < 8, ∀ j < 8,
      (~~~(0x80 >>> UInt8.ofNat k : UInt8)).toNat.testBit (7 - j) = decide (k ≠ j) := by decide
  rw [UInt8.toNat_and, Nat.testBit_and, ← masks (x % 8) (Nat.mod_lt x (by decide)) (x' % 8)
    (Nat.mod_lt x' (by decide)), pixelMask]

theorem and_pixelMask_ne_zero (byte : UInt8) (x : Nat) :
    (byte &&& pixelMask x != 0) = byte.toNat.testBit (7 - x % 8) := by
  have value : (byte &&& pixelMask x).toNat =
      (byte.toNat.testBit (7 - x % 8)).toNat * 2 ^ (7 - x % 8) := by
    rw [UInt8.toNat_and, toNat_pixelMask, Nat.and_two_pow]
  rw [bne, Bool.eq_iff_iff, Bool.not_eq_true', beq_eq_false_iff_ne, ne_eq, ← UInt8.toNat_inj,
    value]
  cases byte.toNat.testBit (7 - x % 8) <;> simp

def Filled (bitmap : Bitmap) : Prop :=
  bitmap.data.size = bitmap.stride * bitmap.height

def byteAt (bitmap : Bitmap) (column y : Nat) : UInt8 :=
  bitmap.data.getD (bitmap.byteIndex column y) 0

variable {bitmap : Bitmap}

theorem get_eq_testBit {x y : Nat} (hx : x < bitmap.width) (hy : y < bitmap.height) :
    bitmap.get x y = (bitmap.byteAt (x / 8) y).toNat.testBit (7 - x % 8) := by
  rw [get, if_pos ⟨hx, hy⟩, and_pixelMask_ne_zero, byteAt]

theorem filled_blank (width height : Nat) : (blank width height).Filled := by
  simp [Filled, blank, stride]

theorem byteIndex_lt {column y : Nat} (hc : column < bitmap.stride) (hy : y < bitmap.height) :
    bitmap.byteIndex column y < bitmap.stride * bitmap.height := by
  have : (y + 1) * bitmap.stride ≤ bitmap.height * bitmap.stride := Nat.mul_le_mul_right _ hy
  rw [Nat.mul_comm bitmap.stride]
  simp only [byteIndex]
  rw [Nat.add_mul] at this
  omega

theorem Filled.row_eq (h : bitmap.Filled) {y : Nat} (hy : y < bitmap.height) :
    bitmap.row y = (List.range bitmap.stride).map (bitmap.byteAt · y) := by
  apply List.ext_getElem?
  intro column
  rw [row, List.getElem?_take, List.getElem?_drop, List.getElem?_map]
  by_cases hc : column < bitmap.stride
  · have slot : y * bitmap.stride + column < bitmap.data.size := h ▸ byteIndex_lt hc hy
    rw [if_pos hc, List.getElem?_range hc, Array.getElem?_toList, Array.getElem?_eq_getElem slot,
      Option.map_some, byteAt, byteIndex, Array.getElem_eq_getD]
  · rw [if_neg hc, List.getElem?_eq_none (by simpa using hc), Option.map_none]

theorem Filled.row_eq_nil (h : bitmap.Filled) {y : Nat} (hy : bitmap.height ≤ y) :
    bitmap.row y = [] := by
  have past : bitmap.data.toList.length ≤ y * bitmap.stride := by
    rw [Array.length_toList, h, Nat.mul_comm]
    exact Nat.mul_le_mul_right _ hy
  rw [row, List.drop_eq_nil_of_le past, List.take_nil]

theorem byteIndex_inj {column y column' y' : Nat} (hc : column < bitmap.stride)
    (hc' : column' < bitmap.stride)
    (h : bitmap.byteIndex column y = bitmap.byteIndex column' y') : column = column' ∧ y = y' := by
  simp only [byteIndex] at h
  have columns := congrArg (· % bitmap.stride) h
  simp only [Nat.mul_add_mod_self_right, Nat.mod_eq_of_lt hc, Nat.mod_eq_of_lt hc'] at columns
  subst columns
  exact ⟨rfl, Nat.eq_of_mul_eq_mul_right (Nat.zero_lt_of_lt hc) (Nat.add_right_cancel h)⟩

theorem exists_byteIndex {i : Nat} (inside : i < bitmap.stride * bitmap.height) :
    ∃ column y, column < bitmap.stride ∧ y < bitmap.height ∧ bitmap.byteIndex column y = i := by
  have wide : 0 < bitmap.stride := Nat.pos_of_lt_mul_right inside
  refine ⟨i % bitmap.stride, i / bitmap.stride, Nat.mod_lt i wide,
    Nat.div_lt_of_lt_mul inside, ?_⟩
  rw [byteIndex, Nat.mul_comm]
  exact Nat.div_add_mod i bitmap.stride

structure Sized (width height : Nat) (bitmap : Bitmap) : Prop where
  width : bitmap.width = width
  height : bitmap.height = height
  filled : bitmap.Filled

theorem Filled.sized (h : bitmap.Filled) : bitmap.Sized bitmap.width bitmap.height :=
  ⟨rfl, rfl, h⟩

theorem Sized.stride {width height : Nat} (sized : bitmap.Sized width height) :
    bitmap.stride = strideOf width :=
  congrArg strideOf sized.width

theorem Sized.ext {width height : Nat} {a b : Bitmap} (ha : a.Sized width height)
    (hb : b.Sized width height)
    (bytes : ∀ column y, column < strideOf width → y < height →
      a.byteAt column y = b.byteAt column y) : a = b := by
  have stride : a.stride = b.stride := ha.stride.trans hb.stride.symm
  have sameWidth : a.width = b.width := ha.width.trans hb.width.symm
  have sameHeight : a.height = b.height := ha.height.trans hb.height.symm
  have data : a.data = b.data := by
    apply Array.ext (by rw [ha.filled, hb.filled, stride, sameHeight])
    intro i hi hi'
    obtain ⟨column, y, hc, hy, here⟩ := exists_byteIndex (ha.filled ▸ hi)
    have there : b.byteIndex column y = i := by rw [byteIndex, ← stride, ← here, byteIndex]
    have same := bytes column y (ha.stride ▸ hc) (ha.height ▸ hy)
    rwa [byteAt, byteAt, here, there, ← Array.getElem_eq_getD, ← Array.getElem_eq_getD] at same
  cases a
  cases b
  simp only [mk.injEq]
  exact ⟨sameWidth, sameHeight, data⟩

@[simp] theorem width_setByte (column y : Nat) (value : UInt8) :
    (bitmap.setByte column y value).width = bitmap.width := by
  simp only [setByte]
  split <;> rfl

@[simp] theorem height_setByte (column y : Nat) (value : UInt8) :
    (bitmap.setByte column y value).height = bitmap.height := by
  simp only [setByte]
  split <;> rfl

theorem Filled.setByte (h : bitmap.Filled) (column y : Nat) (value : UInt8) :
    (bitmap.setByte column y value).Filled := by
  simp only [Bitmap.setByte]
  split
  · simpa [Filled, stride] using h
  · exact h

theorem byteAt_setByte (h : bitmap.Filled) {column y column' y' : Nat} {value : UInt8}
    (hc : column < bitmap.stride) (hy : y < bitmap.height) :
    (bitmap.setByte column' y' value).byteAt column y =
      if column = column' ∧ y = y' then value else bitmap.byteAt column y := by
  by_cases inside : column' < bitmap.stride ∧ y' < bitmap.height
  · have slot : bitmap.byteIndex column' y' < bitmap.data.size :=
      h ▸ byteIndex_lt inside.1 inside.2
    have same : bitmap.byteIndex column' y' = bitmap.byteIndex column y ↔
        column = column' ∧ y = y' := by
      refine ⟨fun eq => ?_, fun ⟨eq, eq'⟩ => by rw [eq, eq']⟩
      obtain ⟨columns, rows⟩ := byteIndex_inj inside.1 hc eq
      exact ⟨columns.symm, rows.symm⟩
    rw [setByte, if_pos inside]
    change (bitmap.data.setIfInBounds (bitmap.byteIndex column' y') value).getD
      (bitmap.byteIndex column y) 0 = _
    rw [Array.getD_eq_getD_getElem?, Array.getElem?_setIfInBounds, if_pos slot]
    by_cases here : column = column' ∧ y = y'
    · rw [if_pos (same.mpr here), if_pos here, Option.getD_some]
    · rw [if_neg (fun eq => here (same.mp eq)), if_neg here, byteAt,
        Array.getD_eq_getD_getElem?]
  · have elsewhere : ¬ (column = column' ∧ y = y') :=
      fun ⟨eq, eq'⟩ => inside ⟨eq ▸ hc, eq' ▸ hy⟩
    rw [setByte, if_neg inside, if_neg elsewhere]

end SoundEffect.Bitmap
