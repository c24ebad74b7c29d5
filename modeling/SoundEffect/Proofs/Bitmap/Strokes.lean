import Mathlib.Algebra.Order.Floor.Div
import Mathlib.Data.List.Induction
import SoundEffect.Proofs.Bitmap.Addresses

namespace SoundEffect.Bitmap

inductive Stroke where
  | set (x y : Nat) (on : Bool)
  | setByte (column y : Nat) (value : UInt8)
  | clear
  deriving DecidableEq, Repr

def draw (bitmap : Bitmap) : Stroke → Bitmap
  | .set x y on => bitmap.set x y on
  | .setByte column y value => bitmap.setByte column y value
  | .clear => bitmap.clear

def drawn (width height : Nat) (strokes : List Stroke) : Bitmap :=
  strokes.foldl draw (blank width height)

def Stroke.over? (x y : Nat) : Stroke → Option Bool
  | .set x' y' on => if x = x' ∧ y = y' then some on else none
  | .setByte column y' value =>
      if x / 8 = column ∧ y = y' then some (value.toNat.testBit (7 - x % 8)) else none
  | .clear => none

def lastOver (strokes : List Stroke) (x y : Nat) : Bool :=
  ((strokes.reverse.takeWhile (· ≠ .clear)).findSome? (·.over? x y)).getD false

theorem drawn_concat (width height : Nat) (strokes : List Stroke) (stroke : Stroke) :
    drawn width height (strokes ++ [stroke]) = (drawn width height strokes).draw stroke :=
  List.foldl_concat draw (blank width height) stroke strokes

theorem lastOver_concat_clear (strokes : List Stroke) (x y : Nat) :
    lastOver (strokes ++ [.clear]) x y = false := by
  simp [lastOver]

theorem lastOver_concat (strokes : List Stroke) {stroke : Stroke} (writes : stroke ≠ .clear)
    (x y : Nat) :
    lastOver (strokes ++ [stroke]) x y = (stroke.over? x y).getD (lastOver strokes x y) := by
  rw [lastOver, List.reverse_concat, List.takeWhile_cons, if_pos (decide_eq_true writes),
    List.findSome?_cons]
  cases stroke.over? x y with
  | none => rfl
  | some on => rfl

variable {bitmap : Bitmap} {width height : Nat}

theorem Sized.draw (sized : bitmap.Sized width height) (stroke : Stroke) :
    (bitmap.draw stroke).Sized width height := by
  obtain ⟨rfl, rfl, h⟩ := sized
  cases stroke with
  | set x y on => exact ⟨width_set x y on, height_set x y on, h.set x y on⟩
  | setByte column y value =>
      exact ⟨width_setByte column y value, height_setByte column y value, h.setByte column y value⟩
  | clear => exact (filled_clear bitmap).sized

theorem get_draw (sized : bitmap.Sized width height) {stroke : Stroke} (writes : stroke ≠ .clear)
    {x y : Nat} (hx : x < width) (hy : y < height) :
    (bitmap.draw stroke).get x y = (stroke.over? x y).getD (bitmap.get x y) := by
  obtain ⟨rfl, rfl, h⟩ := sized
  cases stroke with
  | set x' y' on =>
      rw [draw, get_set h, Stroke.over?]
      by_cases here : x = x' ∧ y = y'
      · obtain ⟨rfl, rfl⟩ := here
        rw [if_pos ⟨rfl, rfl, hx, hy⟩, if_pos ⟨rfl, rfl⟩, Option.getD_some]
      · rw [if_neg fun there => here ⟨there.1, there.2.1⟩, if_neg here, Option.getD_none]
  | setByte column y' value =>
      rw [draw, Stroke.over?]
      by_cases here : x / 8 = column ∧ y = y'
      · obtain ⟨rfl, rfl⟩ := here
        rw [get_setByte h hy, if_pos ⟨rfl, rfl, hx⟩, if_pos ⟨rfl, rfl⟩, Option.getD_some]
      · rw [if_neg here, Option.getD_none]
        by_cases row : y' < bitmap.height
        · rw [get_setByte h row, if_neg fun there => here ⟨there.1, there.2.1⟩]
        · rw [setByte_of_outside fun inside => row inside.2]
  | clear => exact absurd rfl writes

theorem sized_drawn (width height : Nat) (strokes : List Stroke) :
    (drawn width height strokes).Sized width height := by
  induction strokes using List.reverseRecOn with
  | nil => exact (filled_blank width height).sized
  | append_singleton strokes stroke ih =>
      rw [drawn_concat]
      exact ih.draw stroke

theorem get_drawn (strokes : List Stroke) {x y : Nat} (hx : x < width) (hy : y < height) :
    (drawn width height strokes).get x y = lastOver strokes x y := by
  -- by the last stroke, which is the first that counts
  induction strokes using List.reverseRecOn with
  | nil => exact get_blank width height x y
  | append_singleton strokes stroke ih =>
      have sized := sized_drawn width height strokes
      rw [drawn_concat]
      by_cases cleared : stroke = .clear
      · rw [cleared, lastOver_concat_clear]
        exact get_blank _ _ x y
      · rw [get_draw sized cleared hx hy, lastOver_concat strokes cleared, ih]

/-- A picture whose pixels are written each by itself. The first three laws say that whoever counts
in machine words never meets a number that is too large or an index outside of the data. -/
structure Grid (width height : Nat) (bitmap : Bitmap) : Prop where
  reads : ∀ x y, bitmap.get? x y = some (bitmap.get x y)
  sets : ∀ x y on, bitmap.set? x y on = some (bitmap.set x y on)
  setsByte : ∀ column y value, bitmap.setByte? column y value = some (bitmap.setByte column y value)
  size : bitmap.data.size = width ⌈/⌉ 8 * height
  pixel : ∀ x y on, x < width → y < height → (bitmap.set x y on).get x y = on
  otherPixels : ∀ x y on x' y', (x', y') ≠ (x, y) →
    (bitmap.set x y on).get x' y' = bitmap.get x' y'
  byte : ∀ column y value, column < bitmap.stride → y < height → ∀ j < 8, 8 * column + j < width →
    (bitmap.setByte column y value).get (8 * column + j) y = value.toNat.testBit (7 - j)
  otherBytes : ∀ column y value x' y', (x' / 8, y') ≠ (column, y) →
    (bitmap.setByte column y value).get x' y' = bitmap.get x' y'
  cleared : ∀ x y, bitmap.clear.get x y = false
  outside : ∀ x y, ¬ (x < width ∧ y < height) →
    bitmap.get x y = false ∧ ∀ on, bitmap.set x y on = bitmap
  outsideByte : ∀ column y, ¬ (column < bitmap.stride ∧ y < height) →
    ∀ value, bitmap.setByte column y value = bitmap

theorem Sized.grid (sized : bitmap.Sized width height)
    (addressable : width ⌈/⌉ 8 * height < USize.size) : Grid width height bitmap := by
  obtain ⟨rfl, rfl, h⟩ := sized
  have words : bitmap.Addressable := by rwa [Addressable, h]
  constructor
  case reads => exact get?_eq h words
  case sets => exact set?_eq h words
  case setsByte => exact setByte?_eq h words
  case size => exact h
  case pixel =>
    intro x y on hx hy
    rw [get_set h, if_pos ⟨rfl, rfl, hx, hy⟩]
  case otherPixels =>
    intro x y on x' y' other
    rw [get_set h, if_neg fun here => other (Prod.ext here.1 here.2.1)]
  case byte =>
    intro column y value _ hy j hj hx
    have place : (8 * column + j) / 8 = column := by omega
    have bit : (8 * column + j) % 8 = j := by omega
    rw [get_setByte h hy, if_pos ⟨place, rfl, hx⟩, bit]
  case otherBytes =>
    intro column y value x' y' other
    by_cases row : y < bitmap.height
    · rw [get_setByte h row, if_neg fun here => other (Prod.ext here.1 here.2.1)]
    · rw [setByte_of_outside fun inside => row inside.2]
  case cleared => exact get_blank bitmap.width bitmap.height
  case outside =>
    intro x y outside
    exact ⟨get_of_outside outside, set_of_outside outside⟩
  case outsideByte =>
    intro column y outside
    exact setByte_of_outside outside

theorem drawn_pixelwise (width height : Nat) (addressable : width ⌈/⌉ 8 * height < USize.size)
    (strokes : List Stroke) :
    Grid width height (drawn width height strokes) ∧
      ∀ x < width, ∀ y < height,
        (drawn width height strokes).get x y = lastOver strokes x y := by
  refine ⟨(sized_drawn width height strokes).grid addressable, ?_⟩
  intro x hx y hy
  exact get_drawn strokes hx hy

def scribble : List Stroke :=
  [.set 0 0 true, .clear, .set 10 2 true, .setByte 1 2 0x55, .set 12 1 true, .set 11 2 false,
    .setByte 2 0 0xFF]

theorem drawn_pixelwise_scribble :
    12 ⌈/⌉ 8 * 3 < USize.size ∧
      (drawn 12 3 scribble).data.size = 6 ∧ (drawn 12 3 scribble).get 0 0 = false ∧
      (drawn 12 3 scribble).get 9 2 = true ∧ (drawn 12 3 scribble).get 10 2 = false ∧
      (drawn 12 3 scribble).get 11 2 = false ∧ (drawn 12 3 scribble).get 12 1 = false := by
  have small : 12 ⌈/⌉ 8 * 3 = 6 := rfl
  have addressable : 12 ⌈/⌉ 8 * 3 < USize.size := by
    have := USize.le_size
    omega
  obtain ⟨grid, shown⟩ := drawn_pixelwise 12 3 addressable scribble
  refine ⟨addressable, grid.size.trans small, ?_, ?_, ?_, ?_, (grid.outside 12 1 (by decide)).1⟩
  · exact (shown 0 (by decide) 0 (by decide)).trans (by decide)
  · exact (shown 9 (by decide) 2 (by decide)).trans (by decide)
  · exact (shown 10 (by decide) 2 (by decide)).trans (by decide)
  · exact (shown 11 (by decide) 2 (by decide)).trans (by decide)

end SoundEffect.Bitmap
