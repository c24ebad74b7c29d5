import SoundEffect.Proofs.BarChart.Cells

namespace SoundEffect.BarChart

variable {bitmap : Bitmap} {width height : Nat}

theorem sized_drawCell (sized : bitmap.Sized width height) (fill : Fill) (cell : Nat)
    (samples : List Sample) : (drawCell fill bitmap cell samples).Sized width height := by
  obtain ⟨sameWidth, sameHeight, filled, -⟩ := drawCell_spec fill cell samples sized.filled
  exact ⟨sameWidth.trans sized.width, sameHeight.trans sized.height, filled⟩

theorem byteAt_drawCell (sized : bitmap.Sized width height) (fill : Fill) (cell : Nat)
    (samples : List Sample) {column y : Nat} (hc : column < Bitmap.strideOf width)
    (hy : y < height) :
    (drawCell fill bitmap cell samples).byteAt column y =
      if column = cell ∧ y < 64 then cellByte fill samples y else bitmap.byteAt column y :=
  (drawCell_spec fill cell samples sized.filled).2.2.2 column y (sized.stride.symm ▸ hc)
    (sized.height.symm ▸ hy)

theorem drawCell_comm (sized : bitmap.Sized width height) {cell cell' : Nat}
    (different : cell' ≠ cell) (fill fill' : Fill) (samples samples' : List Sample) :
    drawCell fill' (drawCell fill bitmap cell samples) cell' samples' =
      drawCell fill (drawCell fill' bitmap cell' samples') cell samples := by
  have first := sized_drawCell sized fill cell samples
  have second := sized_drawCell sized fill' cell' samples'
  refine (sized_drawCell first fill' cell' samples').ext (sized_drawCell second fill cell samples)
    fun column y hc hy => ?_
  rw [byteAt_drawCell first fill' cell' samples' hc hy,
    byteAt_drawCell sized fill cell samples hc hy, byteAt_drawCell second fill cell samples hc hy,
    byteAt_drawCell sized fill' cell' samples' hc hy]
  -- the two cells have no byte in common
  by_cases here : column = cell ∧ y < 64
  · have elsewhere : ¬ (column = cell' ∧ y < 64) :=
      fun there => different (there.1.symm.trans here.1)
    rw [if_neg elsewhere, if_pos here, if_pos here]
  · rw [if_neg here, if_neg here]

theorem drawCell_drawCell (sized : bitmap.Sized width height) (cell : Nat) (fill fill' : Fill)
    (samples samples' : List Sample) :
    drawCell fill' (drawCell fill bitmap cell samples) cell samples' =
      drawCell fill' bitmap cell samples' := by
  have first := sized_drawCell sized fill cell samples
  refine (sized_drawCell first fill' cell samples').ext (sized_drawCell sized fill' cell samples')
    fun column y hc hy => ?_
  rw [byteAt_drawCell first fill' cell samples' hc hy,
    byteAt_drawCell sized fill cell samples hc hy, byteAt_drawCell sized fill' cell samples' hc hy]
  by_cases here : column = cell ∧ y < 64
  · rw [if_pos here, if_pos here]
  · rw [if_neg here, if_neg here, if_neg here]

/-- What drawing the samples of one cell makes of a picture. The bits of a byte are counted from
the left. -/
structure Redrawn (fill : Fill) (cell : Nat) (samples : List Sample) (before after : Bitmap) :
    Prop where
  width : after.width = before.width
  height : after.height = before.height
  size : after.data.size = before.data.size
  envelope : cell < before.stride → ∀ j (_ : j < samples.length), ∀ y < 32, y < before.height →
    (after.byteAt cell y).toNat.testBit (7 - j) =
      (decide (31 - min samples[j].envelope.toNat 31 ≤ y) ^^ inverts fill j y)
  frequency : cell < before.stride → ∀ j (_ : j < samples.length), ∀ y < 32,
    32 + y < before.height →
      (after.byteAt cell (32 + y)).toNat.testBit (7 - j) =
        (decide (31 - min samples[j].frequency.toNat 31 ≤ y) ^^ inverts fill j y)
  elsewhere : ∀ column y, column < before.stride → y < before.height → column ≠ cell ∨ 64 ≤ y →
    after.byteAt column y = before.byteAt column y
  outside : before.stride ≤ cell → after = before

theorem getElem?_pixel {samples : List Sample} (eight : samples.length = 8) {j : Nat}
    (hj : j < samples.length) : samples[j % 8]? = some samples[j] := by
  rw [Nat.mod_eq_of_lt (eight ▸ hj), List.getElem?_eq_getElem hj]

theorem redrawn_drawCell (h : bitmap.Filled) (fill : Fill) (cell : Nat) {samples : List Sample}
    (eight : samples.length = 8) :
    Redrawn fill cell samples bitmap (drawCell fill bitmap cell samples) where
  width := (sized_drawCell h.sized fill cell samples).width
  height := (sized_drawCell h.sized fill cell samples).height
  size := by
    have sized := sized_drawCell h.sized fill cell samples
    rw [sized.filled, sized.stride, sized.height, h, h.sized.stride]
  envelope inside j hj y hy row := by
    have bit := @testBit_cellByte_upper fill samples eight j y _ (getElem?_pixel eight hj) hy
    rw [Nat.mod_eq_of_lt (eight ▸ hj)] at bit
    rw [byteAt_drawCell h.sized fill cell samples inside row,
      if_pos ⟨rfl, Nat.lt_add_right 32 hy⟩, bit]
  frequency inside j hj y hy row := by
    have bit := @testBit_cellByte_lower fill samples eight j y _ (getElem?_pixel eight hj) hy
    rw [Nat.mod_eq_of_lt (eight ▸ hj), inverts_lower] at bit
    rw [byteAt_drawCell h.sized fill cell samples inside row,
      if_pos ⟨rfl, Nat.add_lt_add_left hy 32⟩]
    exact bit
  elsewhere column y hc hy away := by
    have apart : ¬ (column = cell ∧ y < 64) :=
      fun here => away.elim (fun other => other here.1) (Nat.not_le.mpr here.2)
    rw [byteAt_drawCell h.sized fill cell samples hc hy, if_neg apart]
  outside past := by
    refine (sized_drawCell h.sized fill cell samples).ext h.sized fun column y hc hy => ?_
    have apart : ¬ (column = cell ∧ y < 64) := fun here => Nat.not_le.mpr hc (here.1 ▸ past)
    rw [byteAt_drawCell h.sized fill cell samples hc hy, if_neg apart]

theorem drawCell_local (h : bitmap.Filled) (fill : Fill) (cell : Nat) (samples : List Sample)
    (eight : samples.length = 8) :
    Redrawn fill cell samples bitmap (drawCell fill bitmap cell samples) ∧
      (∀ fill' cell' samples', cell' ≠ cell →
        drawCell fill' (drawCell fill bitmap cell samples) cell' samples' =
          drawCell fill (drawCell fill' bitmap cell' samples') cell samples) ∧
      ∀ fill' samples', drawCell fill' (drawCell fill bitmap cell samples) cell samples' =
        drawCell fill' bitmap cell samples' := by
  refine ⟨redrawn_drawCell h fill cell eight, ?_, ?_⟩
  · intro fill' cell' samples' different
    exact drawCell_comm h.sized different fill fill' samples samples'
  · intro fill' samples'
    exact drawCell_drawCell h.sized cell fill fill' samples samples'

def jagged : List Sample :=
  [⟨200, 0⟩, ⟨0, 255⟩, ⟨31, 5⟩, ⟨4, 30⟩, ⟨5, 6⟩, ⟨6, 7⟩, ⟨7, 8⟩, ⟨8, 9⟩]

def cramped : Bitmap :=
  (Bitmap.blank 12 40).setByte 1 3 0xFF

theorem drawCell_local_jagged :
    cramped.Filled ∧ jagged.length = 8 ∧
      ∃ drawn, drawCell .textured cramped 1 jagged = drawn ∧
        (drawn.byteAt 1 1).toNat.testBit 7 = true ∧ (drawn.byteAt 1 1).toNat.testBit 5 = false ∧
        (drawn.byteAt 1 32).toNat.testBit 6 = true ∧ drawn.byteAt 0 1 = cramped.byteAt 0 1 ∧
        drawCell .textured drawn 1 jagged = drawn ∧ drawCell .solid cramped 2 jagged = cramped := by
  have filled : cramped.Filled := (Bitmap.filled_blank 12 40).setByte 1 3 0xFF
  have eight : jagged.length = 8 := rfl
  obtain ⟨drawn, -, again⟩ := drawCell_local filled .textured 1 jagged eight
  obtain ⟨outside, -⟩ := drawCell_local filled .solid 2 jagged eight
  refine ⟨filled, eight, _, rfl, ?_, ?_, ?_, ?_, again .textured jagged,
    outside.outside (by decide)⟩
  · exact (drawn.envelope (by decide) 0 (by decide) 1 (by decide) (by decide)).trans (by decide)
  · exact (drawn.envelope (by decide) 2 (by decide) 1 (by decide) (by decide)).trans (by decide)
  · exact (drawn.frequency (by decide) 1 (by decide) 0 (by decide) (by decide)).trans (by decide)
  · exact drawn.elsewhere 0 1 (by decide) (by decide) (.inl (by decide))

end SoundEffect.BarChart
