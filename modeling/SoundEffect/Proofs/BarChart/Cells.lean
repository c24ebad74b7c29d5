import SoundEffect.BarChart
import SoundEffect.Proofs.Bitmap.Pixels

namespace SoundEffect.BarChart

def inverts (fill : Fill) (x y : Nat) : Bool :=
  fill = .textured && y % 2 = 1 && (x % 8 = 2 || x % 8 = 6)

theorem inverts_lower (fill : Fill) (x y : Nat) :
    inverts fill x (panelHeight + y) = inverts fill x y := by
  simp only [inverts, panelHeight, show (32 + y) % 2 = y % 2 by omega]

theorem topRow_eq (height : UInt8) : topRow height = 31 - min height.toNat 31 := by
  have least : (min height barMax).toNat = min height.toNat 31 := UInt8.toNat_min _ _
  simp [topRow, panelHeight, least]

theorem testBit_foldl_mark (row : Nat) {j : Nat} (hj : j < 8) (heights : List UInt8) (k : Nat)
    (byte : UInt8) (fits : k + heights.length ≤ 8) :
    ((heights.zipIdx k).foldl
        (fun byte (height, x) =>
          if topRow height = row then byte ||| Bitmap.pixelMask x else byte) byte).toNat.testBit
        (7 - j) =
      (byte.toNat.testBit (7 - j) ||
        (decide (k ≤ j) && (heights[j - k]?).any fun height => topRow height = row)) := by
  induction heights generalizing k byte with
  | nil => simp
  | cons height heights ih =>
      simp only [List.length_cons] at fits
      rw [List.zipIdx_cons, List.foldl_cons, ih (k + 1) _ (by omega)]
      have head :
          (if topRow height = row then byte ||| Bitmap.pixelMask k else byte).toNat.testBit (7 - j) =
            (byte.toNat.testBit (7 - j) || (decide (topRow height = row) && decide (k = j))) := by
        by_cases top : topRow height = row
        · have bit := Bitmap.testBit_or_pixelMask byte k j
          rw [Nat.mod_eq_of_lt hj, Nat.mod_eq_of_lt (show k < 8 by omega)] at bit
          rw [if_pos top, bit, decide_eq_true top, Bool.true_and]
        · simp [top]
      rw [head]
      rcases Nat.lt_trichotomy k j with h | rfl | h
      · obtain ⟨d, rfl⟩ := Nat.exists_eq_add_of_lt h
        have rest : k + d + 1 - k = d + 1 := by omega
        have rest' : k + d + 1 - (k + 1) = d := by omega
        simp [rest, rest', show k + 1 ≤ k + d + 1 by omega, show k ≤ k + d + 1 by omega,
          show k ≠ k + d + 1 by omega]
      · simp
      · simp [show ¬ k ≤ j by omega, show ¬ k + 1 ≤ j by omega, show k ≠ j by omega]

theorem testBit_marks {heights : List UInt8} (eight : heights.length = 8) (row : Nat) {j : Nat}
    (hj : j < 8) :
    (marks heights row).toNat.testBit (7 - j) = decide (topRow (heights.getD j 0) = row) := by
  have whole : heights.take cellWidth = heights :=
    List.take_of_length_le (by simp [eight, cellWidth])
  have here : heights[j]? = some heights[j] := List.getElem?_eq_getElem (by omega)
  rw [marks, whole, testBit_foldl_mark row hj heights 0 0 (by omega)]
  simp [List.getD_eq_getElem?_getD, here]

theorem testBit_smear (bit : Nat) (marks : List UInt8) (above : UInt8) {row : Nat}
    (hr : row < marks.length) :
    ((smear above marks).getD row 0).toNat.testBit bit =
      (above.toNat.testBit bit ||
        (marks.take (row + 1)).any fun mark => mark.toNat.testBit bit) := by
  induction marks generalizing above row with
  | nil => exact absurd hr (Nat.not_lt_zero row)
  | cons mark marks ih =>
      cases row with
      | zero => simp [smear]
      | succ row =>
          rw [smear, List.getD_cons_succ, ih _ (Nat.lt_of_succ_lt_succ hr)]
          simp [Bool.or_assoc]

theorem length_smear (above : UInt8) (marks : List UInt8) :
    (smear above marks).length = marks.length := by
  induction marks generalizing above with
  | nil => rfl
  | cons mark marks ih => simp [smear, ih]

theorem testBit_bars {heights : List UInt8} (eight : heights.length = 8) {row j : Nat}
    (hr : row < panelHeight) (hj : j < 8) :
    ((smear 0 ((List.range panelHeight).map (marks heights))).getD row 0).toNat.testBit (7 - j) =
      decide (topRow (heights.getD j 0) ≤ row) := by
  have first : ((List.range panelHeight).map (marks heights)).take (row + 1) =
      (List.range (row + 1)).map (marks heights) := by
    rw [← List.map_take, List.take_range, Nat.min_eq_left hr]
  rw [testBit_smear _ _ _ (by simpa using hr), first, List.any_map, Bool.eq_iff_iff]
  simp only [UInt8.toNat_zero, Nat.zero_testBit, Bool.false_or, List.any_eq_true, List.mem_range,
    Function.comp_apply, testBit_marks eight _ hj, decide_eq_true_eq, exists_eq_right',
    Nat.lt_succ_iff]

theorem testBit_texture {j : Nat} (hj : j < 8) :
    texture.toNat.testBit (7 - j) = decide (j = 2 ∨ j = 6) := by
  have bits : ∀ j < 8, texture.toNat.testBit (7 - j) = decide (j = 2 ∨ j = 6) := by decide
  exact bits j hj

theorem length_panel (fill : Fill) (heights : List UInt8) :
    (panel fill heights).length = panelHeight := by
  simp [panel, length_smear]

theorem testBit_panel (fill : Fill) {heights : List UInt8} (eight : heights.length = 8)
    {row j : Nat} (hr : row < panelHeight) (hj : j < 8) :
    ((panel fill heights).getD row 0).toNat.testBit (7 - j) =
      (decide (31 - min (heights.getD j 0).toNat 31 ≤ row) ^^ inverts fill j row) := by
  have bars := testBit_bars eight hr hj
  have inside : row < (smear 0 ((List.range panelHeight).map (marks heights))).length := by
    simpa [length_smear] using hr
  have bar := List.getElem?_eq_getElem inside
  generalize (smear 0 ((List.range panelHeight).map (marks heights)))[row] = byte at bar
  rw [List.getD_eq_getElem?_getD, bar, Option.getD_some, topRow_eq] at bars
  rw [← bars, panel, List.getD_eq_getElem?_getD, List.getElem?_map, List.getElem?_zipIdx, bar]
  simp only [Option.map_some, Nat.zero_add, Option.getD_some]
  cases fill with
  | solid => simp [inverts]
  | textured =>
      by_cases odd : row % 2 = 1
      · simp [inverts, odd, testBit_texture hj, Nat.mod_eq_of_lt hj]
      · simp [inverts, odd]

variable {bitmap : Bitmap}

theorem foldl_setByte_spec (cell top : Nat) (rows : List UInt8) (k : Nat) (h : bitmap.Filled) :
    let drawn := (rows.zipIdx k).foldl
      (fun drawn (byte, row) => drawn.setByte cell (top + row) byte) bitmap
    drawn.width = bitmap.width ∧ drawn.height = bitmap.height ∧ drawn.Filled ∧
      ∀ column y, column < bitmap.stride → y < bitmap.height →
        drawn.byteAt column y =
          if column = cell ∧ top + k ≤ y ∧ y < top + k + rows.length then
            rows.getD (y - (top + k)) 0
          else bitmap.byteAt column y := by
  induction rows generalizing bitmap k with
  | nil =>
      refine ⟨rfl, rfl, h, fun column y _ _ => ?_⟩
      rw [if_neg (fun inside => absurd inside.2.2 (Nat.not_lt.mpr inside.2.1))]
      rfl
  | cons byte rows ih =>
      obtain ⟨width, height, filled, bytes⟩ := ih (k + 1) (h.setByte cell (top + k) byte)
      rw [List.zipIdx_cons, List.foldl_cons]
      refine ⟨by simpa using width, by simpa using height, filled, fun column y hc hy => ?_⟩
      rw [bytes column y (by simpa [Bitmap.stride] using hc) (by simpa using hy),
        Bitmap.byteAt_setByte h hc hy]
      by_cases same : column = cell
      · rcases Nat.lt_trichotomy y (top + k) with above | rfl | below
        · simp [same, show ¬ top + (k + 1) ≤ y by omega, show ¬ top + k ≤ y by omega,
            show y ≠ top + k by omega]
        · simp [same, show ¬ top + (k + 1) ≤ top + k by omega]
        · obtain ⟨d, rfl⟩ := Nat.exists_eq_add_of_lt below
          have skip : top + k + d + 1 - (top + k) = d + 1 := by omega
          have skip' : top + k + d + 1 - (top + (k + 1)) = d := by omega
          have start : top + (k + 1) ≤ top + k + d + 1 := by omega
          have stop : top + k + d + 1 < top + (k + 1) + rows.length ↔
              top + k + d + 1 < top + k + (rows.length + 1) := by omega
          simp [same, skip, skip', start, stop, show top + k ≤ top + k + d + 1 by omega,
            show top + k + d + 1 ≠ top + k by omega]
      · simp [same]

theorem drawPanel_spec (cell top : Nat) (rows : List UInt8) (h : bitmap.Filled) :
    let drawn := drawPanel bitmap cell top rows
    drawn.width = bitmap.width ∧ drawn.height = bitmap.height ∧ drawn.Filled ∧
      ∀ column y, column < bitmap.stride → y < bitmap.height →
        drawn.byteAt column y =
          if column = cell ∧ top ≤ y ∧ y < top + rows.length then rows.getD (y - top) 0
          else bitmap.byteAt column y :=
  foldl_setByte_spec cell top rows 0 h

def cellByte (fill : Fill) (samples : List Sample) (y : Nat) : UInt8 :=
  if y < panelHeight then (panel fill (samples.map (·.envelope))).getD y 0
  else (panel fill (samples.map (·.frequency))).getD (y - panelHeight) 0

theorem drawCell_spec (fill : Fill) (cell : Nat) (samples : List Sample) (h : bitmap.Filled) :
    let drawn := drawCell fill bitmap cell samples
    drawn.width = bitmap.width ∧ drawn.height = bitmap.height ∧ drawn.Filled ∧
      ∀ column y, column < bitmap.stride → y < bitmap.height →
        drawn.byteAt column y =
          if column = cell ∧ y < panelHeight + panelHeight then cellByte fill samples y
          else bitmap.byteAt column y := by
  obtain ⟨width, height, filled, bytes⟩ :=
    drawPanel_spec cell 0 (panel fill (samples.map (·.envelope))) h
  obtain ⟨width', height', filled', bytes'⟩ :=
    drawPanel_spec cell panelHeight (panel fill (samples.map (·.frequency))) filled
  refine ⟨width'.trans width, height'.trans height, filled', fun column y hc hy => ?_⟩
  rw [drawCell, bytes' column y (by simpa [Bitmap.stride, width] using hc)
    (by simpa [height] using hy), bytes column y hc hy, length_panel, length_panel]
  by_cases same : column = cell
  · by_cases upper : y < panelHeight
    · simp [same, cellByte, upper, Nat.not_le.mpr upper, Nat.lt_add_right]
    · simp [same, cellByte, upper, Nat.not_lt.mp upper]
  · simp [same]

variable {fill : Fill} {samples : List Sample} (eight : samples.length = 8) {x y : Nat}
  {sample : Sample} (here : samples[x % 8]? = some sample) (hy : y < panelHeight)
include eight here hy

theorem testBit_panel_samples (height : Sample → UInt8) :
    ((panel fill (samples.map height)).getD y 0).toNat.testBit (7 - x % 8) =
      (decide (31 - min (height sample).toNat 31 ≤ y) ^^ inverts fill x y) := by
  have bar : (samples.map height).getD (x % 8) 0 = height sample := by
    rw [List.getD_eq_getElem?_getD, List.getElem?_map, here]
    rfl
  have column : inverts fill (x % 8) y = inverts fill x y := by
    simp only [inverts, Nat.mod_mod]
  rw [testBit_panel fill (by rw [List.length_map, eight]) hy (Nat.mod_lt x (by decide)), bar,
    column]

theorem testBit_cellByte_upper :
    (cellByte fill samples y).toNat.testBit (7 - x % 8) =
      (decide (31 - min sample.envelope.toNat 31 ≤ y) ^^ inverts fill x y) := by
  rw [cellByte, if_pos hy, testBit_panel_samples eight here hy (·.envelope)]

theorem testBit_cellByte_lower :
    (cellByte fill samples (panelHeight + y)).toNat.testBit (7 - x % 8) =
      (decide (31 - min sample.frequency.toNat 31 ≤ y) ^^ inverts fill x (panelHeight + y)) := by
  rw [cellByte, if_neg (Nat.not_lt.mpr (Nat.le_add_right _ _)), Nat.add_sub_cancel_left,
    testBit_panel_samples eight here hy (·.frequency), inverts_lower]

end SoundEffect.BarChart
