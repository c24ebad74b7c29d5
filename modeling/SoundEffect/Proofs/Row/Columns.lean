import SoundEffect.Proofs.Segment.Ranges
import SoundEffect.Proofs.Text.Padding
import SoundEffect.Row

namespace SoundEffect

theorem take_drop_part {α β : Type} [DecidableEq α] {part : α → List β} {size : α → Nat}
    {as : List α} (sized : ∀ a ∈ as, (part a).length = size a) {a : α} (member : a ∈ as) :
    ((as.flatMap part).drop ((as.takeWhile (· ≠ a)).map size).sum).take (size a) = part a := by
  induction as with
  | nil => cases member
  | cons b as ih =>
      have first := sized b List.mem_cons_self
      rw [List.flatMap_cons]
      by_cases same : b = a
      · rw [List.takeWhile_cons_of_neg (by simp [same]), List.map_nil, List.sum_nil, List.drop_zero,
          ← same, ← first, List.take_left]
      · have later := List.mem_of_ne_of_mem (Ne.symm same) member
        rw [List.takeWhile_cons_of_pos (by simp [same]), List.map_cons, List.sum_cons, ← first,
          List.drop_append, List.drop_eq_nil_of_le (Nat.le_add_right _ _), List.nil_append,
          Nat.add_sub_cancel_left]
        exact ih (fun c among => sized c (List.mem_cons_of_mem b among)) later

namespace Field

def width : Field → Nat
  | frequency => 5
  | pulseWidth => 4
  | attack | decay | sustain | release => 1
  | freqGlide => 6
  | pulseGlide => 5
  | gateTicks | releaseTicks => 2

def written (value : Int) : Field → List Char
  | attack | decay | sustain | release => [Text.upperHexDigit value.toNat]
  | freqGlide => Text.signedDecimal freqGlide.width value
  | pulseGlide => Text.signedDecimal pulseGlide.width value
  | field => Text.paddedDecimal field.width value.toNat

variable {field : Field} {value other : Int}

theorem length_written (low : field.lowest ≤ value) (high : value ≤ field.highest) :
    (field.written value).length = field.width := by
  cases field <;> simp only [lowest, highest] at low high
  case attack | decay | sustain | release => rfl
  case freqGlide | pulseGlide => exact Text.length_signedDecimal (by decide) (by omega)
  all_goals exact Text.length_paddedDecimal (by decide) (by simp only [width]; omega)

theorem eq_of_written (low : field.lowest ≤ value) (high : value ≤ field.highest)
    (low' : field.lowest ≤ other) (high' : other ≤ field.highest)
    (same : field.written value = field.written other) : value = other := by
  cases field <;> simp only [lowest, highest] at low high low' high'
  case attack | decay | sustain | release =>
    have digits := Text.upperHexDigit_inj (by omega) (by omega) (List.head_eq_of_cons_eq same)
    omega
  case freqGlide | pulseGlide => exact Text.signedDecimal_injective _ same
  all_goals
    have numbers := Text.paddedDecimal_injective _ same
    omega

end Field

namespace Segment

inductive Column where
  | waveform (waveform : Waveform)
  | gate
  | number (field : Field)
  deriving DecidableEq, Repr

namespace Column

def all : List Column :=
  Waveform.all.map waveform ++ gate :: Field.all.map number

theorem mem_all (column : Column) : column ∈ all := by
  cases column with
  | waveform waveform => cases waveform <;> decide
  | gate => decide
  | number field => cases field <;> decide

def start : Column → Nat
  | waveform .triangle => 0
  | waveform .sawtooth => 1
  | waveform .rectangle => 2
  | waveform .noise => 3
  | gate => 4
  | number .frequency => 6
  | number .pulseWidth => 12
  | number .attack => 17
  | number .decay => 18
  | number .sustain => 19
  | number .release => 20
  | number .freqGlide => 22
  | number .pulseGlide => 29
  | number .gateTicks => 35
  | number .releaseTicks => 38

def width : Column → Nat
  | waveform _ | gate => 1
  | number field => field.width

def gap : Column → List Char
  | waveform _ | gate | number .decay | number .sustain | number .release => []
  | number _ => [' ']

def size (column : Column) : Nat :=
  column.gap.length + column.width

theorem start_eq (column : Column) :
    column.start = ((all.takeWhile (· ≠ column)).map size).sum + column.gap.length := by
  cases column with
  | waveform waveform => cases waveform <;> rfl
  | gate => rfl
  | number field => cases field <;> rfl

end Column

def cell (segment : Segment) : Column → List Char
  | .waveform waveform =>
      [if segment.control.has waveform.line then waveform.letter else '.']
  | .gate => [if segment.gated then 'G' else '.']
  | .number field => field.written (segment.get field)

theorem upperHexByte_nibbles (byte : UInt8) :
    Text.upperHexByte byte =
      [Text.upperHexDigit (byte >>> 4).toNat, Text.upperHexDigit (byte &&& 0x0F).toNat] := by
  rw [Text.upperHexByte_eq, toNat_high_nibble, toNat_low_nibble]

theorem row_eq (segment : Segment) :
    segment.row = Column.all.flatMap fun column => column.gap ++ segment.cell column := by
  rw [row, controlColumn, numericColumns, upperHexByte_nibbles, upperHexByte_nibbles]
  simp only [Column.all, Waveform.all, Field.all, List.map_cons, List.map_nil, List.cons_append,
    List.nil_append, List.flatMap_cons, List.flatMap_nil, List.append_nil,
    Column.gap, cell, Field.written, Field.width, get, attack, decay, sustain, release,
    Int.toNat_natCast]

example : base.row = ".S..G 01000 2048 1186 +00000 +0000 04 00".toList := by
  decide

variable {segment : Segment}

theorem length_cell (ranged : segment.InRange) (column : Column) :
    (segment.cell column).length = column.width := by
  cases column with
  | waveform waveform => rfl
  | gate => rfl
  | number field => exact Field.length_written (ranged field).1 (ranged field).2

theorem length_gap_append_cell (ranged : segment.InRange) (column : Column) :
    (column.gap ++ segment.cell column).length = column.size := by
  rw [List.length_append, length_cell ranged, Column.size]

theorem length_row (ranged : segment.InRange) : segment.row.length = 40 := by
  have sizes := List.map_congr_left fun column (_ : column ∈ Column.all) =>
    length_gap_append_cell ranged column
  rw [row_eq, List.length_flatMap, sizes]
  rfl

theorem take_drop_row (ranged : segment.InRange) (column : Column) :
    (segment.row.drop column.start).take column.width = segment.cell column := by
  have part := take_drop_part (fun column _ => length_gap_append_cell ranged column)
    column.mem_all
  rw [← row_eq] at part
  have rest : column.width = column.size - column.gap.length := by
    rw [Column.size, Nat.add_sub_cancel_left]
  rw [Column.start_eq, ← List.drop_drop, rest, ← List.drop_take, part, List.drop_left]

end Segment

end SoundEffect
