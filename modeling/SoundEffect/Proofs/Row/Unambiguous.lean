import SoundEffect.Proofs.Control.Flags
import SoundEffect.Proofs.Row.Columns
import SoundEffect.Proofs.Segment.Independence

namespace SoundEffect

namespace Control

theorem eq_of_has {a b : Control} (same : ∀ line, a.has line = b.has line) : a = b := by
  have lines : a.lines = b.lines := List.filter_congr fun line _ => same line
  rw [← ofLines_lines a, lines, ofLines_lines]

theorem has_lower (control : Control) (line other : ControlLine) :
    (control.lower line).has other = if other = line then false else control.has other := by
  have mask : ~~~line.mask &&& other.mask = if other = line then 0 else other.mask := by
    cases line <;> cases other <;> decide
  rw [has, lower, UInt8.and_assoc, mask]
  split
  · rw [UInt8.and_zero]
    rfl
  · rfl

def unmodulated (control : Control) : Control :=
  ((control.lower .sync).lower .ring).lower .test

theorem has_unmodulated (control : Control) (line : ControlLine) :
    control.unmodulated.has line =
      if line = .sync ∨ line = .ring ∨ line = .test then false else control.has line := by
  rw [unmodulated, has_lower, has_lower, has_lower]
  cases line <;> rfl

end Control

theorem Waveform.letter_ne_point (waveform : Waveform) : waveform.letter ≠ '.' := by
  cases waveform <;> decide

namespace Segment

structure LooksLike (segment other : Segment) : Prop where
  waveforms : ∀ waveform : Waveform,
    segment.control.has waveform.line = other.control.has waveform.line
  gate : segment.gated = other.gated
  fields : ∀ field, segment.get field = other.get field

def shown (segment : Segment) : Segment :=
  { segment with control := segment.control.unmodulated, priority := 0 }

theorem get_shown (segment : Segment) (field : Field) :
    segment.shown.get field = segment.get field := by
  cases field <;> rfl

variable {segment other : Segment}

theorem LooksLike.shown (alike : segment.LooksLike other) : segment.shown = other.shown := by
  refine eq_of_get (fun field => ?_) (Control.eq_of_has fun line => ?_) rfl
  · rw [get_shown, get_shown, alike.fields field]
  · change segment.control.unmodulated.has line = other.control.unmodulated.has line
    rw [Control.has_unmodulated, Control.has_unmodulated]
    cases line with
    | sync | ring | test => rfl
    | gate => exact alike.gate
    | triangle => exact alike.waveforms .triangle
    | sawtooth => exact alike.waveforms .sawtooth
    | rectangle => exact alike.waveforms .rectangle
    | noise => exact alike.waveforms .noise

theorem looksLike_of_shown (same : segment.shown = other.shown) : segment.LooksLike other := by
  have lines (line : ControlLine) (visible : ¬ (line = .sync ∨ line = .ring ∨ line = .test)) :
      segment.control.has line = other.control.has line := by
    have up := congrArg (·.control.has line) same
    change segment.control.unmodulated.has line = other.control.unmodulated.has line at up
    rwa [Control.has_unmodulated, Control.has_unmodulated, if_neg visible, if_neg visible] at up
  refine ⟨fun waveform => lines waveform.line ?_, lines .gate (by decide), fun field => ?_⟩
  · cases waveform <;> decide
  · rw [← get_shown segment, same, get_shown]

theorem LooksLike.cell (alike : segment.LooksLike other) (column : Column) :
    segment.cell column = other.cell column := by
  cases column with
  | waveform waveform => rw [Segment.cell, alike.waveforms waveform, Segment.cell]
  | gate => rw [Segment.cell, alike.gate, Segment.cell]
  | number field => rw [Segment.cell, alike.fields field, Segment.cell]

theorem LooksLike.row (alike : segment.LooksLike other) : segment.row = other.row := by
  rw [row_eq, row_eq, funext alike.cell]

theorem eq_of_mark {letter : Char} (distinct : letter ≠ '.') {a b : Bool}
    (same : [if a then letter else '.'] = [if b then letter else '.']) : a = b := by
  cases a with
  | true =>
      cases b with
      | true => rfl
      | false => exact absurd (List.head_eq_of_cons_eq same) distinct
  | false =>
      cases b with
      | true => exact absurd (List.head_eq_of_cons_eq same).symm distinct
      | false => rfl

theorem looksLike_of_row (ranged : segment.InRange) (ranged' : other.InRange)
    (same : segment.row = other.row) : segment.LooksLike other := by
  -- a column is found by its place, without knowing what the others hold
  have cells (column : Column) : segment.cell column = other.cell column := by
    rw [← take_drop_row ranged, same, take_drop_row ranged']
  refine ⟨fun waveform => ?_, ?_, fun field => ?_⟩
  · exact eq_of_mark waveform.letter_ne_point (cells (.waveform waveform))
  · exact eq_of_mark (by decide) (cells .gate)
  · exact Field.eq_of_written (ranged field).1 (ranged field).2 (ranged' field).1 (ranged' field).2
      (cells (.number field))

theorem row_fixed_width_and_unambiguous (ranged : segment.InRange) :
    segment.row.length = 40 ∧
    (∀ column : Column,
      (segment.row.drop column.start).take column.width = segment.cell column ∧
        (segment.cell column).length = column.width) ∧
    ∀ other : Segment, other.InRange →
      (segment.row = other.row ↔ segment.LooksLike other) ∧
        (segment.LooksLike other ↔ segment.shown = other.shown) :=
  ⟨length_row ranged, fun column => ⟨take_drop_row ranged column, length_cell ranged column⟩,
    fun _ ranged' =>
      ⟨⟨looksLike_of_row ranged ranged', LooksLike.row⟩, LooksLike.shown, looksLike_of_shown⟩⟩

def steepFall : Segment where
  frequency := 65535
  pulseWidth := 4095
  control := (Control.none.raise .gate).raise .noise
  attackDecay := 0x0F
  sustainRelease := 0xF0
  freqGlide := -32767
  pulseGlide := -4095
  gateTicks := 99
  releaseTicks := 0
  priority := 0

def ringingFall : Segment :=
  { steepFall with control := steepFall.control.raise .ring, priority := 9 }

def steepRise : Segment :=
  { steepFall with freqGlide := 32767 }

theorem row_fixed_width_and_unambiguous_steepFall :
    (steepFall.InRange ∧ ringingFall.InRange ∧ steepRise.InRange) ∧
      steepFall.row.length = 40 ∧ (steepFall.row.drop 22).take 6 = "-32767".toList ∧
      steepFall.row = ringingFall.row ∧ steepFall.row ≠ steepRise.row := by
  have falling : steepFall.InRange := (inRange_iff _).mpr (by decide)
  have ringing : ringingFall.InRange := (inRange_iff _).mpr (by decide)
  have rising : steepRise.InRange := (inRange_iff _).mpr (by decide)
  obtain ⟨width, columns, telling⟩ := row_fixed_width_and_unambiguous falling
  refine ⟨⟨falling, ringing, rising⟩, width, (columns (.number .freqGlide)).1, ?_, fun same => ?_⟩
  · obtain ⟨row, looks⟩ := telling _ ringing
    exact row.mpr (looks.mpr rfl)
  · have glides := ((telling _ rising).1.mp same).fields .freqGlide
    exact absurd glides (by decide)

end Segment

end SoundEffect
