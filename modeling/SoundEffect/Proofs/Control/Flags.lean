import Mathlib.Data.Nat.Bitwise
import SoundEffect.Program.Json
import SoundEffect.Proofs.Json.Reading
import SoundEffect.Proofs.Text.Parts

namespace SoundEffect

namespace ControlLine

theorem name_ne_nil (line : ControlLine) : line.name.toList ≠ [] := by
  cases line <;> decide

theorem solid_name (line : ControlLine) : ∀ c ∈ line.name.toList, Text.isBlank c = false := by
  have solid : line.name.toList.all (!Text.isBlank ·) = true := by cases line <;> rfl
  intro c member
  simpa using List.all_eq_true.mp solid c member

theorem bar_not_mem_name (line : ControlLine) : '|' ∉ line.name.toList := by
  cases line <;> decide

theorem plain_name (line : ControlLine) : Json.Plain line.name.toList := by
  have plain : line.name.toList.all Json.isPlain = true := by cases line <;> rfl
  exact List.all_eq_true.mp plain

theorem exists_mask (line : ControlLine) : ∃ i, line.mask.toNat = 2 ^ i := by
  cases line
  exacts [⟨0, rfl⟩, ⟨1, rfl⟩, ⟨2, rfl⟩, ⟨3, rfl⟩, ⟨4, rfl⟩, ⟨5, rfl⟩, ⟨6, rfl⟩, ⟨7, rfl⟩]

end ControlLine

namespace Control

theorem and_mask (control : Control) (line : ControlLine) :
    control.bits &&& line.mask = if control.has line then line.mask else 0 := by
  obtain ⟨i, mask⟩ := line.exists_mask
  have value : (control.bits &&& line.mask).toNat =
      (control.bits.toNat.testBit i).toNat * 2 ^ i := by
    rw [UInt8.toNat_and, mask, Nat.and_two_pow]
  cases bit : control.bits.toNat.testBit i with
  | false =>
      rw [bit, Bool.toNat_false, Nat.zero_mul] at value
      have cleared : control.bits &&& line.mask = 0 := UInt8.toNat_inj.mp value
      simp [has, cleared]
  | true =>
      rw [bit, Bool.toNat_true, Nat.one_mul, ← mask] at value
      have set : control.bits &&& line.mask = line.mask := UInt8.toNat_inj.mp value
      have some_bit : line.mask ≠ 0 := by cases line <;> decide
      simp [has, set, some_bit]

def ofLines (lines : List ControlLine) : Control :=
  lines.foldr (fun line rest => (none.raise line).union rest) none

theorem and_or_bits (a b c : UInt8) : a &&& (b ||| c) = (a &&& b) ||| (a &&& c) := by
  apply UInt8.toNat_inj.mp
  simp only [UInt8.toNat_and, UInt8.toNat_or]
  exact Nat.and_or_distrib_left ..

theorem bits_ofLines_filter (control : Control) (lines : List ControlLine) :
    (ofLines (lines.filter control.has)).bits = control.bits &&& (ofLines lines).bits := by
  induction lines with
  | nil => simp [ofLines, none]
  | cons line rest ih =>
      have all : (ofLines (line :: rest)).bits = line.mask ||| (ofLines rest).bits := by
        simp [ofLines, union, raise, none]
      have here := and_mask control line
      rw [all, and_or_bits, here, ← ih]
      cases up : control.has line with
      | true =>
          rw [List.filter_cons_of_pos up, if_pos rfl]
          simp [ofLines, union, raise, none]
      | false =>
          rw [List.filter_cons_of_neg (by simp [up]), if_neg Bool.false_ne_true, UInt8.zero_or]

theorem ofLines_lines (control : Control) : ofLines control.lines = control := by
  have all : (ofLines ControlLine.all).bits = -1 := rfl
  have bits := bits_ofLines_filter control ControlLine.all
  rw [all, UInt8.and_neg_one] at bits
  exact congrArg Control.mk bits

theorem ofFlag_name (line : ControlLine) : ofFlag line.name.toList = .ok (none.raise line) := by
  cases line <;> rfl

def Spaces (text : List Char) : Prop :=
  ∀ c ∈ text, c = ' '

theorem Spaces.blank {text : List Char} (spaces : Spaces text) :
    ∀ c ∈ text, Text.isBlank c = true := by
  intro c member
  rw [spaces c member]
  rfl

theorem ofFlag_padded {lead tail : List Char} (before : Spaces lead) (after : Spaces tail)
    (line : ControlLine) :
    ofFlag (Text.trim (lead ++ line.name.toList ++ tail)) = .ok (none.raise line) := by
  rw [Text.trim_padded before.blank after.blank line.solid_name line.name_ne_nil, ofFlag_name]

theorem bar_not_mem_padded {lead tail : List Char} (before : Spaces lead) (after : Spaces tail)
    (line : ControlLine) : '|' ∉ lead ++ line.name.toList ++ tail := by
  intro member
  rw [List.mem_append, List.mem_append] at member
  rcases member with (leading | name) | trailing
  · exact absurd (before _ leading) (by decide)
  · exact line.bar_not_mem_name name
  · exact absurd (after _ trailing) (by decide)

theorem unionOfFlags_names {lead : List Char} (before : Spaces lead) (line : ControlLine)
    (lines : List ControlLine) :
    unionOfFlags (Text.splitOn '|' (lead ++ List.intercalate " | ".toList
        ((line :: lines).map fun line => line.name.toList))) =
      .ok (ofLines (line :: lines)) := by
  induction lines generalizing line lead with
  | nil =>
      have none_after : Spaces [] := nofun
      have flag := ofFlag_padded before none_after line
      have inside := bar_not_mem_padded before none_after line
      rw [List.append_nil] at flag inside
      rw [List.map_cons, List.map_nil, List.intercalate_singleton, Text.splitOn_of_not_mem inside,
        unionOfFlags, flag]
      rfl
  | cons second lines ih =>
      have space : Spaces [' '] := by simp [Spaces]
      have split : lead ++ List.intercalate " | ".toList
          ((line :: second :: lines).map fun line => line.name.toList) =
            (lead ++ line.name.toList ++ [' ']) ++ '|' :: ([' '] ++ List.intercalate " | ".toList
              ((second :: lines).map fun line => line.name.toList)) := by
        rw [List.map_cons, List.map_cons, List.intercalate_cons_cons]
        simp
      have first := Text.splitOn_of_not_mem (bar_not_mem_padded before space line)
      rw [split, Text.splitOn_append, first, List.singleton_append, unionOfFlags,
        ofFlag_padded before space line, ih space second]
      rfl

theorem exists_cons_flags {control : Control} {line : ControlLine} {lines : List ControlLine}
    (raised : control.lines = line :: lines) :
    ∃ c rest, control.flags = c :: rest ∧ Text.isBlank c = false := by
  obtain ⟨c, rest, name⟩ := List.exists_cons_of_ne_nil line.name_ne_nil
  have solid : Text.isBlank c = false := line.solid_name c (by simp [name])
  rw [flags, raised, List.map_cons, name]
  cases lines.map fun line => line.name.toList with
  | nil =>
      rw [List.intercalate_singleton]
      exact ⟨c, rest, rfl, solid⟩
  | cons second others =>
      rw [List.intercalate_cons_cons]
      exact ⟨c, _, rfl, solid⟩

theorem ofFlags_flags (control : Control) : ofFlags control.flags = .ok control := by
  cases raised : control.lines with
  | nil =>
      have nothing : control.flags = [] := by
        rw [flags, raised]
        rfl
      have cleared : control = none := by
        rw [← ofLines_lines control, raised]
        rfl
      rw [nothing, cleared]
      rfl
  | cons line lines =>
      have read := unionOfFlags_names (show Spaces [] from nofun) line lines
      rw [List.nil_append, ← raised, ofLines_lines, ← flags] at read
      obtain ⟨c, rest, first, solid⟩ := exists_cons_flags raised
      have something : ¬ (Text.trim control.flags).isEmpty = true := by
        rw [first, List.isEmpty_iff]
        exact Text.trim_cons_ne_nil solid rest
      rw [ofFlags, if_neg something, read]

theorem plain_flags (control : Control) : Json.Plain control.flags := by
  have names : ∀ lines : List ControlLine, Json.Plain (List.intercalate " | ".toList
      (lines.map fun line => line.name.toList)) := by
    intro lines
    induction lines with
    | nil => nofun
    | cons line lines ih =>
        cases lines with
        | nil =>
            rw [List.map_cons, List.map_nil, List.intercalate_singleton]
            exact line.plain_name
        | cons second lines =>
            intro c member
            rw [List.map_cons, List.map_cons, List.intercalate_cons_cons, List.mem_append,
              List.mem_append] at member
            rcases member with (name | bar) | others
            · exact line.plain_name c name
            · have between : " | ".toList.all Json.isPlain = true := rfl
              exact List.all_eq_true.mp between c bar
            · exact ih c others
  exact names control.lines

theorem reads_flags (control : Control) :
    Json.Reads reader (Json.writtenText control.flags) control := by
  intro gap rest blank stops
  have text := Json.reads_textOf control.plain_flags
    "a string value of \x60|\x60 separated flags" gap rest blank stops
  rw [reader, Json.bind_of_ok text]
  simp only [String.toList_ofList, ofFlags_flags]
  rfl

end Control

end SoundEffect
