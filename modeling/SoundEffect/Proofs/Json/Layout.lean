import SoundEffect.Json.Written
import SoundEffect.Proofs.Json.Reading

namespace SoundEffect.Json

open Text (utf8 utf8_append)

def items (lead : List Char) : Bool → List (List Char) → List Char
  | _, [] => []
  | true, item :: others => lead ++ item ++ items lead false others
  | false, item :: others => ',' :: (lead ++ item) ++ items lead false others

theorem intercalate_indented (newline indent first : List Char) (others : List (List Char)) :
    List.intercalate (',' :: newline) ((first :: others).map (indent ++ ·)) =
      indent ++ first ++ items (newline ++ indent) false others := by
  induction others generalizing first with
  | nil => simp [List.intercalate, items]
  | cons second others ih =>
      have rest := ih second
      rw [List.map_cons] at rest
      rw [List.map_cons, List.map_cons, List.intercalate_cons_cons, rest]
      simp [items]

theorem items_of_lines (newline indent : List Char) {written : List (List Char)}
    (nonempty : written ≠ []) :
    newline ++ List.intercalate (',' :: newline) (written.map (indent ++ ·)) =
      items (newline ++ indent) true written := by
  obtain ⟨first, others, rfl⟩ := List.exists_cons_of_ne_nil nonempty
  rw [intercalate_indented, items]
  simp

theorem items_of_commas (written : List (List Char)) :
    List.intercalate [','] written = items [] true written := by
  cases written with
  | nil => rfl
  | cons first others =>
      have lines := intercalate_indented [] [] first others
      simpa [items] using lines

theorem length_utf8_pos {text : List Char} (nonempty : text ≠ []) : 0 < (utf8 text).length := by
  obtain ⟨c, rest, rfl⟩ := List.exists_cons_of_ne_nil nonempty
  have := List.length_pos_iff.mpr (@String.utf8EncodeChar_ne_nil c)
  rw [utf8, List.flatMap_cons, List.length_append]
  omega

structure Layout where
  lead : List Char
  gap : List Char
  close : List Char

structure Layout.IsBlank (layout : Layout) : Prop where
  lead : Blank (utf8 layout.lead)
  gap : Blank (utf8 layout.gap)
  close : Blank (utf8 layout.close)

namespace Layout

def recordText (layout : Layout) (record : Record) : List Char :=
  '\x7b' :: (items layout.lead true (record.map (member layout.gap)) ++ layout.close ++ ['\x7d'])

def listText (layout : Layout) (written : List (List Char)) : List Char :=
  '[' :: (items layout.lead true written ++ layout.close ++ [']'])

def compact : Layout := ⟨[], [], []⟩

def lines : Layout := ⟨['\n'] ++ "  ".toList, [], ['\n']⟩

def nested : Layout := ⟨['\n'] ++ "    ".toList, [' '], "\n  ".toList⟩

theorem isBlank_compact : compact.IsBlank :=
  ⟨nofun, nofun, nofun⟩

theorem isBlank_lines : lines.IsBlank :=
  ⟨List.all_eq_true.mp rfl, List.all_eq_true.mp rfl, List.all_eq_true.mp rfl⟩

theorem isBlank_nested : nested.IsBlank :=
  ⟨List.all_eq_true.mp rfl, List.all_eq_true.mp rfl, List.all_eq_true.mp rfl⟩

theorem compactRecord_eq (record : Record) : compactRecord record = compact.recordText record := by
  rw [compactRecord, items_of_commas, recordText]
  simp [compact]

theorem compactList_eq (records : List Record) :
    compactList records = compact.listText (records.map compact.recordText) := by
  rw [compactList, items_of_commas, listText, List.map_congr_left fun record _ =>
    compactRecord_eq record]
  simp [compact]

theorem indentedRecord_eq {record : Record} (nonempty : record ≠ []) :
    indentedRecord record = "  ".toList ++ nested.recordText record := by
  have some_member : record.map (member [' ']) ≠ [] := by simpa using nonempty
  have lines := items_of_lines ['\n'] "    ".toList some_member
  rw [List.map_map] at lines
  unfold indentedRecord
  rw [recordText, nested, ← lines]
  simp
  rfl

theorem indentedList_eq {records : List Record} (some_record : records ≠ [])
    (nonempty : ∀ record ∈ records, record ≠ []) :
    indentedList records = lines.listText (records.map nested.recordText) := by
  have indented : records.map indentedRecord =
      (records.map nested.recordText).map ("  ".toList ++ ·) := by
    rw [List.map_map]
    exact List.map_congr_left fun record member => indentedRecord_eq (nonempty record member)
  have some_text : records.map nested.recordText ≠ [] := by simpa using some_record
  have separated := items_of_lines ['\n'] "  ".toList some_text
  rw [indentedList, if_neg (by simpa using some_record), indented, listText, lines,
    ← separated]
  simp

variable {layout : Layout}

def front (layout : Layout) (isFirst : Bool) : List UInt8 :=
  if isFirst then utf8 layout.lead else ','.toUInt8 :: utf8 layout.lead

theorem utf8_items_cons (isFirst : Bool) (item : List Char) (others : List (List Char)) :
    utf8 (items layout.lead isFirst (item :: others)) =
      layout.front isFirst ++ (utf8 item ++ utf8 (items layout.lead false others)) := by
  cases isFirst with
  | true => rw [items, utf8_append, utf8_append, List.append_assoc, front, if_pos rfl]
  | false =>
      have comma : utf8 (',' :: (layout.lead ++ item)) =
          layout.front false ++ utf8 item := by
        rw [← List.cons_append, utf8_append]
        rfl
      rw [items, utf8_append, comma, List.append_assoc]

theorem length_items (isFirst : Bool) {written : List (List Char)}
    (solid : ∀ item ∈ written, item ≠ []) :
    written.length ≤ (utf8 (items layout.lead isFirst written)).length := by
  induction written generalizing isFirst with
  | nil => exact Nat.zero_le _
  | cons item others ih =>
      have rest := ih false fun other member => solid other (by simp [member])
      have size := length_utf8_pos (solid item (by simp))
      rw [utf8_items_cons, List.length_append, List.length_append, List.length_cons]
      omega

def remainder (layout : Layout) (bracket : Char) (rest : List UInt8) (isFirst : Bool)
    (written : List (List Char)) : List UInt8 :=
  utf8 (items layout.lead isFirst written) ++ (utf8 layout.close ++ bracket.toUInt8 :: rest)

variable {bracket : Char} {rest : List UInt8}

theorem remainder_nil (isFirst : Bool) :
    layout.remainder bracket rest isFirst [] = utf8 layout.close ++ bracket.toUInt8 :: rest := by
  cases isFirst <;> rfl

theorem remainder_cons (isFirst : Bool) (item : List Char) (others : List (List Char)) :
    layout.remainder bracket rest isFirst (item :: others) =
      layout.front isFirst ++ (utf8 item ++ layout.remainder bracket rest false others) := by
  rw [remainder, utf8_items_cons, List.append_assoc, List.append_assoc]
  rfl

theorem stops_remainder (blank : layout.IsBlank) (closes : Stops (bracket.toUInt8 :: rest))
    (others : List (List Char)) : Stops (layout.remainder bracket rest false others) := by
  cases others with
  | nil => exact blank.close.stops closes
  | cons item others =>
      exact stops_cons (by decide) (by decide) (by decide) (by decide) _

theorem length_lt_remainder (isFirst : Bool) {written : List (List Char)}
    (solid : ∀ item ∈ written, item ≠ []) :
    written.length < (layout.remainder bracket rest isFirst written).length := by
  have enough := @length_items layout isFirst written solid
  rw [remainder, List.length_append, List.length_append, List.length_cons]
  omega

theorem utf8_recordText (record : Record) :
    utf8 (layout.recordText record) ++ rest =
      '\x7b'.toUInt8 :: layout.remainder '\x7d' rest true (record.map (member layout.gap)) := by
  rw [recordText, utf8, List.flatMap_cons, ← utf8, utf8_append, utf8_append, List.append_assoc,
    List.append_assoc, List.append_assoc]
  rfl

theorem utf8_listText (written : List (List Char)) :
    utf8 (layout.listText written) ++ rest =
      '['.toUInt8 :: layout.remainder ']' rest true written := by
  rw [listText, utf8, List.flatMap_cons, ← utf8, utf8_append, utf8_append, List.append_assoc,
    List.append_assoc, List.append_assoc]
  rfl

end Layout

end SoundEffect.Json
