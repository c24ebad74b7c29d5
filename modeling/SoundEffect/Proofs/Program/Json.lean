import SoundEffect.Program.Json
import SoundEffect.Proofs.Control.Flags
import SoundEffect.Proofs.Json.Integers
import SoundEffect.Proofs.Json.Records
import SoundEffect.Proofs.Segment.Ranges

namespace SoundEffect

open Json (Layout Reads Blank)
open Text (utf8)

namespace Segment

theorem distinct_shape : shape.Distinct := by
  constructor
  · decide
  · have plain : shape.members.all (fun member => member.name.toList.all Json.isPlain) = true := rfl
    intro member among
    exact List.all_eq_true.mp (List.all_eq_true.mp plain member among)

theorem fills_shape (segment : Segment) :
    Json.Shape.Fills segment shape.members shape.blank segment := by
  apply Json.Shape.Fills.cons ((Json.reads_uint16 segment.frequency).map _)
  apply Json.Shape.Fills.cons ((Json.reads_uint16 segment.pulseWidth).map _)
  apply Json.Shape.Fills.cons ((Control.reads_flags segment.control).map _)
  apply Json.Shape.Fills.cons ((Json.reads_uint8 segment.attackDecay).map _)
  apply Json.Shape.Fills.cons ((Json.reads_uint8 segment.sustainRelease).map _)
  apply Json.Shape.Fills.cons ((Json.reads_int16 segment.freqGlide).map _)
  apply Json.Shape.Fills.cons ((Json.reads_int16 segment.pulseGlide).map _)
  apply Json.Shape.Fills.cons ((Json.reads_uint8 segment.gateTicks).map _)
  apply Json.Shape.Fills.cons ((Json.reads_uint8 segment.releaseTicks).map _)
  apply Json.Shape.Fills.cons ((Json.reads_uint8 segment.priority).map _)
  exact Json.Shape.Fills.nil segment

theorem record_shape_ne_nil (segment : Segment) : shape.record segment ≠ [] :=
  List.cons_ne_nil _ _

theorem reads_recordText {layout : Layout} (blank : layout.IsBlank) (segment : Segment) :
    Reads shape.reader (layout.recordText (shape.record segment)) segment :=
  Json.Shape.reads_recordText blank distinct_shape (fills_shape segment)

theorem ofJson_json (segment : Segment) : ofJson (utf8 segment.json) = .ok segment := by
  have read := (reads_recordText Layout.isBlank_compact segment).decode (show Blank [] from nofun)
  rw [List.append_nil] at read
  rw [ofJson, json, Layout.compactRecord_eq, read]

end Segment

namespace Program

variable {program : Program}

theorem reads_listText {outer inner : Layout} (blank : outer.IsBlank) (blank' : inner.IsBlank)
    (valid : program.Valid) :
    Reads reader (outer.listText (program.segments.map fun segment =>
      inner.recordText (Segment.shape.record segment))) program := by
  intro gap rest spaces stops
  have segments := Json.reads_listText blank
    (fun segment _ => Segment.reads_recordText blank' segment)
    (fun segment (_ : segment ∈ program.segments) => ⟨_, rfl⟩) gap rest spaces stops
  rw [reader, Json.bind_of_ok segments]
  simp only [valid.ofSegments]
  rfl

theorem ofJson_json (valid : program.Valid) : ofJson (utf8 program.json) = .ok program := by
  have read := (reads_listText Layout.isBlank_compact Layout.isBlank_compact valid).decode
    (show Blank [] from nofun)
  rw [List.append_nil] at read
  rw [ofJson, json, Layout.compactList_eq, List.map_map]
  exact read

theorem ofJson_indentedJson (valid : program.Valid) {tail : List UInt8} (blank : Blank tail) :
    ofJson (utf8 program.indentedJson ++ tail) = .ok program := by
  have read := (reads_listText Layout.isBlank_lines Layout.isBlank_nested valid).decode blank
  have nonempty : program.segments.map Segment.shape.record ≠ [] := by
    rw [Ne, List.map_eq_nil_iff]
    exact List.length_pos_iff.mp valid.nonempty
  have records : ∀ record ∈ program.segments.map Segment.shape.record, record ≠ [] := by
    intro record member
    obtain ⟨segment, -, rfl⟩ := List.mem_map.mp member
    exact segment.record_shape_ne_nil
  rw [ofJson, indentedJson, Layout.indentedList_eq nonempty records, List.map_map]
  exact read

theorem valid_of_ofJson {text : List UInt8} (decoded : ofJson text = .ok program) :
    program.Valid := by
  rw [ofJson, Json.decode] at decoded
  cases result : reader text with
  | error fault =>
      rw [result] at decoded
      cases decoded
  | ok read =>
      obtain ⟨value, rest⟩ := read
      have same : value = program := by
        simp only [result] at decoded
        split at decoded
        · exact Except.ok.inj decoded
        · cases decoded
      subst same
      rw [reader] at result
      cases listed : Json.sequenceOf Segment.shape.reader text with
      | error fault =>
          simp only [bind, StateT.bind, Except.bind, listed] at result
          cases result
      | ok list =>
          rw [Json.bind_of_ok listed] at result
          cases built : ofSegments list.1 with
          | error fault =>
              simp only [built] at result
              cases result
          | ok made =>
              simp only [built] at result
              obtain ⟨rfl, -⟩ := Prod.mk.inj (Except.ok.inj result)
              exact valid_of_ofSegments built

end Program

end SoundEffect
