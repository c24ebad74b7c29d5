import SoundEffect.Proofs.Text.Listing
import SoundEffect.Trace

namespace SoundEffect

def PlayState.ofName? (text : List Char) : Option PlayState :=
  [PlayState.idle, .resetZero, .ready, .playing, .waiting].find? fun state =>
    state.name.toList = text

theorem PlayState.ofName?_name (state : PlayState) : ofName? state.name.toList = some state := by
  cases state <;> rfl

def Phase.ofName? (text : List Char) : Option Phase :=
  [Phase.release, .off, .attack, .decay].find? fun phase => phase.name.toList = text

theorem Phase.ofName?_name (phase : Phase) : ofName? phase.name.toList = some phase := by
  cases phase <;> rfl

namespace TickTrace

open Text

def cell? (names cells : List (List Char)) (name : String) : Option (List Char) :=
  (names.zip cells).lookup name.toList

def ofFields? (field? : String → Option (List Char)) : Option TickTrace := do
  let number? (name : String) : Option Nat := (field? name).bind natural?
  return {
    tick := ← number? "tick"
    state := ← (field? "state").bind PlayState.ofName?
    position := ← number? "position"
    delay := UInt8.ofNat (← number? "delay")
    phase := ← (field? "phase").bind Phase.ofName?
    level := UInt16.ofNat (← number? "level")
    frequency := UInt16.ofNat (← number? "frequency")
    pulseWidth := UInt16.ofNat (← number? "pulse_width")
    envelopeBar := UInt8.ofNat (← number? "envelope_bar")
    frequencyBar := UInt8.ofNat (← number? "frequency_bar") }

def ofRow? (names : List (List Char)) (row : List Char) : Option TickTrace :=
  let cells := splitOn ',' row
  if cells.length = names.length then ofFields? (cell? names cells) else none

def read? (text : List Char) : Option (List TickTrace) :=
  (lines? text).bind fun
    | [] => none
    | header :: rows => rows.mapM (ofRow? (splitOn ',' header))

def row (cells : List (List Char)) : List Char :=
  List.intercalate [','] cells

theorem token_columns (trace : TickTrace) : ∀ cell ∈ trace.columns, Token cell := by
  have state : Token trace.state.name.toList := by
    constructor <;> cases trace.state <;> simp [PlayState.name, Word, isWordChar, Char.isAlphanum]
  have phase : Token trace.phase.name.toList := by
    constructor <;> cases trace.phase <;> simp [Phase.name, Word, isWordChar, Char.isAlphanum]
  simp only [columns, List.forall_mem_cons, token_decimal, state, phase, List.not_mem_nil,
    false_implies, implies_true, and_true]

theorem ofFields?_columns (trace : TickTrace) :
    ofFields? (cell? columnNames trace.columns) = some trace := by
  have found : ["tick", "state", "position", "delay", "phase", "level", "frequency", "pulse_width",
      "envelope_bar", "frequency_bar"].map (cell? columnNames trace.columns) =
        trace.columns.map some := rfl
  -- what the look-ups give is known, and none of them is to be unfolded again
  generalize cell? columnNames trace.columns = cell at found ⊢
  simp only [columns, List.map_cons, List.map_nil, List.cons.injEq, and_true] at found
  obtain ⟨tick, state, position, delay, phase, level, frequency, pulseWidth, envelopeBar,
    frequencyBar⟩ := found
  simp only [ofFields?, tick, state, position, delay, phase, level, frequency, pulseWidth,
    envelopeBar, frequencyBar, natural?_decimal, PlayState.ofName?_name, Phase.ofName?_name,
    UInt8.ofNat_toNat, UInt16.ofNat_toNat, Option.bind_eq_bind, Option.bind_some, Option.pure_def]

structure Plain (cell : List Char) : Prop where
  something : cell ≠ []
  comma : ',' ∉ cell
  quote : '\"' ∉ cell
  newline : '\n' ∉ cell
  carriageReturn : '\r' ∉ cell

theorem plain_columns (trace : TickTrace) : ∀ cell ∈ trace.columns, Plain cell := by
  intro cell member
  obtain ⟨word, nonempty⟩ := token_columns trace cell member
  exact ⟨nonempty, word.not_mem rfl, word.not_mem rfl, word.not_mem rfl, word.not_mem rfl⟩

theorem plain_columnNames : ∀ cell ∈ columnNames, Plain cell := by
  have checked : ∀ cell ∈ columnNames,
      cell ≠ [] ∧ ',' ∉ cell ∧ '\"' ∉ cell ∧ '\n' ∉ cell ∧ '\r' ∉ cell := by
    decide
  intro cell member
  obtain ⟨something, comma, quote, newline, carriageReturn⟩ := checked cell member
  exact ⟨something, comma, quote, newline, carriageReturn⟩

theorem splitOn_row {first : List Char} {others : List (List Char)}
    (plain : ∀ cell ∈ first :: others, Plain cell) :
    splitOn ',' (row (first :: others)) = first :: others := by
  rw [row, splitOn_intercalate List.not_mem_nil fun cell member => (plain cell member).comma]
  exact congrArg (first :: ·) (List.map_id others)

theorem splitOn_header : splitOn ',' (row columnNames) = columnNames :=
  splitOn_row plain_columnNames

theorem splitOn_columns (trace : TickTrace) : splitOn ',' (row trace.columns) = trace.columns :=
  splitOn_row (plain_columns trace)

theorem newline_not_mem_row {cells : List (List Char)} (plain : ∀ cell ∈ cells, Plain cell) :
    '\n' ∉ row cells :=
  not_mem_intercalate (by decide) fun cell member => (plain cell member).newline

theorem ofRow?_columns (trace : TickTrace) :
    ofRow? columnNames (row trace.columns) = some trace := by
  have full : trace.columns.length = columnNames.length := rfl
  simp only [ofRow?, splitOn_columns, full, if_true, ofFields?_columns]

variable (traces : List TickTrace)

def table : List (List Char) :=
  row columnNames :: traces.map fun trace => row trace.columns

theorem line_append_eq_table :
    line columnNames ++ traces.flatMap (fun trace => line trace.columns) =
      (table traces).flatMap ended := by
  rw [table, List.flatMap_cons, List.flatMap_map]
  rfl

theorem lines?_table : lines? ((table traces).flatMap ended) = some (table traces) := by
  apply lines?_ended
  intro line member
  rw [table, List.mem_cons, List.mem_map] at member
  rcases member with rfl | ⟨trace, -, rfl⟩
  · exact newline_not_mem_row plain_columnNames
  · exact newline_not_mem_row (plain_columns trace)

theorem read?_table : read? ((table traces).flatMap ended) = some traces := by
  have rows := mapM_written_self ofRow?_columns traces
  rw [read?, lines?_table, Option.bind_some]
  simp only [table, splitOn_header, rows]

end TickTrace

end SoundEffect
