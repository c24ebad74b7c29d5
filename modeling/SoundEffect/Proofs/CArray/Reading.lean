import SoundEffect.CArray
import SoundEffect.Proofs.EffectName.Alphabet
import SoundEffect.Proofs.Text.Listing

namespace SoundEffect

theorem newline_not_mem_identifier (name : List Char) : '\n' ∉ identifier name := fun member =>
  absurd (nameChar_of_mem_identifier member) (by decide)

def Segment.withoutPriority (segment : Segment) : Segment :=
  { segment with priority := 0 }

namespace CArray

open Text

def literal? : List Char → Option Int
  | '0' :: 'x' :: digits => (hexDigits? 0 digits).map Int.ofNat
  | text => signed? text

def cells? (line : List Char) : Option (List (List Char)) :=
  (between? "\t\x7b".toList "\x7d,".toList line).map fun cells => (splitOn ',' cells).map trim

def ofNumbers? : List Int → Option Segment
  | [frequency, pulseWidth, control, attackDecay, sustainRelease, freqGlide, pulseGlide, gateTicks,
      releaseTicks, priority] =>
      some {
        frequency := UInt16.ofNat frequency.toNat
        pulseWidth := UInt16.ofNat pulseWidth.toNat
        control := ⟨UInt8.ofNat control.toNat⟩
        attackDecay := UInt8.ofNat attackDecay.toNat
        sustainRelease := UInt8.ofNat sustainRelease.toNat
        freqGlide := Int16.ofInt freqGlide
        pulseGlide := Int16.ofInt pulseGlide
        gateTicks := UInt8.ofNat gateTicks.toNat
        releaseTicks := UInt8.ofNat releaseTicks.toNat
        priority := UInt8.ofNat priority.toNat }
  | _ => none

def segment? (line : List Char) : Option Segment := do
  ofNumbers? (← (← cells? line).mapM literal?)

def read? (text : List Char) : Option (List Char × List Segment) := do
  match ← lines? text with
  | [] => none
  | opening :: rest =>
      let name ← between? "static const SIDFX SFX_".toList "[] = \x7b".toList opening
      if rest.getLast? = some "\x7d;".toList then
        return (name, ← rest.dropLast.mapM segment?)
      else none

theorem literal?_of_not_mem {text : List Char} (unmarked : 'x' ∉ text) :
    literal? text = signed? text := by
  unfold literal?
  split
  case h_1 digits => exact absurd (by simp) unmarked
  case h_2 => rfl

theorem literal?_decimal (n : Nat) : literal? (decimal n) = some (n : Int) := by
  rw [literal?_of_not_mem (not_mem_decimal rfl n), signed?_decimal]

theorem literal?_integer (i : Int) : literal? (integer i) = some i := by
  rw [literal?_of_not_mem (not_mem_integer rfl (by decide) i), signed?_integer]

theorem literal?_hexLiteral (byte : UInt8) :
    literal? (hexLiteral byte) = some (byte.toNat : Int) := by
  change (hexDigits? 0 (hexByte byte)).map Int.ofNat = _
  rw [hexDigits?_hexByte]
  rfl

theorem word_hexLiteral (byte : UInt8) : Word (hexLiteral byte) := by
  have mark : Word ['0', 'x'] := by simp [Word, isWordChar, Char.isAlphanum]
  exact mark.append (word_hexByte byte)

theorem token_initialisers (segment : Segment) :
    ∀ cell ∈ initialisers segment, Token cell := by
  have byte : ∀ byte, Token (hexLiteral byte) := fun byte =>
    ⟨word_hexLiteral byte, List.cons_ne_nil _ _⟩
  have zero : Token ['0'] := ⟨by simp [Word, isWordChar, Char.isAlphanum], List.cons_ne_nil _ _⟩
  simp only [initialisers, List.forall_mem_cons, token_decimal, token_integer, byte, zero,
    List.not_mem_nil, false_implies, implies_true, and_true]

def numbers (segment : Segment) : List Int :=
  [segment.frequency.toNat, segment.pulseWidth.toNat, segment.control.bits.toNat,
    segment.attackDecay.toNat, segment.sustainRelease.toNat, segment.freqGlide.toInt,
    segment.pulseGlide.toInt, segment.gateTicks.toNat, segment.releaseTicks.toNat, 0]

theorem mapM_literal?_initialisers (segment : Segment) :
    (initialisers segment).mapM literal? = some (numbers segment) := by
  have zero : literal? ['0'] = some 0 := by decide
  simp only [initialisers, numbers, List.mapM_cons, List.mapM_nil, literal?_decimal,
    literal?_integer, literal?_hexLiteral, zero, Option.bind_eq_bind, Option.bind_some,
    Option.pure_def]

theorem ofNumbers?_numbers (segment : Segment) :
    ofNumbers? (numbers segment) = some segment.withoutPriority := by
  simp only [ofNumbers?, numbers, Int.toNat_natCast, UInt16.ofNat_toNat, UInt8.ofNat_toNat,
    Int16.ofInt_toInt]
  rfl

def opening (name : List Char) : List Char :=
  "static const SIDFX SFX_".toList ++ identifier name ++ "[] = \x7b".toList

def row (segment : Segment) : List Char :=
  "\t\x7b".toList ++ List.intercalate ", ".toList (initialisers segment) ++ "\x7d,".toList

def sourceLines (program : Program) (name : List Char) : List (List Char) :=
  opening name :: program.segments.map row ++ ["\x7d;".toList]

theorem openingLine_eq (name : List Char) : openingLine name = ended (opening name) := by
  have bracket : "[] = \x7b\n".toList = "[] = \x7b".toList ++ ['\n'] := by decide
  -- only unfolded: an equation of these texts would be computed character by character
  delta openingLine ended opening
  rw [bracket, List.append_assoc _ _ ['\n']]

theorem segmentLine_eq (segment : Segment) : segmentLine segment = ended (row segment) := by
  have bracket : "\x7d,\n".toList = "\x7d,".toList ++ ['\n'] := by decide
  delta segmentLine ended row
  rw [bracket, List.append_assoc _ _ ['\n']]

theorem cArray_eq (program : Program) (name : List Char) :
    program.cArray name = (sourceLines program name).flatMap ended := by
  have rows : segmentLine = fun segment => ended (row segment) := funext segmentLine_eq
  rw [Program.cArray, sourceLines, List.flatMap_append, List.flatMap_cons, List.flatMap_map,
    openingLine_eq, rows]
  rfl

theorem cells?_row (segment : Segment) : cells? (row segment) = some (initialisers segment) := by
  rw [cells?, row, between?_append, Option.map_some]
  exact congrArg some (map_trim_splitOn (token_initialisers segment))

theorem segment?_row (segment : Segment) :
    segment? (row segment) = some segment.withoutPriority := by
  simp only [segment?, cells?_row, mapM_literal?_initialisers, ofNumbers?_numbers,
    Option.bind_eq_bind, Option.bind_some]

theorem newline_not_mem_opening (name : List Char) : '\n' ∉ opening name := by
  have front : '\n' ∉ "static const SIDFX SFX_".toList := by decide
  have back : '\n' ∉ "[] = \x7b".toList := by decide
  delta opening
  rw [List.mem_append, List.mem_append, not_or, not_or]
  exact ⟨⟨front, newline_not_mem_identifier name⟩, back⟩

theorem newline_not_mem_row (segment : Segment) : '\n' ∉ row segment := by
  have front : '\n' ∉ "\t\x7b".toList := by decide
  have gap : '\n' ∉ ", ".toList := by decide
  have back : '\n' ∉ "\x7d,".toList := by decide
  have cells : ∀ cell ∈ initialisers segment, '\n' ∉ cell := fun cell member =>
    (token_initialisers segment cell member).word.not_mem rfl
  delta row
  rw [List.mem_append, List.mem_append, not_or, not_or]
  exact ⟨⟨front, not_mem_intercalate gap cells⟩, back⟩

theorem newline_not_mem_sourceLines (program : Program) (name : List Char) :
    ∀ line ∈ sourceLines program name, '\n' ∉ line := by
  intro line member
  rw [sourceLines, List.cons_append, List.mem_cons, List.mem_append, List.mem_map,
    List.mem_singleton] at member
  rcases member with rfl | ⟨segment, -, rfl⟩ | rfl
  · exact newline_not_mem_opening name
  · exact newline_not_mem_row segment
  · decide

theorem lines?_cArray (program : Program) (name : List Char) :
    lines? (program.cArray name) = some (sourceLines program name) := by
  rw [cArray_eq, lines?_ended (newline_not_mem_sourceLines program name)]

theorem read?_cArray (program : Program) (name : List Char) :
    read? (program.cArray name) =
      some (identifier name, program.segments.map Segment.withoutPriority) := by
  have called : between? "static const SIDFX SFX_".toList "[] = \x7b".toList (opening name) =
      some (identifier name) := between?_append _ _ _
  have rows := mapM_written segment?_row program.segments
  simp only [read?, lines?_cArray, sourceLines, List.cons_append, Option.bind_eq_bind,
    Option.bind_some, called, List.getLast?_concat, List.dropLast_concat, rows, if_true,
    Option.pure_def]

example :
    read? (Program.cArray ⟨[{ Segment.base with freqGlide := -3, priority := 9 }]⟩ "Zap-1".toList) =
      some ("zap_1".toList, [{ Segment.base with freqGlide := -3 }]) := by
  decide +kernel

theorem sourceLines_congr {program program' : Program} {name name' : List Char}
    (called : identifier name = identifier name')
    (same : program.segments.map Segment.withoutPriority =
      program'.segments.map Segment.withoutPriority) :
    sourceLines program name = sourceLines program' name' := by
  -- a line has a zero where the priority would stand, so it cannot depend on it
  have blind : row ∘ Segment.withoutPriority = row := rfl
  have rows := congrArg (List.map row) same
  rw [List.map_map, List.map_map, blind] at rows
  have first : opening name = opening name' := by
    delta opening
    rw [called]
  rw [sourceLines, sourceLines, first, rows]

theorem cArray_eq_iff {program program' : Program} {name name' : List Char} :
    program.cArray name = program'.cArray name' ↔
      identifier name = identifier name' ∧
        program.segments.map Segment.withoutPriority =
          program'.segments.map Segment.withoutPriority := by
  constructor
  · intro same
    have read := read?_cArray program name
    rw [same, read?_cArray, Option.some.injEq, Prod.mk.injEq] at read
    exact ⟨read.1.symm, read.2.symm⟩
  · rintro ⟨called, same⟩
    rw [cArray_eq, cArray_eq, sourceLines_congr called same]

theorem keeps_all_but_priority (program : Program) (name : List Char) :
    (∃ first rows last, program.cArray name = (first :: rows ++ [last]).flatMap ended ∧
      lines? (program.cArray name) = some (first :: rows ++ [last]) ∧
      rows.length = program.length ∧ (first :: rows ++ [last]).length = program.length + 2 ∧
      ∀ row ∈ rows, ∃ cells,
        cells? row = some cells ∧ cells.length = 10 ∧ cells[9]? = some ['0']) ∧
    read? (program.cArray name) =
      some (identifier name, program.segments.map Segment.withoutPriority) ∧
    ∀ (program' : Program) (name' : List Char), program.cArray name = program'.cArray name' ↔
      identifier name = identifier name' ∧
        program.segments.map Segment.withoutPriority =
          program'.segments.map Segment.withoutPriority := by
  refine ⟨⟨opening name, program.segments.map row, "\x7d;".toList, cArray_eq program name,
    lines?_cArray program name, List.length_map _, ?_, ?_⟩, read?_cArray program name,
    fun _ _ => cArray_eq_iff⟩
  · rw [List.length_append, List.length_cons, List.length_map, List.length_singleton,
      Program.length]
  · intro line member
    obtain ⟨segment, -, rfl⟩ := List.mem_map.mp member
    exact ⟨initialisers segment, cells?_row segment, rfl, rfl⟩

end CArray

end SoundEffect
