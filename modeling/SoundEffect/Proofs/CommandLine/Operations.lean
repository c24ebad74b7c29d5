import SoundEffect.Command
import SoundEffect.Proofs.Program.Splicing

namespace SoundEffect

inductive Operation where
  | insert
  | remove
  | adjust (field : Field) (delta : Int32)
  | set (field : Field) (value : Int32)
  | enable (waveform : Waveform)
  | disable (waveform : Waveform)
  | gate (on : Bool)
  deriving DecidableEq, Repr

namespace Program

def inPlace (program : Program) (index : Nat) (change : Segment → Segment) :
    Except ProgramFault Program :=
  if inside : index < program.segments.length then
    .ok ⟨program.segments.set index (change program.segments[index])⟩
  else .error (.segmentOutOfRange index program.segments.length)

theorem modify_eq_inPlace (program : Program) (index : Nat) (change : Segment → Segment) :
    program.modify index change = program.inPlace index change := by
  rw [modify, inPlace]
  by_cases inside : index < program.segments.length
  · rw [dif_pos inside, List.getElem?_eq_getElem inside]
  · rw [dif_neg inside, List.getElem?_eq_none (Nat.le_of_not_lt inside), length]

end Program

namespace Operation

variable {program edited : Program} {index : Nat} {operation : Operation}

def change : Operation → Change
  | insert => .insert
  | remove => .remove
  | adjust field delta => .segment (.adjust field delta)
  | set field value => .segment (.set field value)
  | enable waveform => .segment (.enable waveform)
  | disable waveform => .segment (.disable waveform)
  | gate on => .segment (.gate on)

def result (operation : Operation) (index : Nat) (program : Program) :
    Except ProgramFault Program :=
  match operation with
  | .insert =>
      if program.segments.length < index then
        .error (.segmentOutOfRange index program.segments.length)
      else if 15 ≤ program.segments.length then .error (.full 15)
      else
        .ok ⟨program.segments.take index ++
          program.segments.getD index .base :: program.segments.drop index⟩
  | .remove =>
      if program.segments.length ≤ index then
        .error (.segmentOutOfRange index program.segments.length)
      else if program.segments.length = 1 then .error .lastSegment
      else .ok ⟨program.segments.take index ++ program.segments.drop (index + 1)⟩
  | .adjust field delta => program.inPlace index fun segment => segment.adjust field delta
  | .set field value => program.inPlace index fun segment => segment.set field value
  | .enable waveform => program.inPlace index fun segment => segment.enable waveform
  | .disable waveform => program.inPlace index fun segment => segment.disable waveform
  | .gate on => program.inPlace index fun segment => segment.setGate on

def leaves (operation : Operation) (index : Nat) (program : Program) : Program :=
  match operation.result index program with
  | .ok edited => edited
  | .error _ => program

theorem insert_eq_result (program : Program) (index : Nat) :
    program.insert index = insert.result index program := by
  rw [Program.insert, result, Program.isFull, Program.length, Program.capacity]
  simp only [decide_eq_true_eq]
  split
  · rfl
  · split
    · rfl
    · rw [insertIdx_eq_splice _ _ (by omega)]

theorem remove_eq_result (program : Program) (index : Nat) :
    (program.remove index).map (·.2) = remove.result index program := by
  rw [Program.remove, result, Program.length]
  by_cases inside : index < program.segments.length
  · rw [List.getElem?_eq_getElem inside, if_neg (Nat.not_le.mpr inside)]
    dsimp only
    split
    · rfl
    · rw [List.eraseIdx_eq_take_drop_succ]
      rfl
  · rw [List.getElem?_eq_none (Nat.le_of_not_lt inside), if_pos (Nat.le_of_not_lt inside)]
    rfl

theorem applied_change (operation : Operation) (index : Nat) (program : Program) :
    (operation.change.at index).applied program = operation.result index program := by
  cases operation with
  | insert => exact insert_eq_result program index
  | remove => exact remove_eq_result program index
  | adjust | set | enable | disable | gate => exact program.modify_eq_inPlace index _

theorem valid_of_result (valid : program.Valid)
    (made : operation.result index program = .ok edited) : edited.Valid := by
  rw [← applied_change] at made
  apply Edit.valid_of_applied valid made
  intro position replacement assigned
  cases operation <;> cases assigned

end Operation

end SoundEffect
