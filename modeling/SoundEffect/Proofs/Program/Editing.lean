import SoundEffect.Edit
import SoundEffect.Proofs.Segment.Fields

namespace SoundEffect

theorem SegmentEdit.inRange_apply {edit : SegmentEdit} {segment : Segment}
    (ranged : segment.InRange)
    (replaced : ∀ replacement, edit = .assign replacement → replacement.InRange) :
    (edit.apply segment).InRange := by
  cases edit with
  | set field value => exact ranged.set field value
  | adjust field delta => exact ranged.set field _
  | enable waveform => exact ranged.of_control _
  | disable waveform => exact ranged.of_control _
  | gate on => exact ranged.of_control _
  | clamp => exact segment.inRange_clamped
  | assign replacement => exact replaced replacement rfl

theorem Segment.inRange_base : base.InRange :=
  base.inRange_clamped

namespace Program

variable {program edited : Program} {index : Nat}

theorem valid_base : base.Valid :=
  valid_of_ofSegments (show ofSegments [.base] = .ok base from rfl)

theorem insert_eq_ok_iff :
    program.insert index = .ok edited ↔
      index ≤ program.length ∧ program.length < capacity ∧
        edited = ⟨program.segments.insertIdx index (program.segments.getD index .base)⟩ := by
  simp only [Program.insert, isFull, decide_eq_true_eq]
  split
  · simp only [reduceCtorEq, false_iff]
    omega
  · split
    · simp only [reduceCtorEq, false_iff]
      omega
    · simp only [Except.ok.injEq]
      constructor
      · rintro rfl
        exact ⟨by omega, by omega, rfl⟩
      · rintro ⟨-, -, rfl⟩
        rfl

theorem remove_eq_ok_iff {removed : Segment} :
    program.remove index = .ok (removed, edited) ↔
      program.segments[index]? = some removed ∧ program.length ≠ 1 ∧
        edited = ⟨program.segments.eraseIdx index⟩ := by
  rw [Program.remove]
  cases here : program.segments[index]? with
  | none => simp
  | some segment =>
      by_cases only : program.length = 1
      · simp [only]
      · simp [only, eq_comm (a := edited)]

theorem Valid.insert (valid : program.Valid) (inserted : program.insert index = .ok edited) :
    edited.Valid := by
  obtain ⟨inside, room, rfl⟩ := insert_eq_ok_iff.mp inserted
  have longer : (program.segments.insertIdx index (program.segments.getD index .base)).length =
      program.length + 1 :=
    List.length_insertIdx_of_le_length inside _
  have copied : (program.segments.getD index .base).InRange := by
    rw [List.getD_eq_getElem?_getD]
    cases here : program.segments[index]? with
    | none => exact Segment.inRange_base
    | some segment => exact valid.inRange segment (List.mem_of_getElem? here)
  refine ⟨?_, ?_, ?_⟩
  · rw [length, longer]
    exact Nat.succ_le_succ (Nat.zero_le _)
  · rw [length, longer]
    exact room
  · intro segment member
    rcases (List.mem_insertIdx inside).mp member with rfl | member
    · exact copied
    · exact valid.inRange segment member

theorem Valid.remove {removed : Segment} (valid : program.Valid)
    (shortened : program.remove index = .ok (removed, edited)) : edited.Valid := by
  obtain ⟨here, several, rfl⟩ := remove_eq_ok_iff.mp shortened
  have shorter : (program.segments.eraseIdx index).length = program.length - 1 :=
    List.length_eraseIdx_of_lt (List.getElem?_eq_some_iff.mp here).1
  have nonempty := valid.nonempty
  have fits := valid.fits
  refine ⟨?_, ?_, ?_⟩
  · rw [length, shorter]
    omega
  · rw [length, shorter]
    omega
  · intro segment member
    exact valid.inRange segment (List.mem_of_mem_eraseIdx member)

theorem Valid.modify {change : Segment → Segment} (valid : program.Valid)
    (changed : ∀ segment : Segment, segment.InRange → (change segment).InRange)
    (modified : program.modify index change = .ok edited) : edited.Valid := by
  rw [Program.modify] at modified
  cases here : program.segments[index]? with
  | none =>
      simp only [here] at modified
      cases modified
  | some segment =>
      simp only [here] at modified
      obtain rfl := Except.ok.inj modified
      have same : (program.segments.set index (change segment)).length = program.length :=
        List.length_set
      refine ⟨?_, ?_, ?_⟩
      · rw [length, same]
        exact valid.nonempty
      · rw [length, same]
        exact valid.fits
      · intro other member
        rcases List.mem_or_eq_of_mem_set member with member | rfl
        · exact valid.inRange other member
        · exact changed segment (valid.inRange segment (List.mem_of_getElem? here))

end Program

namespace Edit

variable {edit : Edit} {program edited : Program} {fault : ProgramFault}

def applied : Edit → Program → Except ProgramFault Program
  | insert index, program => program.insert index
  | remove index, program => (program.remove index).map (·.2)
  | clear, _ => .ok .base
  | segment index edit, program => program.modify index edit.apply

theorem run_insert (index : Nat) (program : Program) :
    (insert index).run.run.run program =
      match program.insert index with
      | .ok edited => (.ok none, edited)
      | .error fault => (.error (.program fault), program) := by
  have unfolded : (insert index).run.run.run program =
      (EditM.ofResult (program.insert index) >>= fun edited =>
        (do set edited; return none : EditM (Option Segment))).run.run program := rfl
  rw [unfolded]
  cases program.insert index <;> rfl

theorem run_remove (index : Nat) (program : Program) :
    (remove index).run.run.run program =
      match program.remove index with
      | .ok (removed, edited) => (.ok (some removed), edited)
      | .error fault => (.error (.program fault), program) := by
  have unfolded : (remove index).run.run.run program =
      (EditM.ofResult (program.remove index) >>= fun result =>
        (do set result.2; return some result.1 : EditM (Option Segment))).run.run program := rfl
  rw [unfolded]
  cases program.remove index <;> rfl

theorem run_segment (index : Nat) (edit : SegmentEdit) (program : Program) :
    (segment index edit).run.run.run program =
      match program.modify index edit.apply with
      | .ok edited => (.ok none, edited)
      | .error fault => (.error (.program fault), program) := by
  have unfolded : (segment index edit).run.run.run program =
      (EditM.ofResult (program.modify index edit.apply) >>= fun edited =>
        (do set edited; return none : EditM (Option Segment))).run.run program := rfl
  rw [unfolded]
  cases program.modify index edit.apply <;> rfl

theorem run_of_ok (h : edit.applied program = .ok edited) :
    ∃ answer, edit.run.run.run program = (.ok answer, edited) := by
  cases edit with
  | insert index =>
      have inserted : program.insert index = .ok edited := h
      rw [run_insert, inserted]
      exact ⟨none, rfl⟩
  | remove index =>
      rw [run_remove]
      rw [applied] at h
      cases removed : program.remove index with
      | error fault =>
          rw [removed] at h
          cases h
      | ok result =>
          rw [removed] at h
          obtain rfl := Except.ok.inj h
          exact ⟨some result.1, rfl⟩
  | clear =>
      obtain rfl := Except.ok.inj h
      exact ⟨none, rfl⟩
  | segment index edit =>
      have modified : program.modify index edit.apply = .ok edited := h
      rw [run_segment, modified]
      exact ⟨none, rfl⟩

theorem run_of_error (h : edit.applied program = .error fault) :
    edit.run.run.run program = (.error (.program fault), program) := by
  cases edit with
  | insert index =>
      have refused : program.insert index = .error fault := h
      rw [run_insert, refused]
  | remove index =>
      rw [run_remove]
      rw [applied] at h
      cases removed : program.remove index with
      | error other =>
          rw [removed] at h
          obtain rfl := Except.error.inj h
          rfl
      | ok result =>
          rw [removed] at h
          cases h
  | clear => cases h
  | segment index edit =>
      have refused : program.modify index edit.apply = .error fault := h
      rw [run_segment, refused]

theorem valid_of_applied (valid : program.Valid) (h : edit.applied program = .ok edited)
    (replaced : ∀ index replacement, edit = .segment index (.assign replacement) →
      replacement.InRange) : edited.Valid := by
  cases edit with
  | insert index => exact valid.insert h
  | remove index =>
      cases removed : program.remove index with
      | error fault => simp [applied, removed, Except.map] at h
      | ok result =>
          obtain ⟨segment, rest⟩ := result
          have same : rest = edited := by simpa [applied, removed, Except.map] using h
          exact same ▸ valid.remove removed
  | clear =>
      obtain rfl := Except.ok.inj h
      exact Program.valid_base
  | segment index edit =>
      refine valid.modify ?_ h
      intro segment ranged
      apply SegmentEdit.inRange_apply ranged
      rintro replacement rfl
      exact replaced index replacement rfl

end Edit

end SoundEffect
