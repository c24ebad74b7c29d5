import SoundEffect.Proofs.Program.Editing

namespace SoundEffect

theorem insertIdx_eq_splice {α : Type} (list : List α) (value : α) {i : Nat}
    (inside : i ≤ list.length) : list.insertIdx i value = list.take i ++ value :: list.drop i := by
  induction list generalizing i with
  | nil =>
      obtain rfl := Nat.le_zero.mp inside
      rfl
  | cons first rest ih =>
      cases i with
      | zero => rfl
      | succ i =>
          rw [List.insertIdx_succ_cons, ih (Nat.le_of_succ_le_succ inside)]
          rfl

theorem insertIdx_double {α : Type} (list : List α) {value : α} {i : Nat}
    (here : list[i]? = some value) : list.insertIdx i value = list.insertIdx (i + 1) value := by
  obtain ⟨inside, rfl⟩ := List.getElem?_eq_some_iff.mp here
  rw [insertIdx_eq_splice _ _ inside, insertIdx_eq_splice _ _ (Nat.le_of_lt inside),
    List.drop_eq_getElem_cons inside, List.take_succ_eq_append_getElem inside, List.append_assoc]
  rfl

namespace Program

variable {program edited : Program} {i : Nat} {segment : Segment}

theorem remove_of_insertIdx (nonempty : 1 ≤ program.length) (inside : i ≤ program.length) :
    remove ⟨program.segments.insertIdx i segment⟩ i = .ok (segment, program) := by
  have longer : (program.segments.insertIdx i segment).length = program.length + 1 :=
    List.length_insertIdx_of_le_length inside segment
  rw [remove_eq_ok_iff, List.eraseIdx_insertIdx_self]
  refine ⟨?_, ?_, rfl⟩
  · rw [List.getElem?_insertIdx_self]
    exact if_pos inside
  · rw [length, longer]
    omega

theorem remove_of_insert (nonempty : 1 ≤ program.length)
    (inserted : program.insert i = .ok edited) :
    ∃ copied, edited.remove i = .ok (copied, program) := by
  obtain ⟨inside, -, rfl⟩ := insert_eq_ok_iff.mp inserted
  exact ⟨_, remove_of_insertIdx nonempty inside⟩

theorem remove_succ_of_insert (here : program.segments[i]? = some segment)
    (inserted : program.insert i = .ok edited) :
    edited.remove (i + 1) = .ok (segment, program) := by
  obtain ⟨-, -, rfl⟩ := insert_eq_ok_iff.mp inserted
  have inside := (List.getElem?_eq_some_iff.mp here).1
  rw [List.getD_eq_getElem?_getD, here, Option.getD_some, insertIdx_double _ here]
  exact remove_of_insertIdx (Nat.one_le_of_lt inside) inside

end Program

namespace Edit

variable {program edited : Program} {i : Nat} {segment : Segment}

theorem insert_of_run {answer : Option Segment}
    (ran : (insert i).run.run.run program = (.ok answer, edited)) :
    program.insert i = .ok edited := by
  rw [run_insert] at ran
  cases inserted : program.insert i with
  | ok made =>
      rw [inserted] at ran
      rw [(Prod.mk.inj ran).2]
  | error fault =>
      rw [inserted] at ran
      cases ran

theorem run_insert_of_ok (inserted : program.insert i = .ok edited) :
    (insert i).run.run.run program = (.ok none, edited) := by
  rw [run_insert, inserted]

theorem run_remove_of_ok (removed : program.remove i = .ok (segment, edited)) :
    (remove i).run.run.run program = (.ok (some segment), edited) := by
  rw [run_remove, removed]

structure Inserts (program : Program) (i : Nat)
    (outcome : Except Error (Option Segment) × Program) : Prop where
  outside : program.length < i →
    outcome = (.error (.program (.segmentOutOfRange i program.length)), program)
  full : i ≤ program.length → 15 ≤ program.length →
    outcome = (.error (.program (.full 15)), program)
  doubles : ∀ segment, program.segments[i]? = some segment → program.length < 15 →
    outcome = (.ok none, ⟨program.segments.take i ++ segment :: program.segments.drop i⟩)
  appends : i = program.length → program.length < 15 →
    outcome = (.ok none, ⟨program.segments ++ [.base]⟩)

structure Removes (program : Program) (i : Nat)
    (outcome : Except Error (Option Segment) × Program) : Prop where
  outside : program.length ≤ i →
    outcome = (.error (.program (.segmentOutOfRange i program.length)), program)
  last : i < program.length → program.length = 1 →
    outcome = (.error (.program .lastSegment), program)
  takes : ∀ segment, program.segments[i]? = some segment → 1 < program.length →
    outcome = (.ok (some segment), ⟨program.segments.take i ++ program.segments.drop (i + 1)⟩)

theorem inserts (program : Program) (i : Nat) :
    Inserts program i ((insert i).run.run.run program) := by
  constructor
  · intro outside
    have refused : program.insert i = .error (.segmentOutOfRange i program.length) := by
      rw [Program.insert, if_pos outside]
    exact run_of_error refused
  · intro inside full
    have filled : program.isFull = true := decide_eq_true full
    have refused : program.insert i = .error (.full 15) := by
      rw [Program.insert, if_neg (Nat.not_lt.mpr inside), if_pos filled]
      rfl
    exact run_of_error refused
  · intro segment here room
    have inside := Nat.le_of_lt (List.getElem?_eq_some_iff.mp here).1
    apply run_insert_of_ok
    rw [Program.insert_eq_ok_iff, insertIdx_eq_splice _ _ inside, List.getD_eq_getElem?_getD, here]
    exact ⟨inside, room, rfl⟩
  · rintro rfl room
    apply run_insert_of_ok
    have beyond : program.segments[program.length]? = none := List.getElem?_eq_none (Nat.le_refl _)
    have inside : program.length ≤ program.segments.length := Nat.le_refl _
    rw [Program.insert_eq_ok_iff, insertIdx_eq_splice _ _ inside, List.getD_eq_getElem?_getD,
      beyond, Program.length, List.take_length, List.drop_length]
    exact ⟨inside, room, rfl⟩

theorem removes (program : Program) (i : Nat) :
    Removes program i ((remove i).run.run.run program) := by
  constructor
  · intro outside
    have beyond : program.segments[i]? = none := List.getElem?_eq_none outside
    rw [run_remove, Program.remove, beyond]
  · intro inside only
    have here : program.segments[i]? = some program.segments[i] := List.getElem?_eq_getElem inside
    rw [run_remove, Program.remove, here]
    simp only [if_pos only]
  · intro segment here several
    apply run_remove_of_ok
    rw [Program.remove_eq_ok_iff, List.eraseIdx_eq_take_drop_succ]
    exact ⟨here, Nat.ne_of_gt several, rfl⟩

theorem splices_and_restores (program : Program) (i : Nat) (nonempty : 1 ≤ program.length) :
    Inserts program i ((insert i).run.run.run program) ∧
      Removes program i ((remove i).run.run.run program) ∧
      ∀ answer edited, (insert i).run.run.run program = (.ok answer, edited) →
        (∃ copied, (remove i).run.run.run edited = (.ok (some copied), program)) ∧
          ∀ segment, program.segments[i]? = some segment →
            (remove (i + 1)).run.run.run edited = (.ok (some segment), program) := by
  refine ⟨inserts program i, removes program i, fun answer edited ran => ⟨?_, ?_⟩⟩
  · obtain ⟨copied, removed⟩ := Program.remove_of_insert nonempty (insert_of_run ran)
    exact ⟨copied, run_remove_of_ok removed⟩
  · intro segment here
    exact run_remove_of_ok (Program.remove_succ_of_insert here (insert_of_run ran))

def lowThenHigh : Program :=
  ⟨[{ Segment.base with frequency := 500, priority := 1 }, { Segment.base with gateTicks := 9 }]⟩

theorem splices_and_restores_lowThenHigh :
    1 ≤ lowThenHigh.length ∧
      ∃ doubled, (insert 0).run.run.run lowThenHigh = (.ok none, doubled) ∧
        doubled.length = 3 ∧ doubled.segments[1]? = lowThenHigh.segments[0]? ∧
        (∃ copied, (remove 0).run.run.run doubled = (.ok (some copied), lowThenHigh)) ∧
        (remove 1).run.run.run doubled = (.ok lowThenHigh.segments[0]?, lowThenHigh) ∧
        (remove 2).run.run.run lowThenHigh =
          (.error (.program (.segmentOutOfRange 2 2)), lowThenHigh) := by
  have nonempty : 1 ≤ lowThenHigh.length := by decide
  obtain ⟨inserted, -, restores⟩ := splices_and_restores lowThenHigh 0 nonempty
  obtain ⟨-, removed, -⟩ := splices_and_restores lowThenHigh 2 nonempty
  have ran := inserted.doubles _ rfl (by decide)
  obtain ⟨first, second⟩ := restores _ _ ran
  exact ⟨nonempty, _, ran, rfl, rfl, first, second _ rfl, removed.outside (by decide)⟩

end Edit

end SoundEffect
