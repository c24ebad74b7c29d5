import SoundEffect.Proofs.Preview.Following

namespace SoundEffect

namespace EditM

variable {α β : Type} {action : EditM α} {next : α → EditM β} {program left : Program}

theorem bind_of_ok {value : α} (done : action.run.run program = (.ok value, left)) :
    (action >>= next).run.run program = (next value).run.run left := by
  simp only [ExceptT.run_bind, StateT.run_bind, done]
  rfl

theorem bind_of_error {fault : Error} (failed : action.run.run program = (.error fault, left)) :
    (action >>= next).run.run program = (.error fault, left) := by
  simp only [ExceptT.run_bind, StateT.run_bind, failed]
  rfl

end EditM

namespace Edit

variable {step : Edit} {done rest : List Edit} {program next left : Program} {fault : Error}

inductive Leads : List Edit → Program → Program → Prop where
  | nil (program : Program) : Leads [] program program
  | cons {step : Edit} {rest : List Edit} {program next last : Program}
      (applied : step.applied program = .ok next) (leads : Leads rest next last) :
      Leads (step :: rest) program last

def Halts (steps : List Edit) (program left : Program) (fault : ProgramFault) : Prop :=
  ∃ done failing rest, steps = done ++ failing :: rest ∧ Leads done program left ∧
    failing.applied left = .error fault

theorem leads_or_halts (steps : List Edit) (program : Program) :
    (∃ edited, Leads steps program edited) ∨ ∃ left fault, Halts steps program left fault := by
  induction steps generalizing program with
  | nil => exact .inl ⟨program, .nil program⟩
  | cons step steps ih =>
      cases applied : step.applied program with
      | error fault => exact .inr ⟨program, fault, [], step, steps, rfl, .nil program, applied⟩
      | ok next =>
          obtain ⟨edited, leads⟩ | ⟨left, fault, done, failing, rest, rfl, leads, failed⟩ := ih next
          · exact .inl ⟨edited, .cons applied leads⟩
          · exact .inr ⟨left, fault, step :: done, failing, rest, rfl, .cons applied leads, failed⟩

theorem Leads.run_script (leads : Leads done program left) :
    ∃ answers, (script done).run.run program = (.ok answers, left) := by
  induction leads with
  | nil program => exact ⟨[], rfl⟩
  | cons applied _ ih =>
      obtain ⟨answer, ran⟩ := run_of_ok applied
      obtain ⟨answers, rest⟩ := ih
      refine ⟨answer :: answers, ?_⟩
      rw [script, EditM.bind_of_ok ran, EditM.bind_of_ok rest]
      rfl

theorem Leads.run_script_append (leads : Leads done program left)
    (failed : (script rest).run.run left = (.error fault, next)) :
    (script (done ++ rest)).run.run program = (.error fault, next) := by
  induction leads with
  | nil program => exact failed
  | cons applied _ ih =>
      obtain ⟨answer, ran⟩ := run_of_ok applied
      rw [List.cons_append, script, EditM.bind_of_ok ran, EditM.bind_of_error (ih failed)]

theorem Halts.run_script {steps : List Edit} {fault : ProgramFault}
    (halts : Halts steps program left fault) :
    (script steps).run.run program = (.error (.program fault), left) := by
  obtain ⟨done, failing, rest, rfl, leads, failed⟩ := halts
  apply leads.run_script_append
  rw [script, EditM.bind_of_error (run_of_error failed)]

end Edit

namespace Store

open Preview (drawColumns)

theorem edit_script_completes_or_halts (store : Store) (steps : List Edit) :
    (∃ edited answers, Edit.Leads steps store.program edited ∧
        store.edit (Edit.script steps) = (.ok answers, ⟨edited, store.revision + 1⟩)) ∨
      ∃ left fault, Edit.Halts steps store.program left fault ∧
        store.edit (Edit.script steps) = (.error (.program fault), ⟨left, store.revision⟩) ∧
        ∀ preview : Preview,
          (preview.revision = some store.revision →
            preview.frame ⟨left, store.revision⟩ = preview.frame store) ∧
          (preview.revision ≠ some store.revision →
            (preview.frame ⟨left, store.revision⟩).2 =
              (drawColumns preview.config.columnsPerFrame (preview.restart left)).stamped
                (some store.revision)) := by
  rcases Edit.leads_or_halts steps store.program with ⟨edited, leads⟩ | ⟨left, fault, halts⟩
  · obtain ⟨answers, ran⟩ := leads.run_script
    refine .inl ⟨edited, answers, leads, ?_⟩
    rw [edit, ran]
  · refine .inr ⟨left, fault, halts, ?_, fun preview => ⟨?_, ?_⟩⟩
    · rw [edit, halts.run_script]
    · exact fun current => Preview.frame_of_current current rfl
    · exact fun stale => Preview.frame_of_stale stale

def detuneThenMisplace : List Edit :=
  [.segment 0 (.set .frequency 60000), .insert 99]

def detuned : Program :=
  ⟨[{ Segment.base with frequency := 60000 }]⟩

theorem edit_script_completes_or_halts_detuned :
    Edit.Halts detuneThenMisplace .base detuned (.segmentOutOfRange 99 1) ∧
      (new .base).edit (Edit.script detuneThenMisplace) =
        (.error (.program (.segmentOutOfRange 99 1)), ⟨detuned, 0⟩) ∧
      ∃ fresh, Preview.new .pal = .ok fresh ∧ fresh.revision ≠ some 0 ∧
        (fresh.frame ⟨detuned, 0⟩).2 =
          (drawColumns 3 (fresh.restart detuned)).stamped (some 0) ∧
        (fresh.frame (new .base)).2.revision = some 0 ∧
        (fresh.frame (new .base)).2.frame ⟨detuned, 0⟩ =
          (fresh.frame (new .base)).2.frame (new .base) := by
  have ran : (new .base).edit (Edit.script detuneThenMisplace) =
      (.error (.program (.segmentOutOfRange 99 1)), ⟨detuned, 0⟩) := by decide +kernel
  obtain ⟨edited, answers, -, completed⟩ | ⟨left, fault, halts, halted, frames⟩ :=
    edit_script_completes_or_halts (new .base) detuneThenMisplace
  · rw [completed] at ran
    cases ran
  · obtain ⟨failure, stored⟩ := Prod.mk.inj (halted.symm.trans ran)
    obtain ⟨rfl, -⟩ := Store.mk.inj stored
    obtain rfl := Error.program.inj (Except.error.inj failure)
    exact ⟨halts, ran, _, rfl, nofun, (frames _).2 nofun, rfl, (frames _).1 rfl⟩

theorem edit_script_not_atomic :
    ((new .base).edit (Edit.script detuneThenMisplace)).2.revision = (new .base).revision ∧
      ((new .base).edit (Edit.script detuneThenMisplace)).2.program ≠ (new .base).program ∧
      (∃ fresh, Preview.new .pal = .ok fresh ∧
        (fresh.frame ((new .base).edit (Edit.script detuneThenMisplace)).2).2.simulator ≠
          (fresh.frame (new .base)).2.simulator) ∧
      ¬ ∀ (store next : Store) (steps : List Edit) (fault : Error),
        store.edit (Edit.script steps) = (.error fault, next) → next = store := by
  have ran : (new .base).edit (Edit.script detuneThenMisplace) =
      (.error (.program (.segmentOutOfRange 99 1)), ⟨detuned, 0⟩) := by decide +kernel
  have changed : detuned ≠ (new .base).program := by decide
  rw [ran]
  refine ⟨rfl, changed, ⟨_, rfl, by decide +kernel⟩, fun atomic => changed ?_⟩
  exact congrArg Store.program (atomic _ _ _ _ ran)

end Store

end SoundEffect
