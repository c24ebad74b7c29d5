import SoundEffect.CommandLine
import SoundEffect.Proofs.Program.Editing
import SoundEffect.Proofs.Storage.Programs

namespace SoundEffect

variable {disk disk' : Disk} {path : Path} {program : Program} {cause : Error}

namespace Session

variable {α β : Type} {action : Session (StateM Disk) α} {next : α → Session (StateM Disk) β}
  {transcript transcript' : Transcript}

theorem bind_of_ok {value : α} (done : action transcript disk = ((.ok value, transcript'), disk')) :
    (action >>= next) transcript disk = next value transcript' disk' := by
  simp only [bind, ExceptT.bind, ExceptT.mk, StateT.bind, done]
  rfl

theorem bind_of_error {failure : Failure}
    (failed : action transcript disk = ((.error failure, transcript'), disk')) :
    (action >>= next) transcript disk = ((.error failure, transcript'), disk') := by
  simp only [bind, ExceptT.bind, ExceptT.mk, StateT.bind, failed]
  rfl

end Session

namespace Command

theorem lift_run {α : Type} {action : StateM Disk α} {value : α}
    (done : action disk = (value, disk')) (transcript : Transcript) :
    (liftM action : Session (StateM Disk) α) transcript disk =
      ((.ok value, transcript), disk') := by
  simp only [liftM, monadLift, MonadLift.monadLift, ExceptT.lift, StateT.lift, ExceptT.mk, bind,
    StateT.bind, done, Functor.map, StateT.map]
  rfl

theorem load_of_ok (held : disk.programAt path = .ok program) (transcript : Transcript) :
    (load path : Session (StateM Disk) Program) transcript disk =
      ((.ok program,
        { transcript with events := transcript.events ++ [.loaded path program] }), disk) := by
  have loaded := Program.load_run path disk
  rw [held] at loaded
  rw [load, Session.bind_of_ok (lift_run loaded transcript)]
  rfl

theorem load_of_error (failed : disk.programAt path = .error cause) (transcript : Transcript) :
    (load path : Session (StateM Disk) Program) transcript disk =
      ((.error (.error ("Failed to load ".toList ++ path) cause), transcript), disk) := by
  have loaded := Program.load_run path disk
  rw [failed] at loaded
  rw [load, Session.bind_of_ok (lift_run loaded transcript)]
  rfl

theorem save_of_ok (written : disk.write path (program.encodeFor path) = .ok disk')
    (transcript : Transcript) :
    (save path program : Session (StateM Disk) Unit) transcript disk =
      ((.ok (),
        { transcript with events := transcript.events ++ [.saved path program] }), disk') := by
  have saved := Program.save_run written
  rw [save, Session.bind_of_ok (lift_run saved transcript)]
  rfl

theorem run_convert {file out : Path} (held : disk.programAt file = .ok program)
    (written : disk.write out (program.encodeFor out) = .ok disk') (transcript : Transcript) :
    ∃ events, (run (.convert file out) : Session (StateM Disk) Unit) transcript disk =
      ((.ok (), ⟨transcript.output, events⟩), disk') := by
  apply Exists.intro
  rw [run, Session.bind_of_ok (load_of_ok held transcript),
    Session.bind_of_ok (save_of_ok written _)]
  rfl

theorem run_json {file : Path} (held : disk.programAt file = .ok program)
    (transcript : Transcript) :
    ∃ events, (run (.json file) : Session (StateM Disk) Unit) transcript disk =
      ((.ok (), ⟨transcript.output ++ (program.indentedJson ++ ['\n']), events⟩), disk) := by
  apply Exists.intro
  rw [run, Session.bind_of_ok (load_of_ok held transcript)]
  rfl

section Edit

variable {file : Path} {index : Nat} {change : Change} (transcript : Transcript)

theorem runEdit_of_unloadable (failed : disk.programAt file = .error cause) :
    (runEdit file index change : Session (StateM Disk) Unit) transcript disk =
      ((.error (.error ("Failed to load ".toList ++ file) cause), transcript), disk) := by
  rw [runEdit, Session.bind_of_error (load_of_error failed transcript)]

theorem runEdit_of_refused (held : disk.programAt file = .ok program) {fault : ProgramFault}
    (refused : (change.at index).applied program = .error fault) :
    ∃ events, (runEdit file index change : Session (StateM Disk) Unit) transcript disk =
      ((.error (.error ("Failed to edit segment ".toList ++ Text.decimal index) (.program fault)),
        ⟨transcript.output, events⟩), disk) := by
  have kept : (Store.new program).edit (change.at index).run =
      (.error (.program fault), Store.new program) := by
    rw [Store.edit, Store.new, Edit.run_of_error refused]
  apply Exists.intro
  rw [runEdit, Session.bind_of_ok (load_of_ok held transcript)]
  simp only [kept]
  rfl

theorem runEdit_of_ok (held : disk.programAt file = .ok program) {edited : Program}
    (applied : (change.at index).applied program = .ok edited)
    (written : disk.write file (edited.encodeFor file) = .ok disk') :
    ∃ events, (runEdit file index change : Session (StateM Disk) Unit) transcript disk =
      ((.ok (), ⟨transcript.output ++ edited.table, events⟩), disk') := by
  obtain ⟨answer, ran⟩ := Edit.run_of_ok applied
  have stored : (Store.new program).edit (change.at index).run = (.ok answer, ⟨edited, 1⟩) := by
    rw [Store.edit, Store.new, ran]
  have accepted (transcript : Transcript) :
      (Session.ofResult ("Failed to edit segment ".toList ++ Text.decimal index)
        (.ok answer) : Session (StateM Disk) _) transcript disk =
          ((.ok answer, transcript), disk) := rfl
  have reported (transcript : Transcript) :
      (Session.report (.edited ⟨edited, 1⟩) : Session (StateM Disk) Unit) transcript disk =
        ((.ok (), { transcript with
          events := transcript.events ++ [.edited ⟨edited, 1⟩] }), disk) := rfl
  apply Exists.intro
  rw [runEdit, Session.bind_of_ok (load_of_ok held transcript)]
  simp only [stored]
  rw [Session.bind_of_ok (accepted _), Session.bind_of_ok (reported _),
    Session.bind_of_ok (save_of_ok written _)]
  rfl

end Edit

end Command

namespace CommandLine

theorem run_of_request {arguments : List (List Char)} {request : Request}
    (requested : Command.request arguments = .ok request)
    {result : Except Failure Unit × Transcript}
    (ran : (Command.run request.command : Session (StateM Disk) Unit) default disk =
      (result, disk')) (setting : Option (List Char)) :
    (run setting arguments : StateM Disk Outcome) disk =
      (outcome (filter setting request.verbose) result, disk') := by
  have unwrapped : (Command.run request.command : Session (StateM Disk) Unit).run.run default disk =
      (result, disk') := ran
  simp only [run, requested, bind, StateT.bind, unwrapped]
  rfl

end CommandLine

end SoundEffect
