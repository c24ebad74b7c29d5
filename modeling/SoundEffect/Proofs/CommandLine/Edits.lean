import SoundEffect.Proofs.CommandLine.Invocations
import SoundEffect.Proofs.CommandLine.Running

namespace SoundEffect

variable {disk : Disk} {file : Path}

structure EditRun where
  setting : Option (List Char)
  arguments : List (List Char)
  index : Nat
  operation : Operation

namespace EditRun

def Asks (step : EditRun) (file : Path) : Prop :=
  ∃ verbose, Command.request step.arguments =
    .ok ⟨verbose, .edit file step.index step.operation.change⟩

def leaves (step : EditRun) (program : Program) : Program :=
  step.operation.leaves step.index program

def run (step : EditRun) : StateM Disk Outcome :=
  CommandLine.run step.setting step.arguments

def after (disk : Disk) (history : List EditRun) : Disk :=
  history.foldl (fun disk step => (step.run disk).2) disk

structure Fails (step : EditRun) (disk : Disk) (failure : Failure) : Prop where
  code : (step.run disk).1.code = 1
  output : (step.run disk).1.output = []
  report : (step.run disk).1.report = failure.report
  unchanged : (step.run disk).2 = disk

structure Succeeds (step : EditRun) (disk : Disk) (file : Path) (edited : Program) : Prop where
  code : (step.run disk).1.code = 0
  output : (step.run disk).1.output = edited.table
  report : (step.run disk).1.report = []
  written : disk.write file (edited.encodeFor file) = .ok (step.run disk).2
  content : (step.run disk).2.read file = .ok (edited.encodeFor file)

def Mirrors (step : EditRun) (disk : Disk) (file : Path) : Prop :=
  match disk.programAt file with
  | .error cause => step.Fails disk (.error ("Failed to load ".toList ++ file) cause)
  | .ok program =>
      match step.operation.result step.index program with
      | .error fault =>
          step.Fails disk
            (.error ("Failed to edit segment ".toList ++ Text.decimal step.index) (.program fault))
      | .ok edited => step.Succeeds disk file edited

variable {step : EditRun} {bytes : List UInt8}

theorem mirrors_of_asks (content : disk.read file = .ok bytes) (asks : step.Asks file) :
    step.Mirrors disk file := by
  obtain ⟨verbose, requested⟩ := asks
  rw [Mirrors]
  cases held : disk.programAt file with
  | error cause =>
      have ran : step.run disk = _ := CommandLine.run_of_request requested
        (Command.runEdit_of_unloadable default held) step.setting
      constructor <;> rw [ran] <;> rfl
  | ok program =>
      cases applied : step.operation.result step.index program with
      | error fault =>
          obtain ⟨events, refused⟩ := Command.runEdit_of_refused default held
            ((Operation.applied_change _ _ _).trans applied)
          have ran : step.run disk = _ :=
            CommandLine.run_of_request requested refused step.setting
          simp only [applied]
          constructor <;> rw [ran] <;> rfl
      | ok edited =>
          obtain ⟨left, written⟩ := Disk.writable_of_read content (edited.encodeFor file)
          obtain ⟨events, accepted⟩ := Command.runEdit_of_ok default held
            ((Operation.applied_change _ _ _).trans applied) written
          have ran : step.run disk = _ :=
            CommandLine.run_of_request requested accepted step.setting
          have content' := Disk.read_of_write written
          simp only [applied]
          constructor <;> rw [ran]
          · rfl
          · rfl
          · rfl
          · exact written
          · exact content'

theorem programAt_run (content : disk.read file = .ok bytes) (asks : step.Asks file) :
    (∃ content', (step.run disk).2.read file = .ok content') ∧
      (step.run disk).2.programAt file = (disk.programAt file).map step.leaves := by
  have mirrors := mirrors_of_asks content asks
  rw [Mirrors] at mirrors
  cases held : disk.programAt file with
  | error cause =>
      simp only [held] at mirrors
      rw [mirrors.unchanged]
      exact ⟨⟨bytes, content⟩, held⟩
  | ok program =>
      simp only [held] at mirrors
      cases applied : step.operation.result step.index program with
      | error fault =>
          simp only [applied] at mirrors
          rw [mirrors.unchanged, held]
          refine ⟨⟨bytes, content⟩, ?_⟩
          simp only [Except.map, leaves, Operation.leaves, applied]
      | ok edited =>
          simp only [applied] at mirrors
          have valid : edited.Valid :=
            Operation.valid_of_result (Disk.valid_of_programAt held) applied
          refine ⟨⟨_, mirrors.content⟩, ?_⟩
          rw [Disk.programAt_of_write valid mirrors.written]
          simp only [Except.map, leaves, Operation.leaves, applied]

theorem programAt_after {history : List EditRun} (content : disk.read file = .ok bytes)
    (asked : ∀ step ∈ history, step.Asks file) :
    (∃ content', (after disk history).read file = .ok content') ∧
      (after disk history).programAt file = (disk.programAt file).map fun program =>
        history.foldl (fun program step => step.leaves program) program := by
  induction history generalizing disk bytes with
  | nil =>
      refine ⟨⟨bytes, content⟩, ?_⟩
      cases held : disk.programAt file <;> exact held
  | cons step history ih =>
      obtain ⟨⟨bytes', content'⟩, first⟩ := programAt_run content (asked step List.mem_cons_self)
      obtain ⟨last, rest⟩ := ih content' fun other member =>
        asked other (List.mem_cons_of_mem _ member)
      refine ⟨last, ?_⟩
      rw [after, List.foldl_cons, ← after, rest, first]
      cases disk.programAt file <;> rfl

theorem history_mirrors_edits {history : List EditRun} (content : disk.read file = .ok bytes)
    (asked : ∀ step ∈ history, step.Asks file) :
    ((after disk history).programAt file = (disk.programAt file).map fun program =>
        history.foldl (fun program step => step.leaves program) program) ∧
      (∀ next : EditRun, next.Asks file → next.Mirrors (after disk history) file) ∧
      (∀ setting arguments verbose index change,
        Command.request arguments = .ok ⟨verbose, .edit file index change⟩ →
          ∃ operation : Operation, operation.Wanted arguments file index ∧
            (⟨setting, arguments, index, operation⟩ : EditRun).Asks file) ∧
      (file.head? ≠ some '-' → ∀ setting (operation : Operation), ∀ index < 2 ^ 64,
        (⟨setting, operation.arguments file index, index, operation⟩ : EditRun).Asks file) := by
  obtain ⟨⟨last, read⟩, edited⟩ := programAt_after content asked
  refine ⟨edited, fun next asks => mirrors_of_asks read asks, ?_, ?_⟩
  · intro setting arguments verbose index change requested
    obtain ⟨operation, rfl, wanted⟩ := Command.exists_operation_of_request requested
    exact ⟨operation, wanted, verbose, requested⟩
  · intro plain setting operation index small
    have nonempty : file ≠ [] := by
      rintro rfl
      cases content
    exact ⟨false, operation.request_arguments plain nonempty small⟩

theorem asks_of_toOption (verbose : Bool) (parsed : (Command.request step.arguments).toOption =
    some ⟨verbose, .edit file step.index step.operation.change⟩) : step.Asks file := by
  refine ⟨verbose, ?_⟩
  cases requested : Command.request step.arguments with
  | error refusal =>
      rw [requested] at parsed
      cases parsed
  | ok request =>
      rw [requested] at parsed
      exact congrArg Except.ok (Option.some.inj parsed)

def samplePath : Path :=
  "a.fx".toList

def sampleDisk : Disk :=
  ⟨[([['w']], .directory), ([['w'], samplePath], .file (Program.base.encodeFor samplePath))],
    [['w']]⟩

def sampleHistory : List EditRun :=
  [⟨none, ["edit".toList, samplePath, "-s0".toList, "-ffreq".toList, "--delta=-250".toList], 0,
      .adjust .frequency (-250)⟩,
    ⟨none, ["edit".toList, samplePath, "-s7".toList, "--remove".toList], 7, .remove⟩,
    ⟨none, ["edit".toList, "--set".toList, "9999".toList, "--field=PWM".toList, "-s0".toList,
      samplePath], 0, .set .pulseWidth 9999⟩,
    ⟨none, ["edit".toList, samplePath, "-s0".toList, "-wnoise".toList], 0, .enable .noise⟩,
    ⟨none, ["-v".toList, "edit".toList, samplePath, "-s0".toList, "--insert".toList], 0, .insert⟩]

def sampleSegment : Segment :=
  { Segment.base with frequency := 750, pulseWidth := 4095, control := ⟨0x81⟩ }

def sampleNext : EditRun :=
  ⟨none, ["edit".toList, "--segment=1".toList, "--gate=off".toList, samplePath], 1, .gate false⟩

theorem history_mirrors_edits_sampleHistory :
    sampleDisk.read samplePath = .ok (Program.base.encodeFor samplePath) ∧
      (∀ step ∈ sampleHistory, step.Asks samplePath) ∧
      (after sampleDisk sampleHistory).programAt samplePath =
        .ok ⟨[sampleSegment, sampleSegment]⟩ ∧
      sampleNext.Asks samplePath ∧
      (sampleNext.run (after sampleDisk sampleHistory)).2.read samplePath =
        .ok ((⟨[sampleSegment, { sampleSegment with control := ⟨0x80⟩ }]⟩ : Program).encodeFor
          samplePath) := by
  have content : sampleDisk.read samplePath = .ok (Program.base.encodeFor samplePath) := rfl
  have asked : ∀ step ∈ sampleHistory, step.Asks samplePath := by
    intro step member
    simp only [sampleHistory, List.mem_cons, List.not_mem_nil, or_false] at member
    rcases member with rfl | rfl | rfl | rfl | rfl
    · exact asks_of_toOption false (by decide +kernel)
    · exact asks_of_toOption false (by decide +kernel)
    · exact asks_of_toOption false (by decide +kernel)
    · exact asks_of_toOption false (by decide +kernel)
    · exact asks_of_toOption true (by decide +kernel)
  have next : sampleNext.Asks samplePath := asks_of_toOption false (by decide +kernel)
  obtain ⟨edited, mirrored, -, -⟩ := history_mirrors_edits content asked
  have held : sampleDisk.programAt samplePath = .ok .base := by
    rw [Disk.programAt_of_read content, Program.decodeFor_encodeFor Program.valid_base]
  have left : (after sampleDisk sampleHistory).programAt samplePath =
      .ok ⟨[sampleSegment, sampleSegment]⟩ := by
    rw [edited, held]
    rfl
  have mirrors := mirrored sampleNext next
  rw [Mirrors, left] at mirrors
  exact ⟨content, asked, left, next, mirrors.content⟩

end EditRun

end SoundEffect
