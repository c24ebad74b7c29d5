import SoundEffect.Proofs.EffectFile.Codec
import SoundEffect.Proofs.Program.Json
import SoundEffect.Proofs.Store.Edits

namespace SoundEffect

theorem EffectFile.valid_of_read {source : Source} {program : Program}
    (made : (read source).1 = .ok program) : program.Valid := by
  obtain ⟨consumed, verdict, -⟩ := read_verdict source
  rw [made] at verdict
  cases verdict with
  | whole split recent nonempty fits counted =>
      rw [← counted] at nonempty fits
      exact Program.valid_of_ofSegments (Program.ofSegments_eq_ok_iff.mpr ⟨nonempty, fits, rfl⟩)

inductive Origin where
  | base
  | segments (raw : List Segment)
  | json (text : List UInt8)
  | file (source : Source)
  deriving DecidableEq, Repr

namespace Origin

def program : Origin → Except Error Program
  | base => .ok .base
  | segments raw => (Program.ofSegments raw).mapError .program
  | json text => (Program.ofJson text).mapError .json
  | file source => (EffectFile.read source).1

theorem ok_of_mapError {α ε ε' : Type} {result : Except ε α} {wrap : ε → ε'} {value : α}
    (h : result.mapError wrap = .ok value) : result = .ok value := by
  cases result with
  | error fault => cases h
  | ok made =>
      obtain rfl := Except.ok.inj h
      rfl

theorem valid_program {origin : Origin} {made : Program} (h : origin.program = .ok made) :
    made.Valid := by
  cases origin with
  | base =>
      obtain rfl := Except.ok.inj h
      exact Program.valid_base
  | segments raw => exact Program.valid_of_ofSegments (ok_of_mapError h)
  | json text => exact Program.valid_of_ofJson (ok_of_mapError h)
  | file source => exact EffectFile.valid_of_read h

end Origin

def Edit.Checked (step : Edit) : Prop :=
  ∀ index replacement, step ≠ .segment index (.assign replacement)

inductive Call where
  | take (origin : Origin)
  | edit (step : Edit) (checked : step.Checked)

namespace Call

def run : Call → EditM (Option Segment)
  | take origin => do
      set (← MonadExcept.ofExcept origin.program)
      return none
  | edit step _ => step.run

def outcome (program : Program) (calls : List Call) : Program :=
  calls.foldl (fun program call => (call.run.run.run program).2) program

variable {call : Call} {program : Program}

theorem run_take (origin : Origin) (program : Program) :
    (take origin).run.run.run program =
      match origin.program with
      | .ok made => (.ok none, made)
      | .error fault => (.error fault, program) := by
  have unfolded : (take origin).run.run.run program =
      (MonadExcept.ofExcept origin.program >>= fun made =>
        (do set made; return none : EditM (Option Segment))).run.run program := rfl
  rw [unfolded]
  cases origin.program <;> rfl

theorem run_error {left : Program} {fault : Error}
    (h : call.run.run.run program = (.error fault, left)) : left = program := by
  cases call with
  | edit step checked => exact Edit.run_error h
  | take origin =>
      rw [run_take] at h
      split at h
      · cases h
      · exact (Prod.mk.inj h).2.symm

theorem valid_run (valid : program.Valid) (call : Call) : (call.run.run.run program).2.Valid := by
  cases call with
  | take origin =>
      rw [run_take]
      split
      · rename_i made
        exact Origin.valid_program made
      · exact valid
  | edit step checked =>
      change (step.run.run.run program).2.Valid
      cases applied : step.applied program with
      | error fault => rwa [Edit.run_of_error applied]
      | ok edited =>
          obtain ⟨answer, ran⟩ := Edit.run_of_ok applied
          rw [ran]
          exact Edit.valid_of_applied valid applied fun index replacement same =>
            absurd same (checked index replacement)

theorem valid_outcome (valid : program.Valid) (calls : List Call) :
    (outcome program calls).Valid := by
  induction calls generalizing program with
  | nil => exact valid
  | cons call calls ih => exact ih (valid_run valid call)

theorem outcome_wellFormed_and_atomic (calls : List Call) :
    (1 ≤ (outcome .base calls).length ∧ (outcome .base calls).length ≤ 15 ∧
      ∀ segment ∈ (outcome .base calls).segments,
        segment.pulseWidth.toNat ≤ 4095 ∧ -32767 ≤ segment.freqGlide.toInt ∧
          (-4095 ≤ segment.pulseGlide.toInt ∧ segment.pulseGlide.toInt ≤ 4095) ∧
          segment.gateTicks.toNat ≤ 99 ∧ segment.releaseTicks.toNat ≤ 99) ∧
      ∀ (call : Call) (program left : Program) (fault : Error),
        call.run.run.run program = (.error fault, left) → left = program := by
  obtain ⟨nonempty, fits, inRange⟩ := valid_outcome Program.valid_base calls
  refine ⟨⟨nonempty, fits, fun segment member => ?_⟩, ?_⟩
  · exact (Segment.inRange_iff segment).mp (inRange segment member)
  · intro call program left fault failed
    exact run_error failed

def stubbornCalls : List Call :=
  [.take (.segments (List.replicate 16 { Segment.base with gateTicks := 200 })),
    .take (.segments (List.replicate 15 { Segment.base with gateTicks := 200 })),
    .edit (.insert 3) nofun, .edit (.remove 20) nofun]

theorem outcome_wellFormed_and_atomic_stubbornCalls :
    (outcome .base stubbornCalls).length = 15 ∧
      (∀ segment ∈ (outcome .base stubbornCalls).segments, segment.gateTicks.toNat ≤ 99) ∧
      (edit (.insert 3) nofun).run.run.run (outcome .base stubbornCalls) =
        (.error (.program (.full 15)), outcome .base stubbornCalls) := by
  obtain ⟨⟨-, -, inRange⟩, kept⟩ := outcome_wellFormed_and_atomic stubbornCalls
  obtain ⟨left, refused⟩ : ∃ left,
      (edit (.insert 3) nofun).run.run.run (outcome .base stubbornCalls) =
        (.error (.program (.full 15)), left) := ⟨_, rfl⟩
  have unchanged := kept _ _ _ _ refused
  exact ⟨rfl, fun segment member => (inRange segment member).2.2.2.1, unchanged ▸ refused⟩

end Call

end SoundEffect
