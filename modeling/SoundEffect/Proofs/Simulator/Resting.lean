import SoundEffect.Proofs.Envelope.Release
import SoundEffect.Proofs.Interpreter.Glides
import SoundEffect.Proofs.Simulator.Alongside
import SoundEffect.Proofs.Simulator.Samples

namespace SoundEffect

namespace Envelope

variable {envelope : Envelope}

theorem Quiet.obey (quiet : envelope.Quiet) (signal : EnvelopeSignal) :
    (envelope.obey signal).Quiet := by
  cases signal with
  | plain => exact quiet
  | forceRelease => exact quiet_forceRelease envelope

theorem Quiet.iterate (quiet : envelope.Quiet) (voice : Voice) (rates : Rates) (k : Nat) :
    ((·.advance voice rates)^[k] envelope).Quiet := by
  induction k with
  | zero => exact quiet
  | succ k ih =>
      rw [Function.iterate_succ_apply']
      exact ih.advance voice rates

theorem bar_silent : silent.bar = 0 := by
  decide +kernel

theorem level_obey (envelope : Envelope) (signal : EnvelopeSignal) :
    (envelope.obey signal).level = envelope.level := by
  cases signal <;> rfl

end Envelope

namespace Simulator

variable {config : Config} {program : Program} {t : Nat}

theorem quiet_after (program : Program) (executed : t ≤ config.maxTicks) :
    (after config program t).envelope.Quiet := by
  induction t with
  | zero => exact fun _ => rfl
  | succ t ih =>
      rw [(after_succ_of_executed program executed).1]
      exact ((ih (Nat.le_of_succ_le executed)).obey _).iterate _ _ _

theorem substep_eq_silent {now : Simulator} (long : 7 ≤ now.config.tickLength.toNat)
    (quiet : now.envelope.Quiet) (bounded : now.envelope.level ≤ levelMax)
    (control : now.upcomingVoice.control = .none)
    (sustainRelease : now.upcomingVoice.sustainRelease = 0) :
    now.substep substeps = .silent := by
  have lowered : now.upcomingVoice.control.gate = false := by rw [control, Control.gate_none]
  rw [substep_eq_iterate]
  apply Envelope.iterate_advance_eq_silent (quiet.obey _) lowered
  rw [Envelope.level_obey, sustainRelease]
  exact Nat.le_trans (UInt16.le_iff_toNat_le.mp bounded)
    (Rates.levelMax_le_substeps_mul_decayStep long)

theorem envelope_after_of_resting (long : 7 ≤ config.tickLength.toNat) (started : 1 ≤ t)
    (executed : t ≤ config.maxTicks)
    (resting : (Interpreter.after program.segments t).state = .ready ∨
      (Interpreter.after program.segments t).state = .idle) :
    (after config program t).envelope = .silent := by
  obtain ⟨-, control, -, sustainRelease, -⟩ :=
    (Interpreter.tuned_after program.segments started).resting resting
  obtain ⟨t, rfl⟩ := Nat.exists_eq_add_of_le' started
  have begun := Nat.le_of_succ_le executed
  have voice := upcomingVoice_after program begun
  have long' : 7 ≤ (after config program t).config.tickLength.toNat := by
    rwa [(after_within program begun).1]
  have level : (after config program t).envelope.level.toNat ≤ levelMax.toNat :=
    level_iterate_le config program.segments t
  rw [(after_succ_of_executed program executed).1, ← substep_after program begun]
  apply substep_eq_silent long' (quiet_after program begun)
    (UInt16.le_iff_toNat_le.mpr level)
  · rw [voice, control]
  · rw [voice, sustainRelease]

end Simulator

end SoundEffect
