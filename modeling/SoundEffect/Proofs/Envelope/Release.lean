import Mathlib.Logic.Function.Iterate
import SoundEffect.Proofs.Envelope.Levels

namespace SoundEffect

namespace Rates

theorem toNat_reach (rates : Rates) :
    rates.reach.toNat = 8191 * rates.tickLength.toNat / 4 := by
  have bounded := rates.tickLength.toNat_lt
  have most : levelMax.toUInt64.toNat = 8191 := rfl
  have four : (UInt64.ofNat substeps).toNat = 4 := rfl
  rw [reach, UInt64.toNat_div, UInt64.toNat_mul, UInt32.toNat_toUInt64, most, four,
    Nat.mod_eq_of_lt (by omega)]

theorem levelMax_le_substeps_mul_decayStep {rates : Rates} (long : 7 ≤ rates.tickLength.toNat) :
    levelMax.toNat ≤ substeps * (rates.decayStep 0).toNat := by
  have fastest : (decayTimes.getD ((0 : UInt8) &&& 0x0F).toNat 1).toNat = 6 := rfl
  have most : levelMax.toNat = 8191 := rfl
  rw [decayStep, toNat_step, toNat_reach, fastest, most, substeps]
  omega

end Rates

namespace Envelope

variable {envelope : Envelope} {voice : Voice} {rates : Rates}

def Quiet (envelope : Envelope) : Prop :=
  envelope.phase = .off → envelope.level = 0

theorem quiet_of_excited (excited : envelope.phase.excited = true) : envelope.Quiet := by
  intro off
  simp [off] at excited

theorem quiet_fallToSilence (level : UInt16) (step : UInt32) :
    (fallToSilence level step).Quiet := by
  simp only [fallToSilence]
  split
  · intro off
    cases off
  · intro _
    rfl

theorem quiet_forceRelease (envelope : Envelope) : envelope.forceRelease.Quiet := by
  intro off
  cases off

theorem followGate_of_lowered (envelope : Envelope) :
    (envelope.followGate false).level = envelope.level ∧
      ((envelope.followGate false).phase = .off ↔ envelope.phase = .off) ∧
      (envelope.followGate false).phase.excited = false := by
  obtain ⟨phase, level⟩ := envelope
  cases phase <;> simp [followGate]

theorem advance_of_lowered (quiet : envelope.Quiet) (lowered : voice.control.gate = false) :
    envelope.advance voice rates =
      fallToSilence envelope.level (rates.decayStep voice.sustainRelease) := by
  obtain ⟨level, off, calm⟩ := envelope.followGate_of_lowered
  simp only [advance, lowered]
  cases phase : (envelope.followGate false).phase with
  | attack => simp [phase] at calm
  | decay => simp [phase] at calm
  | release => simp only [level]
  | off =>
      have empty := quiet (off.mp phase)
      have still : envelope.followGate false = silent := by
        cases same : envelope.followGate false
        simp_all [silent]
      have settled : ¬ rates.decayStep voice.sustainRelease < (0 : UInt16).toUInt32 :=
        UInt32.not_lt_zero
      simp only [still, empty, fallToSilence, if_neg settled]

theorem Quiet.advance (quiet : envelope.Quiet) (voice : Voice) (rates : Rates) :
    (envelope.advance voice rates).Quiet := by
  cases gate : voice.control.gate with
  | true => exact quiet_of_excited (by rw [advance_excited, gate])
  | false =>
      rw [advance_of_lowered quiet gate]
      exact quiet_fallToSilence _ _

theorem fallToSilence_phase (level : UInt16) (step : UInt32) :
    (fallToSilence level step).phase = if step.toNat < level.toNat then .release else .off := by
  simp only [fallToSilence, UInt32.lt_iff_toNat_lt, UInt16.toNat_toUInt32]
  split <;> rfl

variable (rates) in
theorem iterate_advance_of_lowered (quiet : envelope.Quiet) (lowered : voice.control.gate = false)
    (m : Nat) :
    ((·.advance voice rates)^[m] envelope).Quiet ∧
      ((·.advance voice rates)^[m] envelope).level.toNat =
        envelope.level.toNat - m * (rates.decayStep voice.sustainRelease).toNat := by
  induction m with
  | zero => exact ⟨quiet, by simp⟩
  | succ m ih =>
      obtain ⟨quiet', level⟩ := ih
      rw [Function.iterate_succ_apply']
      refine ⟨quiet'.advance voice rates, ?_⟩
      rw [advance_of_lowered quiet' lowered, toNat_fallToSilence_level, level, Nat.succ_mul]
      omega

variable (rates) in
theorem phase_iterate_advance_of_lowered (quiet : envelope.Quiet)
    (lowered : voice.control.gate = false) (m : Nat) :
    ((·.advance voice rates)^[m + 1] envelope).phase =
      if (m + 1) * (rates.decayStep voice.sustainRelease).toNat < envelope.level.toNat
      then .release else .off := by
  obtain ⟨quiet', level⟩ := iterate_advance_of_lowered rates quiet lowered m
  rw [Function.iterate_succ_apply', advance_of_lowered quiet' lowered, fallToSilence_phase, level,
    Nat.succ_mul]
  congr 1
  rw [eq_iff_iff]
  omega

theorem iterate_advance_eq_silent (quiet : envelope.Quiet) (lowered : voice.control.gate = false)
    {m : Nat} (enough :
      envelope.level.toNat ≤ (m + 1) * (rates.decayStep voice.sustainRelease).toNat) :
    (·.advance voice rates)^[m + 1] envelope = silent := by
  have phase := phase_iterate_advance_of_lowered rates quiet lowered m
  have level := (iterate_advance_of_lowered rates quiet lowered (m + 1)).1
  rw [if_neg (Nat.not_lt.mpr enough)] at phase
  cases fallen : (·.advance voice rates)^[m + 1] envelope
  simp_all [Quiet, silent]

end Envelope

end SoundEffect
