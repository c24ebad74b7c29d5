import Mathlib.Data.UInt
import SoundEffect.Envelope

namespace SoundEffect

namespace Rates

theorem toNat_step (rates : Rates) (milliseconds : UInt64) :
    (rates.step milliseconds).toNat =
      max 1 (min (rates.reach.toNat / milliseconds.toNat) 65535) := by
  have least : (1 : UInt64).toNat = 1 := rfl
  have most : (65535 : UInt64).toNat = 65535 := rfl
  rw [step, UInt64.toNat_toUInt32, UInt64.toNat_max, UInt64.toNat_min, UInt64.toNat_div, least,
    most]
  exact Nat.mod_eq_of_lt (by omega)

theorem step_le (rates : Rates) (milliseconds : UInt64) :
    (rates.step milliseconds).toNat ≤ 65535 := by
  rw [toNat_step]
  omega

end Rates

namespace Phase

@[simp] theorem excited_attack : attack.excited = true := rfl

@[simp] theorem excited_decay : decay.excited = true := rfl

@[simp] theorem excited_release : release.excited = false := rfl

@[simp] theorem excited_off : off.excited = false := rfl

theorem excited_iff (phase : Phase) : phase.excited = true ↔ phase = attack ∨ phase = decay := by
  cases phase <;> simp

theorem not_excited_iff (phase : Phase) :
    phase.excited = false ↔ phase = release ∨ phase = off := by
  cases phase <;> simp

end Phase

namespace Envelope

variable (envelope : Envelope) (voice : Voice) (rates : Rates)

def StartsAttack (envelope : Envelope) (gate : Bool) : Prop :=
  envelope.phase.excited = false ∧ envelope.followGate gate = ⟨.attack, 0⟩

theorem startsAttack_iff (gate : Bool) :
    envelope.StartsAttack gate ↔ envelope.phase.excited = false ∧ gate = true := by
  obtain ⟨phase, level⟩ := envelope
  cases gate <;> cases phase <;> simp [StartsAttack, followGate, Phase.excited]

@[simp] theorem followGate_excited (gate : Bool) :
    (envelope.followGate gate).phase.excited = gate := by
  obtain ⟨phase, level⟩ := envelope
  cases gate <;> cases phase <;> rfl

@[simp] theorem rise_excited (level : UInt16) (step : UInt32) :
    (rise level step).phase.excited = true := by
  simp only [rise]
  split <;> rfl

@[simp] theorem fallToSustain_phase (level target : UInt16) (step : UInt32) :
    (fallToSustain level target step).phase = .decay := by
  simp only [fallToSustain]
  repeat' split
  all_goals rfl

@[simp] theorem fallToSilence_excited (level : UInt16) (step : UInt32) :
    (fallToSilence level step).phase.excited = false := by
  simp only [fallToSilence]
  split <;> rfl

@[simp] theorem advance_excited :
    (envelope.advance voice rates).phase.excited = voice.control.gate := by
  rw [← followGate_excited envelope voice.control.gate]
  cases phase : (envelope.followGate voice.control.gate).phase <;> simp [advance, phase]

theorem toNat_rise_level {level : UInt16} {step : UInt32} (short : step.toNat ≤ 65535) :
    (rise level step).level.toNat = min 8191 (level.toNat + step.toNat) := by
  have small := level.toNat_lt
  have sum : (level.toUInt32 + step).toNat = level.toNat + step.toNat := by
    rw [UInt32.toNat_add, UInt16.toNat_toUInt32, Nat.mod_eq_of_lt (by omega)]
  have most : levelMax.toUInt32.toNat = 8191 := rfl
  simp only [rise, UInt32.le_iff_toNat_le, sum, most]
  split
  · have : levelMax.toNat = 8191 := rfl
    simp only [this]
    omega
  · simp only [UInt32.toNat_toUInt16, sum]
    omega

theorem toNat_fallToSustain_level {level target : UInt16} {step : UInt32}
    (short : step.toNat ≤ 65535) :
    (fallToSustain level target step).level.toNat =
      min level.toNat (max target.toNat (level.toNat - step.toNat)) := by
  have small := level.toNat_lt
  have small' := target.toNat_lt
  have sum : (target.toUInt32 + step).toNat = target.toNat + step.toNat := by
    rw [UInt32.toNat_add, UInt16.toNat_toUInt32, Nat.mod_eq_of_lt (by omega)]
  simp only [fallToSustain, UInt32.lt_iff_toNat_lt, UInt16.lt_iff_toNat_lt, sum,
    UInt16.toNat_toUInt32]
  split
  · rename_i above
    have le : step ≤ level.toUInt32 := by
      rw [UInt32.le_iff_toNat_le, UInt16.toNat_toUInt32]
      omega
    simp only [UInt32.toNat_toUInt16, UInt32.toNat_sub_of_le _ _ le, UInt16.toNat_toUInt32]
    omega
  · split
    · simp only
      omega
    · simp only
      omega

theorem toNat_fallToSilence_level {level : UInt16} {step : UInt32} :
    (fallToSilence level step).level.toNat = level.toNat - step.toNat := by
  have small := level.toNat_lt
  simp only [fallToSilence, UInt32.lt_iff_toNat_lt, UInt16.toNat_toUInt32]
  split
  · rename_i above
    have le : step ≤ level.toUInt32 := by
      rw [UInt32.le_iff_toNat_le, UInt16.toNat_toUInt32]
      omega
    simp only [UInt32.toNat_toUInt16, UInt32.toNat_sub_of_le _ _ le, UInt16.toNat_toUInt32]
    omega
  · have : silent.level.toNat = 0 := rfl
    omega

theorem followGate_level_le (gate : Bool) :
    (envelope.followGate gate).level.toNat ≤ envelope.level.toNat := by
  obtain ⟨phase, level⟩ := envelope
  cases gate <;> cases phase <;> simp [followGate]

theorem advance_level_le (bounded : envelope.level.toNat ≤ 8191) :
    (envelope.advance voice rates).level.toNat ≤ 8191 := by
  have entry := envelope.followGate_level_le voice.control.gate
  simp only [advance]
  cases (envelope.followGate voice.control.gate).phase with
  | attack =>
      simp only [toNat_rise_level (rates.step_le _), Rates.attackStep]
      omega
  | decay =>
      simp only [toNat_fallToSustain_level (rates.step_le _), Rates.decayStep]
      omega
  | release =>
      simp only [toNat_fallToSilence_level]
      omega
  | off => simpa using Nat.le_trans entry bounded

end Envelope

end SoundEffect
