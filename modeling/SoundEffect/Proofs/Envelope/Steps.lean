import SoundEffect.Proofs.Envelope.Bars
import SoundEffect.Proofs.Envelope.Release

namespace SoundEffect

theorem Rates.one_le_step (rates : Rates) (milliseconds : UInt64) :
    1 ≤ (rates.step milliseconds).toNat := by
  rw [toNat_step]
  exact Nat.le_max_left _ _

theorem Curves.toNat_sustainTarget_le (nibble : UInt8) : (sustainTarget nibble).toNat ≤ 8160 := by
  have entry := (sustain.getD (nibble &&& 0x0F).toNat 0).toNat_lt
  rw [sustainTarget, UInt16.toNat_shiftLeft, UInt8.toNat_toUInt16, Nat.shiftLeft_eq]
  change _ * 2 ^ 5 % 2 ^ 16 ≤ _
  omega

namespace Voice

variable (voice : Voice) (rates : Rates)

def attackStep : UInt32 :=
  rates.attackStep (voice.attackDecay >>> 4)

def decayStep : UInt32 :=
  rates.decayStep voice.attackDecay

def releaseStep : UInt32 :=
  rates.decayStep voice.sustainRelease

def sustainTarget : UInt16 :=
  Curves.sustainTarget (voice.sustainRelease >>> 4)

theorem attackStep_bounds :
    1 ≤ (voice.attackStep rates).toNat ∧ (voice.attackStep rates).toNat ≤ 65535 :=
  ⟨rates.one_le_step _, rates.step_le _⟩

theorem decayStep_bounds :
    1 ≤ (voice.decayStep rates).toNat ∧ (voice.decayStep rates).toNat ≤ 65535 :=
  ⟨rates.one_le_step _, rates.step_le _⟩

end Voice

namespace Envelope

variable {envelope next : Envelope} {voice : Voice} {rates : Rates}

theorem rise_phase (level : UInt16) {step : UInt32} (short : step.toNat ≤ 65535) :
    (rise level step).phase = if level.toNat + step.toNat < 8191 then .attack else .decay := by
  have small := level.toNat_lt
  have sum : (level.toUInt32 + step).toNat = level.toNat + step.toNat := by
    rw [UInt32.toNat_add, UInt16.toNat_toUInt32, Nat.mod_eq_of_lt (by omega)]
  have most : levelMax.toUInt32.toNat = 8191 := rfl
  simp only [rise, UInt32.le_iff_toNat_le, sum, most]
  split
  · rw [if_neg (by omega)]
  · rw [if_pos (by omega)]

theorem advance_of_idle (gate : voice.control.gate = true) (idle : envelope.phase.excited = false) :
    envelope.advance voice rates = rise 0 (voice.attackStep rates) := by
  simp [advance, followGate, gate, idle, Voice.attackStep]

theorem advance_of_attack (gate : voice.control.gate = true) (phase : envelope.phase = .attack) :
    envelope.advance voice rates = rise envelope.level (voice.attackStep rates) := by
  simp [advance, followGate, gate, phase, Voice.attackStep]

theorem advance_of_decay (gate : voice.control.gate = true) (phase : envelope.phase = .decay) :
    envelope.advance voice rates =
      fallToSustain envelope.level voice.sustainTarget (voice.decayStep rates) := by
  simp [advance, followGate, gate, phase, Voice.sustainTarget, Voice.decayStep]

theorem advance_of_sounding (gate : voice.control.gate = false) (sounding : envelope.phase ≠ .off) :
    envelope.advance voice rates = fallToSilence envelope.level (voice.releaseStep rates) := by
  cases phase : envelope.phase with
  | attack => simp [advance, followGate, gate, phase, Voice.releaseStep]
  | decay => simp [advance, followGate, gate, phase, Voice.releaseStep]
  | release => simp [advance, followGate, gate, phase, Voice.releaseStep]
  | off => exact absurd phase sounding

theorem advance_of_off (gate : voice.control.gate = false) (phase : envelope.phase = .off) :
    envelope.advance voice rates = envelope := by
  simp [advance, followGate, gate, phase]

inductive Step (envelope : Envelope) (voice : Voice) (rates : Rates) : Envelope → Prop
  | start (gate : voice.control.gate = true) (idle : envelope.phase.excited = false) :
      Step envelope voice rates (rise 0 (voice.attackStep rates))
  | climb (gate : voice.control.gate = true) (phase : envelope.phase = .attack) :
      Step envelope voice rates (rise envelope.level (voice.attackStep rates))
  | sink (gate : voice.control.gate = true) (phase : envelope.phase = .decay) :
      Step envelope voice rates
        (fallToSustain envelope.level voice.sustainTarget (voice.decayStep rates))
  | fade (gate : voice.control.gate = false) (sounding : envelope.phase ≠ .off) :
      Step envelope voice rates (fallToSilence envelope.level (voice.releaseStep rates))
  | rest (gate : voice.control.gate = false) (phase : envelope.phase = .off) :
      Step envelope voice rates envelope

theorem step_advance (envelope : Envelope) (voice : Voice) (rates : Rates) :
    Step envelope voice rates (envelope.advance voice rates) := by
  cases gate : voice.control.gate with
  | true =>
      cases phase : envelope.phase with
      | attack =>
          rw [advance_of_attack gate phase]
          exact .climb gate phase
      | decay =>
          rw [advance_of_decay gate phase]
          exact .sink gate phase
      | release =>
          have idle : envelope.phase.excited = false := by simp [phase]
          rw [advance_of_idle gate idle]
          exact .start gate idle
      | off =>
          have idle : envelope.phase.excited = false := by simp [phase]
          rw [advance_of_idle gate idle]
          exact .start gate idle
  | false =>
      by_cases phase : envelope.phase = .off
      · rw [advance_of_off gate phase]
        exact .rest gate phase
      · rw [advance_of_sounding gate phase]
        exact .fade gate phase

end Envelope

end SoundEffect
