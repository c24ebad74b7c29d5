import Mathlib.Data.List.Induction
import SoundEffect.Proofs.Envelope.Checked

namespace SoundEffect.Envelope

inductive Stimulus where
  | advance (voice : Voice) (rates : Rates)
  | forceRelease
  deriving DecidableEq, Repr

def undergo (envelope : Envelope) : Stimulus → Envelope
  | .advance voice rates => envelope.advance voice rates
  | .forceRelease => envelope.forceRelease

def after (history : List Stimulus) : Envelope :=
  history.foldl undergo silent

theorem after_append (history later : List Stimulus) :
    after (history ++ later) = later.foldl undergo (after history) :=
  List.foldl_append

theorem after_concat (history : List Stimulus) (stimulus : Stimulus) :
    after (history ++ [stimulus]) = (after history).undergo stimulus :=
  after_append history [stimulus]

structure Sound (envelope : Envelope) : Prop where
  bounded : envelope.level ≤ levelMax
  quiet : envelope.Quiet
  rising : envelope.phase = .attack → 0 < envelope.level ∧ envelope.level < levelMax

variable {envelope next : Envelope} {voice : Voice} {rates : Rates} {level target : UInt16}
  {step : UInt32}

theorem bounded_iff : level ≤ levelMax ↔ level.toNat ≤ 8191 :=
  UInt16.le_iff_toNat_le

theorem sound_silent : silent.Sound :=
  ⟨by decide, fun _ => rfl, nofun⟩

theorem sound_rise (level : UInt16) (bounds : 1 ≤ step.toNat ∧ step.toNat ≤ 65535) :
    (rise level step).Sound := by
  have reached := @toNat_rise_level level step bounds.2
  refine ⟨bounded_iff.mpr (by omega), quiet_of_excited (rise_excited level step), ?_⟩
  intro phase
  rw [rise_phase level bounds.2] at phase
  split at phase
  · have most : levelMax.toNat = 8191 := rfl
    simp only [UInt16.lt_iff_toNat_lt, most, UInt16.toNat_zero]
    omega
  · cases phase

theorem sound_fallToSustain (bounded : level ≤ levelMax) (target : UInt16)
    (short : step.toNat ≤ 65535) : (fallToSustain level target step).Sound := by
  have reached := @toNat_fallToSustain_level level target step short
  rw [bounded_iff] at bounded
  refine ⟨bounded_iff.mpr (by omega), quiet_of_excited (by simp), ?_⟩
  simp

theorem sound_fallToSilence (bounded : level ≤ levelMax) (step : UInt32) :
    (fallToSilence level step).Sound := by
  have reached := @toNat_fallToSilence_level level step
  rw [bounded_iff] at bounded
  refine ⟨bounded_iff.mpr (by omega), quiet_fallToSilence level step, ?_⟩
  intro phase
  have calm := fallToSilence_excited level step
  simp [phase] at calm

theorem Step.sound (step : Step envelope voice rates next) (sound : envelope.Sound) :
    next.Sound := by
  cases step with
  | start gate idle => exact sound_rise 0 (voice.attackStep_bounds rates)
  | climb gate phase => exact sound_rise envelope.level (voice.attackStep_bounds rates)
  | sink gate phase =>
      exact sound_fallToSustain sound.bounded voice.sustainTarget (voice.decayStep_bounds rates).2
  | fade gate sounding => exact sound_fallToSilence sound.bounded (voice.releaseStep rates)
  | rest gate phase => exact sound

theorem Sound.forceRelease (sound : envelope.Sound) : envelope.forceRelease.Sound :=
  ⟨sound.bounded, quiet_forceRelease envelope, nofun⟩

theorem Sound.undergo (sound : envelope.Sound) (stimulus : Stimulus) :
    (envelope.undergo stimulus).Sound := by
  cases stimulus with
  | advance voice rates => exact (step_advance envelope voice rates).sound sound
  | forceRelease => exact sound.forceRelease

theorem sound_after (history : List Stimulus) : (after history).Sound := by
  induction history using List.reverseRecOn with
  | nil => exact sound_silent
  | append_singleton history stimulus ih =>
      rw [after_concat]
      exact ih.undergo stimulus

theorem Step.level_pos_of_release (step : Step envelope voice rates next)
    (phase : next.phase = .release) : 0 < next.level := by
  cases step with
  | start gate idle =>
      have excited := rise_excited 0 (voice.attackStep rates)
      simp [phase] at excited
  | climb gate attack =>
      have excited := rise_excited envelope.level (voice.attackStep rates)
      simp [phase] at excited
  | sink gate decay => simp at phase
  | fade gate sounding =>
      rw [fallToSilence_phase] at phase
      split at phase
      · rw [UInt16.lt_iff_toNat_lt, toNat_fallToSilence_level, UInt16.toNat_zero]
        omega
      · cases phase
  | rest gate off =>
      rw [off] at phase
      cases phase

theorem after_sound_without_overflow (history : List Stimulus) :
    (after history).Sound ∧ (after history).bar ≤ barMax ∧
      ∀ voice rates,
        let next := (after history).advance voice rates
        (after history).advance? voice rates = some next ∧
          (voice.control.gate = true → next.phase = .attack ∨ next.phase = .decay) ∧
          (voice.control.gate = false → next.phase = .release ∨ next.phase = .off) ∧
          (next.phase = .release → 0 < next.level) := by
  have sound := sound_after history
  refine ⟨sound, UInt8.le_iff_toNat_le.mpr (bar_le (bounded_iff.mp sound.bounded)), ?_⟩
  intro voice rates next
  refine ⟨advance?_eq _ voice rates, ?_, ?_, ?_⟩
  · intro gate
    rw [← Phase.excited_iff, advance_excited, gate]
  · intro gate
    rw [← Phase.not_excited_iff, advance_excited, gate]
  · exact (step_advance (after history) voice rates).level_pos_of_release

end SoundEffect.Envelope
