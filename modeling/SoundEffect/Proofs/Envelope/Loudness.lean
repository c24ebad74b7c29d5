import SoundEffect.Proofs.Envelope.History

namespace SoundEffect.Envelope

variable {envelope next : Envelope} {voice : Voice} {rates : Rates} {history later : List Stimulus}

def Attacks (envelope : Envelope) (voice : Voice) : Prop :=
  voice.control.gate = true ∧ envelope.phase ≠ .decay

theorem rise_outcome (level : UInt16) (step : UInt32) :
    (rise level step).phase = .attack ∨
      (rise level step).phase = .decay ∧ (rise level step).level = levelMax := by
  simp only [rise]
  split
  · exact .inr ⟨rfl, rfl⟩
  · exact .inl rfl

theorem Step.outcome_of_attacks (step : Step envelope voice rates next)
    (attacks : envelope.Attacks voice) :
    next.phase = .attack ∨ next.phase = .decay ∧ next.level = levelMax := by
  obtain ⟨up, started⟩ := attacks
  cases step with
  | start gate idle => exact rise_outcome 0 _
  | climb gate phase => exact rise_outcome envelope.level _
  | sink gate phase => exact absurd phase started
  | fade gate sounding => simp [gate] at up
  | rest gate phase => simp [gate] at up

theorem Step.falls_of_not_attacks (step : Step envelope voice rates next)
    (other : ¬ envelope.Attacks voice) :
    next.phase ≠ .attack ∧ next.level.toNat ≤ envelope.level.toNat := by
  cases step with
  | start gate idle => exact absurd ⟨gate, fun decay => by simp [decay] at idle⟩ other
  | climb gate phase => exact absurd ⟨gate, by simp [phase]⟩ other
  | sink gate phase =>
      refine ⟨by simp, ?_⟩
      rw [toNat_fallToSustain_level (voice.decayStep_bounds rates).2]
      exact Nat.min_le_left _ _
  | fade gate sounding =>
      have calm := fallToSilence_excited envelope.level (voice.releaseStep rates)
      refine ⟨fun phase => by simp [phase] at calm, ?_⟩
      rw [toNat_fallToSilence_level]
      exact Nat.sub_le _ _
  | rest gate phase => exact ⟨by simp [phase], Nat.le_refl _⟩

theorem bar_le_of_level_le (bounded : envelope.level ≤ levelMax) (phase : next.phase ≠ .attack)
    (level : next.level.toNat ≤ envelope.level.toNat) : next.bar.toNat ≤ envelope.bar.toNat := by
  -- the attack may just have been left: the straight line is what the curve is compared with
  calc next.bar.toNat
      = (Curves.levelBar next.level).toNat := by rw [bar_of_not_attack phase]
    _ ≤ (Curves.levelBar envelope.level).toNat := Curves.levelBar_mono level
    _ ≤ envelope.bar.toNat := levelBar_le_bar (bounded_iff.mp bounded)

theorem toNat_rise_level_of_decay {level : UInt16} {step : UInt32}
    (phase : (rise level step).phase = .decay) : (rise level step).level.toNat = 8191 := by
  rcases rise_outcome level step with attack | ⟨-, top⟩
  · rw [attack] at phase
    cases phase
  · rw [top]
    rfl

theorem Step.min_target_le (step : Step envelope voice rates next) (phase : next.phase = .decay) :
    min envelope.level.toNat voice.sustainTarget.toNat ≤ next.level.toNat := by
  have target : voice.sustainTarget.toNat ≤ 8160 := Curves.toNat_sustainTarget_le _
  cases step with
  | start gate idle =>
      rw [toNat_rise_level_of_decay phase]
      omega
  | climb gate attack =>
      rw [toNat_rise_level_of_decay phase]
      omega
  | sink gate decay =>
      rw [toNat_fallToSustain_level (voice.decayStep_bounds rates).2]
      omega
  | fade gate sounding =>
      have calm := fallToSilence_excited envelope.level (voice.releaseStep rates)
      simp [phase] at calm
  | rest gate off =>
      rw [off] at phase
      cases phase

def Stimulus.Holds : Stimulus → Prop
  | .advance voice _ => voice.control.gate = true
  | .forceRelease => False

theorem undergo_of_holds (phase : envelope.phase = .decay) {stimulus : Stimulus}
    (holds : stimulus.Holds) :
    (envelope.undergo stimulus).phase = .decay ∧
      (envelope.undergo stimulus).level.toNat ≤ envelope.level.toNat := by
  cases stimulus with
  | advance voice rates =>
      rw [undergo, advance_of_decay holds phase,
        toNat_fallToSustain_level (voice.decayStep_bounds rates).2]
      exact ⟨fallToSustain_phase _ _ _, Nat.min_le_left _ _⟩
  | forceRelease => exact holds.elim

theorem foldl_undergo_of_holds (phase : envelope.phase = .decay)
    (holds : ∀ stimulus ∈ later, stimulus.Holds) :
    (later.foldl undergo envelope).phase = .decay ∧
      (later.foldl undergo envelope).level.toNat ≤ envelope.level.toNat := by
  induction later generalizing envelope with
  | nil => exact ⟨phase, Nat.le_refl _⟩
  | cons stimulus later ih =>
      rw [List.forall_mem_cons] at holds
      obtain ⟨phase', level⟩ := undergo_of_holds phase holds.1
      obtain ⟨phase'', level'⟩ := ih phase' holds.2
      exact ⟨phase'', Nat.le_trans level' level⟩

theorem exists_letGo_of_startsAttack (phase : (after history).phase = .decay) {gate : Bool}
    (starts : (after (history ++ later)).StartsAttack gate) :
    ∃ stimulus ∈ later, ¬ stimulus.Holds := by
  by_contra holds
  push Not at holds
  have excited := (startsAttack_iff _ gate).mp starts
  rw [after_append, (foldl_undergo_of_holds phase holds).1] at excited
  simp at excited

theorem louder_only_by_attack (history : List Stimulus) :
    (∀ voice rates,
        let next := (after history).advance voice rates
        ((after history).level < next.level ∨ (after history).bar < next.bar →
            (after history).Attacks voice ∧
              (next.phase = .attack ∨ next.phase = .decay ∧ next.level = levelMax)) ∧
          (¬ (after history).Attacks voice →
            next.level ≤ (after history).level ∧ next.bar ≤ (after history).bar) ∧
          (next.phase = .decay →
            min (after history).level.toNat voice.sustainTarget.toNat ≤ next.level.toNat)) ∧
      ((after history).phase = .decay → ∀ later,
        (∀ gate, (after (history ++ later)).StartsAttack gate →
            ∃ stimulus ∈ later, ¬ stimulus.Holds) ∧
          ((∀ stimulus ∈ later, stimulus.Holds) →
            (after (history ++ later)).phase = .decay ∧
              (after (history ++ later)).level ≤ (after history).level)) := by
  refine ⟨?_, fun phase later => ⟨fun gate => exists_letGo_of_startsAttack phase, ?_⟩⟩
  · intro voice rates next
    have step := step_advance (after history) voice rates
    have falls (other : ¬ (after history).Attacks voice) :
        next.level ≤ (after history).level ∧ next.bar ≤ (after history).bar := by
      obtain ⟨phase, level⟩ := step.falls_of_not_attacks other
      have bar := bar_le_of_level_le (sound_after history).bounded phase level
      exact ⟨UInt16.le_iff_toNat_le.mpr level, UInt8.le_iff_toNat_le.mpr bar⟩
    refine ⟨fun louder => ?_, falls, step.min_target_le⟩
    have attacks : (after history).Attacks voice := by
      by_contra other
      obtain ⟨level, bar⟩ := falls other
      rcases louder with risen | shown
      · exact UInt16.not_lt.mpr level risen
      · exact UInt8.not_lt.mpr bar shown
    exact ⟨attacks, step.outcome_of_attacks attacks⟩
  · intro holds
    obtain ⟨phase', level⟩ := foldl_undergo_of_holds phase holds
    rw [after_append]
    exact ⟨phase', UInt16.le_iff_toNat_le.mpr level⟩

def pluckedTone : Voice :=
  .load { Segment.base with attackDecay := 0x00, sustainRelease := 0x40 }

theorem louder_only_by_attack_plucked :
    let plucked := [.advance pluckedTone .standard, .advance pluckedTone .standard]
    let louder := { pluckedTone with sustainRelease := 0xF0 }
    (after plucked).phase = .decay ∧ (after plucked).level = 5888 ∧
      (after (plucked ++ [.advance louder .standard])).phase = .decay ∧
      (after (plucked ++ [.advance louder .standard])).level ≤ (after plucked).level ∧
      (after (plucked ++ [.forceRelease])).StartsAttack true ∧
      ∃ stimulus ∈ [Stimulus.forceRelease], ¬ stimulus.Holds := by
  intro plucked louder
  have phase : (after plucked).phase = .decay := by decide +kernel
  have later := (louder_only_by_attack plucked).2 phase
  have holds : ∀ stimulus ∈ [Stimulus.advance louder .standard], stimulus.Holds := by
    simp [Stimulus.Holds, louder, pluckedTone, Voice.load]
    decide
  have starts : (after (plucked ++ [.forceRelease])).StartsAttack true := by
    rw [startsAttack_iff, after_concat]
    exact ⟨rfl, rfl⟩
  obtain ⟨stays, falls⟩ := (later [.advance louder .standard]).2 holds
  exact ⟨phase, by decide +kernel, stays, falls, starts, (later [.forceRelease]).1 true starts⟩

end SoundEffect.Envelope
