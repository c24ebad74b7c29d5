import SoundEffect.Proofs.Interpreter.Gate

namespace SoundEffect

theorem ofInt_toInt (step : Int16) : UInt16.ofInt step.toInt = step.toUInt16 := by
  have bounded := step.toBitVec.isLt
  have same : step.toUInt16.toNat = step.toBitVec.toNat := rfl
  apply UInt16.toNat_inj.mp
  rw [UInt16.ofInt, UInt16.toNat_ofNat', same, ← Int16.toInt_toBitVec, BitVec.toInt_eq_toNat_cond]
  split <;> omega

theorem ofInt_toNat (register : UInt16) : UInt16.ofInt register.toNat = register := by
  have bounded := register.toNat_lt
  apply UInt16.toNat_inj.mp
  rw [UInt16.ofInt, UInt16.toNat_ofNat']
  omega

def drifted (base : UInt16) (step : Int16) (steps : Nat) : UInt16 :=
  UInt16.ofInt (base.toNat + steps * step.toInt)

theorem drifted_zero (base : UInt16) (step : Int16) : drifted base step 0 = base := by
  simp [drifted, ofInt_toNat]

theorem drifted_succ (base : UInt16) (step : Int16) (steps : Nat) :
    drifted base step (steps + 1) = drifted base step steps + step.toUInt16 := by
  have sum : (base.toNat : Int) + ((steps + 1 : Nat) : Int) * step.toInt =
      (base.toNat + steps * step.toInt) + step.toInt := by
    push_cast
    rw [Int.add_mul, Int.one_mul, Int.add_assoc]
  rw [drifted, sum, UInt16.ofInt_add, ofInt_toInt, drifted]

namespace Segment

def sounding (segment : Segment) (control : Control) (steps : Nat) : Voice where
  control := control
  attackDecay := segment.attackDecay
  sustainRelease := segment.sustainRelease
  frequency := drifted segment.frequency segment.freqGlide steps
  pulseWidth := drifted segment.pulseWidth segment.pulseGlide steps

theorem load_eq_sounding (segment : Segment) :
    Voice.load segment = segment.sounding segment.control 0 := by
  simp [Voice.load, sounding, drifted_zero]

theorem glide_sounding (segment : Segment) (control : Control) (steps : Nat) :
    (segment.sounding control steps).glide segment = segment.sounding control (steps + 1) := by
  simp [Voice.glide, sounding, drifted_succ]

/-- The gate and the release are each a window whose last tick has no glide. -/
def glideSteps (segment : Segment) : Nat :=
  if segment.gated then (segment.gateTicks.toNat - 1) + (segment.releaseTicks.toNat - 2)
  else segment.releaseTicks.toNat - 1

end Segment

namespace Interpreter

def Trails (segments : List Segment) (position : Nat) (voice : Voice) : Prop :=
  match position with
  | 0 => voice.frequency = 0 ∧ voice.pulseWidth = 0
  | p + 1 => ∃ segment, segments[p]? = some segment ∧
      voice.frequency = drifted segment.frequency segment.freqGlide segment.glideSteps ∧
      voice.pulseWidth = drifted segment.pulseWidth segment.pulseGlide segment.glideSteps

/-- The voice between the transitions of a tick as well as after it. A window that has run out is
one with a single tick left: neither glides. -/
inductive Tuning (segments : List Segment) (now : Interpreter) : Prop
  | playing {segment} (state : now.state = .playing)
      (here : segments[now.position]? = some segment) (gated : segment.gated = true)
      (bounded : now.delay.toNat ≤ segment.gateTicks.toNat)
      (voice : now.voice =
        segment.sounding segment.control (segment.gateTicks.toNat - max now.delay.toNat 1))
  | releasing {segment} (state : now.state = .waiting)
      (here : segments[now.position]? = some segment) (gated : segment.gated = true)
      (bounded : now.delay.toNat ≤ segment.releaseTicks.toNat - 1)
      (voice : now.voice =
        segment.sounding (segment.control.lower .gate)
          ((segment.gateTicks.toNat - 1) +
            (segment.releaseTicks.toNat - 1 - max now.delay.toNat 1)))
  | waiting {segment} (state : now.state = .waiting)
      (here : segments[now.position]? = some segment) (ungated : segment.gated = false)
      (bounded : now.delay.toNat ≤ segment.releaseTicks.toNat)
      (voice : now.voice =
        segment.sounding segment.control (segment.releaseTicks.toNat - max now.delay.toNat 1))
  | passing (state : now.state = .resetZero ∨
        now.state = .ready ∧ now.delay = 0 ∧ now.position < segments.length)
      (trails : Trails segments now.position now.voice)
  | cleared (state : now.state = .ready ∨ now.state = .idle)
      (silent : now.voice.cleared = now.voice)
      (trails : Trails segments now.position now.voice)

variable {segments : List Segment} {now next : Interpreter} {signal : EnvelopeSignal} {t : Nat}

theorem Tuning.of_playing (h : Tuning segments now) (state : now.state = .playing) :
    ∃ segment, segments[now.position]? = some segment ∧ segment.gated = true ∧
      now.delay.toNat ≤ segment.gateTicks.toNat ∧
      now.voice =
        segment.sounding segment.control (segment.gateTicks.toNat - max now.delay.toNat 1) := by
  cases h <;> simp_all

theorem Tuning.of_waiting (h : Tuning segments now) (state : now.state = .waiting) :
    ∃ segment, segments[now.position]? = some segment ∧
      (segment.gated = true ∧ now.delay.toNat ≤ segment.releaseTicks.toNat - 1 ∧
          now.voice =
            segment.sounding (segment.control.lower .gate)
              ((segment.gateTicks.toNat - 1) +
                (segment.releaseTicks.toNat - 1 - max now.delay.toNat 1)) ∨
        segment.gated = false ∧ now.delay.toNat ≤ segment.releaseTicks.toNat ∧
          now.voice =
            segment.sounding segment.control
              (segment.releaseTicks.toNat - max now.delay.toNat 1)) := by
  cases h <;> simp_all

theorem Tuning.of_resetZero (h : Tuning segments now) (state : now.state = .resetZero) :
    Trails segments now.position now.voice := by
  cases h <;> simp_all

theorem Tuning.of_ready (h : Tuning segments now) (state : now.state = .ready) :
    (now.delay = 0 ∧ now.position < segments.length ∨ now.voice.cleared = now.voice) ∧
      Trails segments now.position now.voice := by
  cases h <;> simp_all

theorem Tuning.of_idle (h : Tuning segments now) (state : now.state = .idle) :
    now.voice.cleared = now.voice ∧ Trails segments now.position now.voice := by
  cases h <;> simp_all

theorem Trails.of_sounding {segment : Segment} {control : Control} {steps : Nat}
    (here : segments[now.position]? = some segment)
    (voice : now.voice = segment.sounding control steps) (last : steps = segment.glideSteps) :
    Trails segments (now.position + 1) now.voice := by
  subst last
  exact ⟨segment, here, by rw [voice]; rfl, by rw [voice]; rfl⟩

theorem Trails.cleared {position : Nat} {voice : Voice} (h : Trails segments position voice) :
    Trails segments position voice.cleared := by
  cases position with
  | zero => exact h
  | succ p => exact h

theorem Tuning.trails_of_held {segment : Segment} (h : Tuning segments now)
    (settling : now.delay = 0) (state : now.state = .playing)
    (here : segments[now.position]? = some segment) (held : segment.releaseTicks = 0) :
    Trails segments (now.position + 1) now.voice := by
  obtain ⟨other, here', gated, -, voice⟩ := h.of_playing state
  obtain rfl := Option.some.inj (here.symm.trans here')
  apply Trails.of_sounding here voice
  simp [settling, Segment.glideSteps, gated, held]

theorem Tuning.trails_of_released (h : Tuning segments now) (settling : now.delay = 0)
    (state : now.state = .waiting) : Trails segments (now.position + 1) now.voice := by
  obtain ⟨segment, here, ⟨gated, -, voice⟩ | ⟨ungated, -, voice⟩⟩ := h.of_waiting state
  · apply Trails.of_sounding here voice
    simp only [settling, Segment.glideSteps, gated, if_true]
    rfl
  · apply Trails.of_sounding here voice
    simp [settling, Segment.glideSteps, ungated]

theorem Tuning.step (settling : now.delay = 0) (step : Step segments now next signal)
    (h : Tuning segments now) : Tuning segments next := by
  cases step with
  | rest state =>
      obtain ⟨silent, trails⟩ := h.of_idle state
      exact .cleared (.inr rfl) silent trails
  | clear state => exact .cleared (.inl rfl) rfl (h.of_resetZero state).cleared
  | @loadGated segment state here gated =>
      have unmoved : segment.gateTicks.toNat - max segment.gateTicks.toNat 1 = 0 := by omega
      refine .playing rfl here gated (Nat.le_refl _) ?_
      simp only [unmoved, Segment.load_eq_sounding]
  | @loadUngated segment state here ungated =>
      have unmoved : segment.releaseTicks.toNat - max segment.releaseTicks.toNat 1 = 0 := by omega
      refine .waiting rfl here ungated (Nat.le_refl _) ?_
      simp only [unmoved, Segment.load_eq_sounding]
  | finish state past =>
      obtain ⟨inside | silent, trails⟩ := h.of_ready state
      · exact absurd (List.getElem?_eq_none_iff.mp past) (Nat.not_le.mpr inside.2)
      · exact .cleared (.inr rfl) silent trails
  | @release segment state here releases =>
      obtain ⟨other, here', gated, -, voice⟩ := h.of_playing state
      obtain rfl := Option.some.inj (here.symm.trans here')
      have window := toNat_sub_one releases
      -- The window of the gate has run out, and the one of the release is still whole.
      have same : segment.gateTicks.toNat - max now.delay.toNat 1 =
          (segment.gateTicks.toNat - 1) +
            (segment.releaseTicks.toNat - 1 - max (segment.releaseTicks - 1).toNat 1) := by
        have spent : now.delay.toNat = 0 := by rw [settling]; rfl
        omega
      refine .releasing rfl here gated (Nat.le_of_eq window) ?_
      rw [voice, same]
      rfl
  | handOver state here held next =>
      have inside := (List.getElem?_eq_some_iff.mp next).1
      exact .passing (.inr ⟨rfl, settling, inside⟩) (h.trails_of_held settling state here held)
  | finishHeld state here held past =>
      exact .passing (.inl rfl) (h.trails_of_held settling state here held)
  | lost state past =>
      obtain ⟨segment, here, -⟩ := h.of_playing state
      exact absurd here (by simp [past])
  | separate state next gated =>
      exact .passing (.inl rfl) (h.trails_of_released settling state)
  | resume state next ungated =>
      have inside := (List.getElem?_eq_some_iff.mp next).1
      exact .passing (.inr ⟨rfl, settling, inside⟩) (h.trails_of_released settling state)
  | finishReleased state past =>
      exact .passing (.inl rfl) (h.trails_of_released settling state)

theorem countDown_voice_of_last (last : now.delay.toNat ≤ 1) :
    (now.countDown segments).voice = now.voice := by
  have spent : (if now.delay = 0 then 0 else now.delay - 1) = 0 := by
    split
    · rfl
    · rename_i pending
      apply UInt8.toNat_inj.mp
      rw [toNat_sub_one pending]
      simp
      omega
  simp only [countDown, spent]
  split <;> simp

theorem countDown_voice_of_pending {segment : Segment}
    (here : segments[now.position]? = some segment) (pending : 1 < now.delay.toNat) :
    (now.countDown segments).voice = now.voice.glide segment := by
  have started : now.delay ≠ 0 := fun none => by simp [none] at pending
  have left : now.delay - 1 ≠ 0 := by
    intro none
    have := toNat_sub_one started
    simp [none] at this
    omega
  simp only [countDown, here, if_neg started, if_pos left]

theorem countDown_sounding {segment : Segment} {control : Control} (steps : Nat) {window : Nat}
    (here : segments[now.position]? = some segment) (bounded : now.delay.toNat ≤ window)
    (voice : now.voice =
      segment.sounding control (steps + (window - max now.delay.toNat 1))) :
    (now.countDown segments).voice =
      segment.sounding control
        (steps + (window - max (now.countDown segments).delay.toNat 1)) := by
  rw [toNat_countDown_delay]
  by_cases pending : 1 < now.delay.toNat
  · have one_more : steps + (window - max (now.delay.toNat - 1) 1) =
        steps + (window - max now.delay.toNat 1) + 1 := by omega
    rw [countDown_voice_of_pending here pending, voice, Segment.glide_sounding, one_more]
  · have unmoved : max (now.delay.toNat - 1) 1 = max now.delay.toNat 1 := by omega
    rw [countDown_voice_of_last (Nat.not_lt.mp pending), voice, unmoved]

theorem Tuning.countDown (settled : now.state ≠ .resetZero) (pending : 0 < now.delay.toNat)
    (short : now.state = .ready ∨ now.state = .idle → now.delay.toNat ≤ 1)
    (h : Tuning segments now) : Tuning segments (now.countDown segments) := by
  cases h with
  | playing state here gated bounded voice =>
      apply Tuning.playing (by simp [state]) (by simpa using here) gated (by simp; omega)
      simpa using countDown_sounding 0 here bounded (by simpa using voice)
  | releasing state here gated bounded voice =>
      apply Tuning.releasing (by simp [state]) (by simpa using here) gated (by simp; omega)
      exact countDown_sounding _ here bounded voice
  | waiting state here ungated bounded voice =>
      apply Tuning.waiting (by simp [state]) (by simpa using here) ungated (by simp; omega)
      simpa using countDown_sounding 0 here bounded (by simpa using voice)
  | passing state trails =>
      rcases state with resetting | ⟨-, spent, -⟩
      · exact absurd resetting settled
      · simp [spent] at pending
  | cleared state silent trails =>
      apply Tuning.cleared (by simpa using state)
      · rw [countDown_voice_of_last (short state), silent]
      · rw [countDown_voice_of_last (short state), countDown_position]
        exact trails

theorem delay_after_of_resting (segments : List Segment) (t : Nat)
    (resting : (after segments t).state = .ready ∨ (after segments t).state = .idle) :
    (after segments t).delay.toNat = 1 := by
  obtain ⟨h, pending⟩ := Timeline.scheduled_after segments t
  rcases resting with state | state
  · have := (h.of_ready state).2.2.2
    omega
  · have := (h.of_idle state).2.2
    omega

theorem tuning_after (segments : List Segment) (t : Nat) : Tuning segments (after segments t) := by
  induction t with
  | zero => exact .cleared (.inl rfl) rfl ⟨rfl, rfl⟩
  | succ t ih =>
      apply tick_invariant (fun _ _ _ settling step h => Tuning.step settling step h)
      apply ih.countDown (state_after_ne_resetZero segments t)
        (Timeline.scheduled_after segments t).2
      intro resting
      exact Nat.le_of_eq (delay_after_of_resting segments t resting)

theorem position_after_of_resting {segments : List Segment} {t : Nat} (started : 1 ≤ t)
    (resting : (after segments t).state = .ready ∨ (after segments t).state = .idle) :
    (after segments t).position = 0 ↔ segments = [] := by
  obtain ⟨h, pending⟩ := Timeline.scheduled_after segments t
  have one := delay_after_of_resting segments t resting
  rcases resting with state | state
  · obtain ⟨bounded, -, due, -⟩ := h.of_ready state
    constructor
    · intro first
      rw [first, Timeline.loadTick] at due
      omega
    · rintro rfl
      exact Nat.le_zero.mp bounded
  · rw [(h.of_idle state).1, List.length_eq_zero_iff]

structure Tuned (segments : List Segment) (now : Interpreter) (d : Nat) : Prop where
  state : now.state = .playing ∨ now.state = .waiting ∨ now.state = .ready ∨ now.state = .idle
  pending : 1 ≤ d
  playing : now.state = .playing →
    ∃ segment, segments[now.position]? = some segment ∧ segment.gated = true ∧
      d ≤ segment.gateTicks.toNat ∧
      now.voice = segment.sounding segment.control (segment.gateTicks.toNat - d)
  waiting : now.state = .waiting →
    ∃ segment, segments[now.position]? = some segment ∧
      (segment.gated = true ∧ d ≤ segment.releaseTicks.toNat - 1 ∧
          now.voice =
            segment.sounding (segment.control.lower .gate)
              ((segment.gateTicks.toNat - 1) + (segment.releaseTicks.toNat - 1 - d)) ∨
        segment.gated = false ∧ d ≤ segment.releaseTicks.toNat ∧
          now.voice = segment.sounding segment.control (segment.releaseTicks.toNat - d))
  resting : now.state = .ready ∨ now.state = .idle →
    d = 1 ∧ now.voice.control = .none ∧ now.voice.attackDecay = 0 ∧ now.voice.sustainRelease = 0 ∧
      Trails segments now.position now.voice ∧ (now.position = 0 ↔ segments = [])

theorem tuned_after (segments : List Segment) {t : Nat} (started : 1 ≤ t) :
    Tuned segments (after segments t) (after segments t).delay.toNat := by
  have h := tuning_after segments t
  have pending := (Timeline.scheduled_after segments t).2
  have window : max (after segments t).delay.toNat 1 = (after segments t).delay.toNat := by omega
  have settled := state_after_ne_resetZero segments t
  refine ⟨?_, pending, ?_, ?_, ?_⟩
  · cases state : (after segments t).state <;> simp_all
  · intro state
    simpa only [window] using h.of_playing state
  · intro state
    simpa only [window] using h.of_waiting state
  · intro resting
    have one := delay_after_of_resting segments t resting
    have position := position_after_of_resting started resting
    have quiet : (after segments t).voice.cleared = (after segments t).voice ∧
        Trails segments (after segments t).position (after segments t).voice := by
      rcases resting with state | state
      · obtain ⟨⟨spent, -⟩ | silent, trails⟩ := h.of_ready state
        · simp [spent] at pending
        · exact ⟨silent, trails⟩
      · exact h.of_idle state
    rw [← quiet.1]
    exact ⟨one, rfl, rfl, rfl, quiet.1 ▸ quiet.2, position⟩

theorem Trails.registers_eq {position : Nat} {voice other : Voice}
    (h : Trails segments position voice) (h' : Trails segments position other) :
    voice.frequency = other.frequency ∧ voice.pulseWidth = other.pulseWidth := by
  cases position with
  | zero => exact ⟨h.1.trans h'.1.symm, h.2.trans h'.2.symm⟩
  | succ p =>
      obtain ⟨segment, here, frequency, pulseWidth⟩ := h
      obtain ⟨segment', here', frequency', pulseWidth'⟩ := h'
      obtain rfl := Option.some.inj (here.symm.trans here')
      exact ⟨frequency.trans frequency'.symm, pulseWidth.trans pulseWidth'.symm⟩

theorem Tuned.voice_eq {other : Interpreter} {d : Nat} (h : Tuned segments now d)
    (h' : Tuned segments other d) (state : other.state = now.state)
    (position : other.position = now.position) : other.voice = now.voice := by
  rcases h.state with playing | waiting | resting
  · obtain ⟨segment, here, -, -, voice⟩ := h.playing playing
    obtain ⟨segment', here', -, -, voice'⟩ := h'.playing (state.trans playing)
    rw [position, here] at here'
    obtain rfl := Option.some.inj here'
    exact voice'.trans voice.symm
  · obtain ⟨segment, here, window⟩ := h.waiting waiting
    obtain ⟨segment', here', window'⟩ := h'.waiting (state.trans waiting)
    rw [position, here] at here'
    obtain rfl := Option.some.inj here'
    rcases window with ⟨gated, -, voice⟩ | ⟨ungated, -, voice⟩
    · rcases window' with ⟨-, -, voice'⟩ | ⟨ungated', -⟩
      · exact voice'.trans voice.symm
      · simp [gated] at ungated'
    · rcases window' with ⟨gated', -⟩ | ⟨-, -, voice'⟩
      · simp [ungated] at gated'
      · exact voice'.trans voice.symm
  · obtain ⟨-, control, attackDecay, sustainRelease, trails, -⟩ := h.resting resting
    obtain ⟨-, control', attackDecay', sustainRelease', trails', -⟩ :=
      h'.resting (state ▸ resting)
    rw [position] at trails'
    obtain ⟨frequency, pulseWidth⟩ := trails'.registers_eq trails
    generalize other.voice = reached at *
    generalize now.voice = first at *
    cases reached
    cases first
    simp_all

theorem after_voice_determined (segments : List Segment) (t : Nat) (started : 1 ≤ t) :
    Tuned segments (after segments t) (after segments t).delay.toNat ∧
      ∀ u, 1 ≤ u → (after segments u).state = (after segments t).state →
        (after segments u).position = (after segments t).position →
        (after segments u).delay = (after segments t).delay →
        (after segments u).voice = (after segments t).voice := by
  have h := tuned_after segments started
  refine ⟨h, ?_⟩
  intro u started' state position delay
  have h' := tuned_after segments started'
  rw [delay] at h'
  exact h.voice_eq h' state position

def risingTone : Segment :=
  { Segment.base with frequency := 65500, freqGlide := 30, gateTicks := 3, releaseTicks := 3 }

theorem after_voice_determined_risingTone :
    1 ≤ 5 ∧ Tuned [risingTone] (after [risingTone] 5) (after [risingTone] 5).delay.toNat ∧
      (after [risingTone] 5).state = .waiting ∧ (after [risingTone] 5).delay = 1 ∧
      (after [risingTone] 5).voice.frequency = 54 := by
  have started : 1 ≤ 5 := by decide
  have h := (after_voice_determined [risingTone] 5 started).1
  have state : (after [risingTone] 5).state = .waiting := by decide +kernel
  have delay : (after [risingTone] 5).delay = 1 := by decide +kernel
  have position : (after [risingTone] 5).position = 0 := by decide +kernel
  obtain ⟨segment, here, ⟨-, -, voice⟩ | ⟨ungated, -⟩⟩ := h.waiting state
  · rw [position] at here
    obtain rfl := Option.some.inj here
    refine ⟨started, h, state, delay, ?_⟩
    rw [voice, delay]
    decide
  · rw [position] at here
    obtain rfl := Option.some.inj here
    exact absurd ungated (by decide)

end Interpreter

end SoundEffect
