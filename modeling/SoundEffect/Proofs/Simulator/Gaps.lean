import SoundEffect.Proofs.Interpreter.Clearing
import SoundEffect.Proofs.Simulator.LockStep
import SoundEffect.Proofs.Simulator.Resting

namespace SoundEffect.Simulator

open Interpreter (Cleared)

variable {config : Config} {program : Program} {now : Simulator} {t : Nat}

structure Stilled (now : Simulator) : Prop where
  phase : now.envelope.phase = .off
  level : now.envelope.level = 0
  bar : now.trace.envelopeBar = 0

def withEnvelope (now : Simulator) (envelope : Envelope) : Simulator :=
  { now with envelope := envelope }

theorem stilled_start (config : Config) (segments : List Segment) :
    (start config segments).Stilled :=
  ⟨rfl, rfl, rfl⟩

theorem bar_trace_tick (unfinished : now.isFinished = false) :
    now.tick.trace.envelopeBar = now.tick.envelope.bar := by
  rw [tick_of_unfinished unfinished]
  simp [trace, sample, substeps, List.range_succ]

theorem stilled_tick (unfinished : now.isFinished = false)
    (silent : now.substep substeps = .silent) : now.tick.Stilled := by
  have envelope : now.tick.envelope = .silent := by
    rw [tick_of_unfinished unfinished]
    exact silent
  have bar : now.tick.trace.envelopeBar = 0 := by
    rw [bar_trace_tick unfinished, envelope, Envelope.bar_silent]
  exact ⟨congrArg Envelope.phase envelope, congrArg Envelope.level envelope, bar⟩

theorem stilled_tick_of_resting (long : 7 ≤ config.tickLength.toNat)
    (executed : t < config.maxTicks)
    (resting : (Interpreter.after program.segments (t + 1)).state = .ready ∨
      (Interpreter.after program.segments (t + 1)).state = .idle)
    {envelope : Envelope} (quiet : envelope.Quiet) (bounded : envelope.level ≤ levelMax) :
    ((after config program t).withEnvelope envelope).tick.Stilled := by
  obtain ⟨-, control, -, sustainRelease, -⟩ :=
    (Interpreter.tuned_after program.segments (Nat.le_add_left 1 t)).resting resting
  have configured := (after_within program (Nat.le_of_lt executed)).1
  have voice := upcomingVoice_after program (Nat.le_of_lt executed)
  apply stilled_tick
  · exact unfinished_iterate (new config) program executed
  · apply substep_eq_silent
    · change 7 ≤ (after config program t).config.tickLength.toNat
      rwa [configured]
    · exact quiet
    · exact bounded
    · exact (congrArg Voice.control voice).trans control
    · exact (congrArg Voice.sustainRelease voice).trans sustainRelease

theorem stilled_after_of_resting (long : 7 ≤ config.tickLength.toNat)
    (resting : (after config program t).interpreter.state = .ready ∨
      (after config program t).interpreter.state = .idle) :
    (after config program t).Stilled := by
  have bounded := Nat.min_le_right t config.maxTicks
  rw [after_min] at resting ⊢
  rw [interpreter_after program bounded] at resting
  cases executed : min t config.maxTicks with
  | zero => exact stilled_start config program.segments
  | succ u =>
      rw [executed] at bounded resting
      have level : (after config program u).envelope.level.toNat ≤ levelMax.toNat :=
        level_iterate_le config program.segments u
      rw [after_succ]
      exact stilled_tick_of_resting long bounded resting
        (quiet_after program (Nat.le_of_succ_le bounded)) (UInt16.le_iff_toNat_le.mpr level)

theorem gap_cleared_and_stilled (program : Program) :
    (∀ t, (Interpreter.after program.segments t).state = .waiting →
        (Interpreter.after program.segments (t + 1)).state ≠ .playing) ∧
      (∀ t w, (Interpreter.after program.segments t).state = .waiting → t < w →
        (∀ u, t < u → u < w → (Interpreter.after program.segments u).state ≠ .playing) →
        (Interpreter.after program.segments w).state = .playing →
        Cleared (Interpreter.after program.segments (w - 1))) ∧
      (∀ i segment w, program.segments[i]? = some segment → segment.endsReleased = true →
        i < (Interpreter.after program.segments w).position →
        (Interpreter.after program.segments w).state = .playing →
        ∃ v, Timeline.endTick program.segments i ≤ v ∧ v < w ∧
          Cleared (Interpreter.after program.segments v)) ∧
      (7 ≤ Config.pal.tickLength.toNat ∧ 7 ≤ Config.pico8.tickLength.toNat) ∧
      ∀ config : Config, 7 ≤ config.tickLength.toNat → ∀ t,
        ((after config program t).interpreter.state = .ready ∨
            (after config program t).interpreter.state = .idle →
          (after config program t).Stilled) ∧
          (t < config.maxTicks →
            (Interpreter.after program.segments (t + 1)).state = .ready ∨
              (Interpreter.after program.segments (t + 1)).state = .idle →
            ∀ envelope : Envelope, envelope.Quiet → envelope.level ≤ levelMax →
              ((after config program t).withEnvelope envelope).tick.Stilled) := by
  refine ⟨fun t => Interpreter.not_playing_of_waiting, ?_, ?_, by decide, ?_⟩
  · intro t w waiting later unplayed playing
    obtain ⟨v, rfl⟩ := Nat.exists_eq_add_of_le' (Nat.lt_of_le_of_lt (Nat.zero_le t) later)
    have started : 1 ≤ t := by
      rcases Nat.eq_zero_or_pos t with rfl | positive
      · cases waiting
      · exact positive
    have reached : t ≤ v := Nat.le_of_lt_succ later
    rw [Nat.add_sub_cancel]
    apply Interpreter.cleared_before_playing playing (Nat.le_trans started reached)
    rcases Nat.lt_or_eq_of_le reached with between | rfl
    · exact unplayed v between (Nat.lt_succ_self v)
    · rw [waiting]
      exact nofun
  · intro i segment w here released before playing
    exact Interpreter.exists_cleared here released before playing
  · intro config long t
    refine ⟨stilled_after_of_resting long, ?_⟩
    intro executed resting envelope quiet bounded
    exact stilled_tick_of_resting long executed resting quiet bounded

def pluckedThenHeld : Program :=
  ⟨[{ Segment.base with gateTicks := 2, releaseTicks := 2 }, .base]⟩

theorem gap_cleared_and_stilled_pluckedThenHeld :
    (Interpreter.after pluckedThenHeld.segments 3).state = .waiting ∧
      (Interpreter.after pluckedThenHeld.segments 5).state = .playing ∧
      Cleared (Interpreter.after pluckedThenHeld.segments 4) ∧
      (∃ v, Timeline.endTick pluckedThenHeld.segments 0 ≤ v ∧ v < 5 ∧
        Cleared (Interpreter.after pluckedThenHeld.segments v)) ∧
      (after .pal pluckedThenHeld 3).envelope = ⟨.release, 6272⟩ ∧
      (after .pal pluckedThenHeld 4).Stilled ∧
      ((after .pico8 pluckedThenHeld 3).withEnvelope ⟨.attack, levelMax⟩).tick.Stilled ∧
      (after .pal pluckedThenHeld 9).interpreter.state = .ready ∧
      (after .pal pluckedThenHeld 10).Stilled := by
  obtain ⟨unbridged, cleared, separated, ⟨pal, pico8⟩, stilled⟩ :=
    gap_cleared_and_stilled pluckedThenHeld
  have waiting : (Interpreter.after pluckedThenHeld.segments 3).state = .waiting := by
    decide +kernel
  have playing : (Interpreter.after pluckedThenHeld.segments 5).state = .playing := by
    decide +kernel
  have resting : (Interpreter.after pluckedThenHeld.segments 4).state = .ready := by
    decide +kernel
  have between : ∀ u, 3 < u → u < 5 →
      (Interpreter.after pluckedThenHeld.segments u).state ≠ .playing := by
    intro u late early
    obtain rfl : u = 4 := by omega
    exact unbridged 3 waiting
  refine ⟨waiting, playing, cleared 3 5 waiting (by decide) between playing,
    separated 0 _ 5 rfl (by decide) (by decide +kernel) playing, by decide +kernel,
    (stilled .pal pal 4).1 (.inl (by decide +kernel)), ?_, by decide +kernel,
    (stilled .pal pal 10).1 (.inr (by decide +kernel))⟩
  exact (stilled .pico8 pico8 3).2 (by decide) (.inl resting) _
    (Envelope.quiet_of_excited rfl) (by decide)

end SoundEffect.Simulator
