import Mathlib.Logic.Function.Iterate
import SoundEffect.Proofs.Envelope.Levels
import SoundEffect.Proofs.Interpreter.Settling
import SoundEffect.Simulator

namespace SoundEffect.Simulator

variable (now : Simulator)

def upcomingVoice : Voice :=
  (now.interpreter.tick now.segments).1.voice

def upcomingSignal : EnvelopeSignal :=
  (now.interpreter.tick now.segments).2

def substep : Nat → Envelope
  | 0 =>
      match now.upcomingSignal with
      | .forceRelease => now.envelope.forceRelease
      | .plain => now.envelope
  | k + 1 => (substep k).advance now.upcomingVoice ⟨now.config.tickLength⟩

theorem substep_succ (k : Nat) :
    now.substep (k + 1) = (now.substep k).advance now.upcomingVoice ⟨now.config.tickLength⟩ := rfl

theorem advances_substep (k n : Nat) :
    advances now.upcomingVoice ⟨now.config.tickLength⟩ n (now.substep k) =
      (List.range n).map fun j => now.substep (k + j + 1) := by
  induction n generalizing k with
  | zero => rfl
  | succ n ih =>
      have shift (j : Nat) : now.substep (k + 1 + j + 1) = now.substep (k + (j + 1) + 1) := by
        rw [Nat.add_right_comm k 1 j, Nat.add_assoc k j 1]
      rw [advances, List.range_succ_eq_map, List.map_cons, List.map_map, ← substep_succ, ih]
      simp only [shift, Nat.add_zero, Function.comp_def, Nat.succ_eq_add_one]

variable {now}

theorem tick_of_finished (h : now.isFinished = true) : now.tick = now := by
  rw [tick, if_pos h]

theorem tick_of_unfinished (h : now.isFinished = false) :
    now.tick =
      { now with
        interpreter := (now.interpreter.tick now.segments).1
        envelope := now.substep substeps
        ticks := now.ticks + 1
        samples := (List.range substeps).map fun k =>
          ⟨(now.substep (k + 1)).bar, Curves.frequencyBar now.upcomingVoice.frequency⟩ } := by
  have envelopes := advances_substep now 0 substeps
  have last :
      ((List.range substeps).map fun j => now.substep (0 + j + 1)).getLastD (now.substep 0) =
        now.substep substeps := by
    simp [substeps, List.range_succ]
  rw [tick, if_neg (by simp [h])]
  change ({ now with
    interpreter := _
    envelope := (advances now.upcomingVoice _ substeps (now.substep 0)).getLastD (now.substep 0)
    ticks := _
    samples := (advances now.upcomingVoice _ substeps (now.substep 0)).map _ } : Simulator) = _
  rw [envelopes, last, List.map_map]
  simp only [Nat.zero_add]
  rfl

@[simp] theorem tick_config (now : Simulator) : now.tick.config = now.config := by
  cases h : now.isFinished
  · rw [tick_of_unfinished h]
  · rw [tick_of_finished h]

theorem isFinished_eq_false_iff : now.isFinished = false ↔ now.ticks < now.config.maxTicks := by
  simp [isFinished]

theorem iterate_tick_start (config : Config) (segments : List Segment) {t : Nat}
    (bounded : t ≤ config.maxTicks) :
    let now := tick^[t] (start config segments)
    now.config = config ∧ now.segments = segments ∧ now.ticks = t ∧
      now.interpreter = Interpreter.after segments t := by
  induction t with
  | zero => exact ⟨rfl, rfl, rfl, rfl⟩
  | succ t ih =>
      obtain ⟨config', segments', ticks, interpreter⟩ := ih (Nat.le_of_succ_le bounded)
      have unfinished : (tick^[t] (start config segments)).isFinished = false := by
        rw [isFinished_eq_false_iff, config', ticks]
        exact bounded
      rw [Function.iterate_succ_apply', tick_of_unfinished unfinished]
      exact ⟨config', segments', by simp only [ticks], by
        simp only [Interpreter.after_succ, interpreter, segments']⟩

theorem unfinished_iterate (simulator : Simulator) (program : Program) {t : Nat}
    (executed : t < simulator.config.maxTicks) :
    (tick^[t] (simulator.reset program)).isFinished = false := by
  obtain ⟨config, -, ticks, -⟩ :=
    iterate_tick_start simulator.config program.segments (Nat.le_of_lt executed)
  rw [isFinished_eq_false_iff, reset, config, ticks]
  exact executed

end SoundEffect.Simulator
