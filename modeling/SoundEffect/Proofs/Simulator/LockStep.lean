import SoundEffect.Proofs.Interpreter.Gate
import SoundEffect.Proofs.Simulator.Substeps

namespace SoundEffect.Simulator

variable {now : Simulator}

def InStep (now : Simulator) : Prop :=
  now.interpreter.state = .playing ↔ now.envelope.phase.excited = true

theorem substep_succ_excited (now : Simulator) (k : Nat) :
    (now.substep (k + 1)).phase.excited = now.upcomingVoice.control.gate := by
  rw [substep_succ, Envelope.advance_excited]

theorem gate_iterate_iff (simulator : Simulator) (program : Program) {t : Nat}
    (executed : t ≤ simulator.config.maxTicks) :
    (tick^[t] (simulator.reset program)).interpreter.voice.control.gate = true ↔
      (tick^[t] (simulator.reset program)).interpreter.state = .playing := by
  obtain ⟨-, -, -, interpreter⟩ :=
    iterate_tick_start simulator.config program.segments executed
  rw [reset, interpreter]
  exact Interpreter.gate_after_iff program.segments t

theorem inStep_iterate (simulator : Simulator) (program : Program) {t : Nat}
    (executed : t ≤ simulator.config.maxTicks) :
    InStep (tick^[t] (simulator.reset program)) := by
  rw [InStep, ← gate_iterate_iff simulator program executed]
  cases t with
  | zero => simp [reset, start, Interpreter.initial, Voice.silent, Envelope.silent]
  | succ t =>
      have step := tick_of_unfinished (unfinished_iterate simulator program executed)
      simp only [Function.iterate_succ_apply', step, substeps, substep_succ_excited]
      rfl

end SoundEffect.Simulator
