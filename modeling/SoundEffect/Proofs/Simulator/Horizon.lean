import SoundEffect.Proofs.Simulator.Alongside
import SoundEffect.Trace

namespace SoundEffect

namespace Simulator

variable {config wider : Config} {now : Simulator} {t : Nat}

def configured (now : Simulator) (config : Config) : Simulator :=
  { now with config := config }

@[simp] theorem samples_configured (now : Simulator) (config : Config) :
    (now.configured config).samples = now.samples := rfl

@[simp] theorem trace_configured (now : Simulator) (config : Config) :
    (now.configured config).trace = now.trace := rfl

theorem tick_configured (paced : wider.tickLength = now.config.tickLength)
    (unfinished : now.isFinished = false)
    (unfinished' : (now.configured wider).isFinished = false) :
    (now.configured wider).tick = now.tick.configured wider := by
  rw [tick, tick, unfinished, unfinished']
  simp only [configured, paced, Bool.false_eq_true, if_false]

theorem after_configured (paced : wider.tickLength = config.tickLength) (program : Program)
    (executed : t ≤ config.maxTicks) (executed' : t ≤ wider.maxTicks) :
    after wider program t = (after config program t).configured wider := by
  induction t with
  | zero => rfl
  | succ t ih =>
      have same := ih (Nat.le_of_succ_le executed) (Nat.le_of_succ_le executed')
      have paced' : wider.tickLength = (after config program t).config.tickLength := by
        rw [(after_within program (Nat.le_of_succ_le executed)).1, paced]
      have unfinished' : (after wider program t).isFinished = false :=
        unfinished_iterate (new wider) program executed'
      rw [same] at unfinished'
      rw [after_succ, after_succ, same]
      exact tick_configured paced' (unfinished_iterate (new config) program executed) unfinished'

theorem run_eq_map (n : Nat) (now : Simulator) :
    now.run n = (List.range n).map fun t => tick^[t + 1] now := by
  induction n generalizing now with
  | zero => rfl
  | succ n ih =>
      rw [run, ih, List.range_succ_eq_map, List.map_cons, List.map_map]
      rfl

end Simulator

namespace Program

open Simulator (after)

variable {config wider : Config}

theorem traces_eq_map (program : Program) (config : Config) :
    program.traces config =
      (List.range config.maxTicks).map fun t => (after config program (t + 1)).trace := by
  rw [traces, Simulator.run_eq_map, List.map_map]
  rfl

theorem take_traces (paced : wider.tickLength = config.tickLength)
    (within : config.maxTicks ≤ wider.maxTicks) (program : Program) :
    (program.traces wider).take config.maxTicks = program.traces config := by
  rw [traces_eq_map, traces_eq_map, ← List.map_take, List.take_range, Nat.min_eq_left within]
  apply List.map_congr_left
  intro t member
  have executed : t < config.maxTicks := List.mem_range.mp member
  rw [Simulator.after_configured paced program executed (Nat.lt_of_lt_of_le executed within),
    Simulator.trace_configured]

theorem traceCsv_of_valid (program : Program) (valid : config.validate = .ok ()) :
    program.traceCsv config =
      .ok ((program.traces config).length,
        TickTrace.line TickTrace.columnNames ++
          (program.traces config).flatMap fun row => TickTrace.line row.columns) := by
  rw [traceCsv, valid]

theorem traceCsv_prefix (paced : wider.tickLength = config.tickLength)
    (within : config.maxTicks ≤ wider.maxTicks) (program : Program)
    (valid : config.validate = .ok ()) (valid' : wider.validate = .ok ()) :
    ∃ rows text rows' text', program.traceCsv config = .ok (rows, text) ∧
      program.traceCsv wider = .ok (rows', text') ∧ text <+: text' := by
  obtain ⟨rest, continued⟩ : program.traces config <+: program.traces wider := by
    rw [← take_traces paced within program]
    exact List.take_prefix _ _
  refine ⟨_, _, _, _, program.traceCsv_of_valid valid, program.traceCsv_of_valid valid',
    (List.prefix_append_right_inj _).mpr ?_⟩
  rw [← continued, List.flatMap_append]
  exact List.prefix_append _ _

end Program

end SoundEffect
