import SoundEffect.Proofs.Preview.Picture
import SoundEffect.Proofs.Simulator.Horizon
import SoundEffect.Proofs.Trace.Reading

namespace SoundEffect

namespace Simulator

variable {now : Simulator} {later later' : List Simulator}

inductive RunsOut : Simulator → List Simulator → Prop
  | finished {now : Simulator} : now.isFinished = true → RunsOut now []
  | tick {now : Simulator} {later : List Simulator} :
      now.isFinished = false → RunsOut now.tick later → RunsOut now (now.tick :: later)

theorem RunsOut.unique (h : RunsOut now later) (h' : RunsOut now later') : later = later' := by
  -- whether the loop goes on is the same question in both
  induction h generalizing later' with
  | finished done =>
      cases h' with
      | finished => rfl
      | tick unfinished => rw [done] at unfinished; cases unfinished
  | tick unfinished _ ih =>
      cases h' with
      | finished done => rw [done] at unfinished; cases unfinished
      | tick _ rest => exact congrArg _ (ih rest)

theorem runsOut_run {n : Nat} (left : now.ticks + n = now.config.maxTicks) :
    RunsOut now (now.run n) := by
  -- each tick counts one up, and the bound stays, so one less is left
  induction n generalizing now with
  | zero => exact .finished (decide_eq_true (Nat.le_of_eq left.symm))
  | succ n ih =>
      have unfinished : now.isFinished = false := isFinished_eq_false_iff.mpr (by omega)
      have ticks : now.tick.ticks = now.ticks + 1 := by rw [tick_of_unfinished unfinished]
      refine .tick unfinished (ih ?_)
      rw [ticks, tick_config]
      omega

theorem runsOut_iff (config : Config) (program : Program) :
    RunsOut ((new config).reset program) later ↔
      later = (List.range config.maxTicks).map fun t => after config program (t + 1) := by
  have ran : RunsOut ((new config).reset program)
      (((new config).reset program).run config.maxTicks) :=
    runsOut_run (Nat.zero_add config.maxTicks)
  rw [run_eq_map] at ran
  constructor
  · exact fun h => h.unique ran
  · rintro rfl
    exact ran

end Simulator

namespace Program

open Simulator (RunsOut after)
open TickTrace (Plain columnNames)

variable {program : Program} {config : Config}

structure Traced (program : Program) (config : Config) (text : List Char) : Prop where
  ends : ∀ moments, RunsOut ((Simulator.new config).reset program) moments ↔
    moments = (List.range (2 * config.columns)).map fun t => after config program (t + 1)
  lines : ∃ lines, text = lines.flatMap Text.ended ∧ Text.lines? text = some lines ∧
    lines.length = 2 * config.columns + 1 ∧ lines[0]? = some (TickTrace.row columnNames) ∧
    ∀ k, 1 ≤ k → k ≤ 2 * config.columns →
      lines[k]? = some (TickTrace.row (after config program k).trace.columns)
  counted : ∀ k ≤ 2 * config.columns, (after config program k).trace.tick = k
  plain : (∀ cell ∈ columnNames, Plain cell) ∧ columnNames.length = 10 ∧
    ∀ k, (∀ cell ∈ (after config program k).trace.columns, Plain cell) ∧
      (after config program k).trace.columns.length = 10
  readBack : TickTrace.read? text =
    some ((List.range (2 * config.columns)).map fun t => (after config program (t + 1)).trace)

theorem getElem?_table {k : Nat} (first : 1 ≤ k) (executed : k ≤ config.maxTicks) :
    (TickTrace.table (program.traces config))[k]? =
      some (TickTrace.row (after config program k).trace.columns) := by
  obtain ⟨t, rfl⟩ := Nat.exists_eq_add_of_le' first
  have listed : (List.range config.maxTicks)[t]? = some t := List.getElem?_range executed
  rw [TickTrace.table, List.getElem?_cons_succ, traces_eq_map, List.map_map, List.getElem?_map,
    listed]
  rfl

theorem traced_table (valid : config.validate = .ok ()) :
    Traced program config ((TickTrace.table (program.traces config)).flatMap Text.ended) := by
  have bound := Config.maxTicks_of_validate valid
  constructor
  case ends =>
    intro moments
    rw [← bound]
    exact Simulator.runsOut_iff config program
  case lines =>
    refine ⟨TickTrace.table (program.traces config), rfl, TickTrace.lines?_table _, ?_, rfl, ?_⟩
    · rw [TickTrace.table, List.length_cons, List.length_map, traces_eq_map, List.length_map,
        List.length_range, bound]
    · rw [← bound]
      exact fun k => getElem?_table
  case counted =>
    rw [← bound]
    exact fun k executed => (Simulator.after_within program executed).2.2.1
  case plain =>
    exact ⟨TickTrace.plain_columnNames, rfl,
      fun k => ⟨TickTrace.plain_columns (after config program k).trace, rfl⟩⟩
  case readBack => rw [TickTrace.read?_table, traces_eq_map, bound]

theorem traceCsv_complete (program : Program) (config : Config) :
    (∀ fault, config.validate = .error fault → program.traceCsv config = .error fault) ∧
      (config.validate = .ok () →
        ∃ text, program.traceCsv config = .ok (2 * config.columns, text) ∧
          Traced program config text) := by
  constructor
  · intro fault invalid
    rw [traceCsv, invalid]
  · intro valid
    have rows : (program.traces config).length = 2 * config.columns := by
      rw [traces_eq_map, List.length_map, List.length_range, Config.maxTicks_of_validate valid]
    refine ⟨_, ?_, traced_table valid⟩
    rw [traceCsv_of_valid program valid, rows, TickTrace.line_append_eq_table]

theorem traceCsv_complete_short :
    (⟨0, 20, 1, .textured⟩ : Config).validate = .error (.columns 0) ∧
      Program.base.traceCsv ⟨0, 20, 1, .textured⟩ = .error (.columns 0) ∧
      (⟨3, 20, 1, .textured⟩ : Config).validate = .ok () ∧
      ∃ text, Program.base.traceCsv ⟨3, 20, 1, .textured⟩ = .ok (6, text) ∧
        Traced .base ⟨3, 20, 1, .textured⟩ text := by
  have invalid : (⟨0, 20, 1, .textured⟩ : Config).validate = .error (.columns 0) := by decide
  have valid : (⟨3, 20, 1, .textured⟩ : Config).validate = .ok () := by decide
  exact ⟨invalid, (traceCsv_complete .base _).1 _ invalid, valid,
    (traceCsv_complete .base _).2 valid⟩

end Program

end SoundEffect
