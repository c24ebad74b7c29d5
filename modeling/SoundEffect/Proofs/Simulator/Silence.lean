import SoundEffect.Proofs.Interpreter.Loading
import SoundEffect.Proofs.Simulator.LockStep
import SoundEffect.Proofs.Simulator.Resting

namespace SoundEffect.Simulator

variable {config : Config} {program : Program} {t : Nat}

structure Hushed (now : Simulator) : Prop where
  phase : now.envelope.phase = .off
  level : now.envelope.level = 0
  samples : ∀ sample ∈ now.samples, sample.envelope = 0

theorem lowered_of_not_playing
    (state : (Interpreter.after program.segments t).state ≠ .playing) :
    (Interpreter.after program.segments t).voice.control.gate = false := by
  rw [← Bool.not_eq_true, Interpreter.gate_after_iff]
  exact state

theorem soundedBy_eq_silent (silent : (after config program t).envelope = .silent)
    (state : (Interpreter.after program.segments (t + 1)).state ≠ .playing) (k : Nat) :
    soundedBy config program t (k + 1) = .silent := by
  have quiet : Envelope.silent.Quiet := fun _ => rfl
  rw [soundedBy, silent]
  apply Envelope.iterate_advance_eq_silent (quiet.obey _) (lowered_of_not_playing state)
  rw [Envelope.level_obey]
  exact Nat.zero_le _

theorem envelope_after_of_unplayed (executed : t ≤ config.maxTicks)
    (unplayed : ∀ u, 1 ≤ u → u ≤ t → (Interpreter.after program.segments u).state ≠ .playing) :
    (after config program t).envelope = .silent := by
  induction t with
  | zero => rfl
  | succ t ih =>
      have earlier := ih (Nat.le_of_succ_le executed)
        fun u started early => unplayed u started (Nat.le_succ_of_le early)
      rw [(after_succ_of_executed program executed).1]
      exact soundedBy_eq_silent earlier (unplayed _ (Nat.le_add_left 1 t) (Nat.le_refl _)) _

theorem hushed_of_unplayed (executed : t ≤ config.maxTicks)
    (unplayed : ∀ u, 1 ≤ u → u ≤ t → (Interpreter.after program.segments u).state ≠ .playing) :
    Hushed (after config program t) := by
  have envelope := envelope_after_of_unplayed executed unplayed
  refine ⟨congrArg Envelope.phase envelope, congrArg Envelope.level envelope, ?_⟩
  intro sample member
  cases t with
  | zero => exact congrArg Sample.envelope (List.eq_of_mem_replicate member)
  | succ t =>
      have before := envelope_after_of_unplayed (Nat.le_of_succ_le executed)
        fun u started early => unplayed u started (Nat.le_succ_of_le early)
      rw [(after_succ_of_executed program executed).2] at member
      obtain ⟨k, -, rfl⟩ := List.mem_map.mp member
      simp only [soundedBy_eq_silent before (unplayed _ (Nat.le_add_left 1 t) (Nat.le_refl _)),
        Envelope.bar_silent]

theorem not_playing_of_hushed (executed : t ≤ config.maxTicks)
    (hushed : Hushed (after config program t)) :
    (Interpreter.after program.segments t).state ≠ .playing := by
  rw [← interpreter_after program executed]
  intro state
  have excited := (inStep_iterate (new config) program executed).mp state
  change (after config program t).envelope.phase.excited = true at excited
  simp [hushed.phase] at excited

theorem after_hushed_iff (config : Config) (program : Program) (executed : t ≤ config.maxTicks) :
    ((∀ u, 1 ≤ u → u ≤ t → Hushed (after config program u)) ↔
        ¬ ∃ i segment, program.segments[i]? = some segment ∧ segment.gated = true ∧
          1 ≤ segment.gateTicks.toNat ∧ Interpreter.Loaded program.segments t i) ∧
      (∀ i < program.segments.length,
        Interpreter.Loaded program.segments t i ↔ Timeline.loadTick program.segments i ≤ t) ∧
      ((∀ segment ∈ program.segments, segment.gated = true → segment.gateTicks = 0) →
        Hushed (after config program t)) := by
  refine ⟨?_, fun i inside => Interpreter.loaded_iff_loadTick_le inside t, fun unheld => ?_⟩
  · rw [← Interpreter.exists_playing_iff]
    constructor
    · rintro hushed ⟨u, started, early, state⟩
      exact not_playing_of_hushed (Nat.le_trans early executed) (hushed u started early) state
    · intro unplayed u _ early
      apply hushed_of_unplayed (Nat.le_trans early executed)
      intro v started earlier state
      exact unplayed ⟨v, started, Nat.le_trans earlier early, state⟩
  · apply hushed_of_unplayed executed
    intro u started early state
    obtain ⟨i, segment, here, gated, held, -⟩ :=
      (Interpreter.exists_playing_iff program.segments t).mp ⟨u, started, early, state⟩
    rw [unheld segment (List.mem_of_getElem? here) gated] at held
    exact absurd held (by decide)

def feint : Program :=
  ⟨[{ Segment.base with sustainRelease := 0x40, gateTicks := 0 },
    { Segment.base with attackDecay := 0x10, sustainRelease := 0x80, gateTicks := 0 },
    { Segment.base with control := .none, releaseTicks := 3 }]⟩

def feintThenTone : Program :=
  ⟨feint.segments ++ [.base]⟩

theorem after_hushed_iff_feint :
    Interpreter.signalAfter feint.segments 0 = .forceRelease ∧ 80 ≤ Config.pal.maxTicks ∧
      (∀ segment ∈ feint.segments, segment.gated = true → segment.gateTicks = 0) ∧
      Hushed (after .pal feint 80) ∧
      (∀ u, 1 ≤ u → u ≤ 4 → Hushed (after .pal feintThenTone u)) ∧
      Interpreter.Loaded feintThenTone.segments 5 3 ∧
      ¬ ∀ u, 1 ≤ u → u ≤ 5 → Hushed (after .pal feintThenTone u) := by
  have forced : Interpreter.signalAfter feint.segments 0 = .forceRelease := by decide +kernel
  have unheld : ∀ segment ∈ feint.segments, segment.gated = true → segment.gateTicks = 0 := by
    decide
  have whole : 80 ≤ Config.pal.maxTicks := by decide
  obtain ⟨-, -, silent⟩ := after_hushed_iff .pal feint whole
  obtain ⟨before, reached, -⟩ := @after_hushed_iff 4 .pal feintThenTone (by decide)
  obtain ⟨heard, loaded, -⟩ := @after_hushed_iff 5 .pal feintThenTone (by decide)
  have tone : Interpreter.Loaded feintThenTone.segments 5 3 :=
    (loaded 3 (by decide)).mpr (by decide)
  refine ⟨forced, whole, unheld, silent unheld, before.mpr ?_, tone, ?_⟩
  · rintro ⟨i, segment, here, gated, held, loads⟩
    have inside := (List.getElem?_eq_some_iff.mp here).1
    have early := (reached i inside).mp loads
    rcases Nat.lt_or_ge i feint.segments.length with feinted | last
    · have member := List.mem_of_getElem? ((List.getElem?_append_left feinted).symm.trans here)
      rw [unheld segment member gated] at held
      exact absurd held (by decide)
    · obtain rfl : i = 3 := Nat.le_antisymm (Nat.le_of_lt_succ inside) last
      exact absurd early (by decide)
  · rw [heard, not_not]
    exact ⟨3, .base, rfl, by decide, by decide, tone⟩

end SoundEffect.Simulator
