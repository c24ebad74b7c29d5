import SoundEffect.Proofs.Interpreter.Likeness
import SoundEffect.Proofs.Preview.Columns

namespace SoundEffect

namespace Simulator

variable {program other : Program}

structure LooksLike (now other : Simulator) : Prop where
  state : other.interpreter.state = now.interpreter.state
  position : other.interpreter.position = now.interpreter.position
  delay : other.interpreter.delay = now.interpreter.delay
  frequency : other.interpreter.voice.frequency = now.interpreter.voice.frequency
  phase : other.envelope.phase = now.envelope.phase
  level : other.envelope.level = now.envelope.level
  samples : other.samples = now.samples

theorem repeats_of_alike (h : List.Forall₂ Segment.Alike program.segments other.segments)
    (n : Nat) : Repeats program other 0 n := by
  constructor
  · intro u _
    rw [Nat.zero_add]
    exact Interpreter.signalAfter_alike h u
  · intro u _
    rw [Nat.zero_add]
    exact (Interpreter.alike_after h (u + 1)).voice

theorem looksLike_after (config : Config)
    (h : List.Forall₂ Segment.Alike program.segments other.segments) (t : Nat) :
    (after config program t).LooksLike (after config other t) := by
  have executed := Nat.min_le_right t config.maxTicks
  have alike : (after config program (min t config.maxTicks)).interpreter.Alike
      (after config other (min t config.maxTicks)).interpreter := by
    rw [interpreter_after program executed, interpreter_after other executed]
    exact Interpreter.alike_after h _
  obtain ⟨envelope, samples⟩ := (repeats_of_alike h _).after_eq_of_start executed (Nat.le_refl _)
  rw [after_min config program t, after_min config other t]
  exact ⟨alike.state, alike.position, alike.delay, alike.voice.frequency,
    congrArg Envelope.phase envelope, congrArg Envelope.level envelope, samples⟩

end Simulator

namespace Preview

variable {config : Config} {program other : Program} {now next : Preview}

structure Abreast (config : Config) (program other : Program) (now next : Preview) : Prop where
  configured : next.config = now.config
  simulators : ∃ t, now.simulator = .after config program t ∧
    next.simulator = .after config other t
  bitmap : next.bitmap = now.bitmap
  column : next.column = now.column

theorem Abreast.drawColumn (h : List.Forall₂ Segment.Alike program.segments other.segments)
    (abreast : Abreast config program other now next) :
    Abreast config program other now.drawColumn next.drawColumn := by
  obtain ⟨configured, ⟨t, simulator, simulator'⟩, bitmap, column⟩ := abreast
  have complete : next.isComplete = now.isComplete := by
    rw [isComplete, isComplete, configured, column]
  cases full : now.isComplete with
  | true =>
      rw [drawColumn_of_complete full, drawColumn_of_complete (complete.trans full)]
      exact ⟨configured, ⟨t, simulator, simulator'⟩, bitmap, column⟩
  | false =>
      have first := (Simulator.looksLike_after config h (t + 1)).samples
      have second := (Simulator.looksLike_after config h (t + 2)).samples
      rw [drawColumn_of_incomplete full, drawColumn_of_incomplete (complete.trans full), configured,
        bitmap, column, simulator, simulator']
      simp only [← Simulator.after_succ]
      refine ⟨?_, ⟨t + 2, rfl, rfl⟩, ?_, rfl⟩
      · simpa [Preview.config, simulator, simulator', Simulator.after_succ] using configured
      · simp only [first, second]

theorem abreast_drawColumns (h : List.Forall₂ Segment.Alike program.segments other.segments)
    (preview : Preview) (n : Nat) :
    Abreast preview.config program other (drawColumns n (preview.restart program))
      (drawColumns n (preview.restart other)) := by
  induction n with
  | zero => exact ⟨rfl, ⟨0, rfl, rfl⟩, rfl, rfl⟩
  | succ n ih =>
      rw [drawColumns_succ, drawColumns_succ]
      exact ih.drawColumn h

theorem drawn_alike (alike : List.Forall₂ Segment.Alike program.segments other.segments) :
    (∀ config t, (Simulator.after config program t).LooksLike (Simulator.after config other t)) ∧
      ∀ preview : Preview,
        (∀ n, (drawColumns n (preview.restart other)).bitmap =
          (drawColumns n (preview.restart program)).bitmap) ∧
        (preview.runToEnd other).bitmap = (preview.runToEnd program).bitmap := by
  refine ⟨fun config t => Simulator.looksLike_after config alike t, fun preview => ⟨?_, ?_⟩⟩
  · exact fun n => (abreast_drawColumns alike preview n).bitmap
  · exact (abreast_drawColumns alike preview preview.config.columns).bitmap

def buzz : Program :=
  ⟨[{ Segment.base with releaseTicks := 3 },
    { Segment.base with control := .none, freqGlide := 9, gateTicks := 0, releaseTicks := 2 }]⟩

def disguisedBuzz : Program :=
  ⟨[{ Segment.base with
      control := ⟨0xFF⟩, pulseWidth := 7, pulseGlide := -5, releaseTicks := 3, priority := 200 },
    { Segment.base with
      control := ⟨0xFE⟩, freqGlide := 9, gateTicks := 77, releaseTicks := 2, priority := 1 }]⟩

theorem drawn_alike_buzz :
    List.Forall₂ Segment.Alike buzz.segments disguisedBuzz.segments ∧ disguisedBuzz ≠ buzz ∧
      (Simulator.after .pal buzz 4).LooksLike (Simulator.after .pal disguisedBuzz 4) ∧
      (Simulator.after .pal disguisedBuzz 4).envelope.level ≠ 0 ∧
      ∃ fresh, new .pal = .ok fresh ∧
        (fresh.runToEnd disguisedBuzz).bitmap = (fresh.runToEnd buzz).bitmap := by
  have held : Segment.Alike
      { Segment.base with releaseTicks := 3 }
      { Segment.base with
        control := ⟨0xFF⟩, pulseWidth := 7, pulseGlide := -5, releaseTicks := 3,
        priority := 200 } :=
    ⟨rfl, rfl, by decide, rfl, rfl, rfl, fun _ => rfl⟩
  have dropped : Segment.Alike
      { Segment.base with control := .none, freqGlide := 9, gateTicks := 0, releaseTicks := 2 }
      { Segment.base with
        control := ⟨0xFE⟩, freqGlide := 9, gateTicks := 77, releaseTicks := 2, priority := 1 } :=
    ⟨rfl, rfl, by decide, rfl, rfl, rfl, fun gated => absurd gated (by decide)⟩
  have alike : List.Forall₂ Segment.Alike buzz.segments disguisedBuzz.segments :=
    .cons held (.cons dropped .nil)
  obtain ⟨looks, drawn⟩ := drawn_alike alike
  have sounding : (Simulator.after .pal buzz 4).envelope.level ≠ 0 := by decide +kernel
  have valid : Config.pal.validate = .ok () := by decide
  obtain ⟨fresh, made⟩ := exists_new valid
  exact ⟨alike, by decide, looks .pal 4, (looks .pal 4).level ▸ sounding, fresh, made,
    (drawn fresh).2⟩

end Preview

end SoundEffect
