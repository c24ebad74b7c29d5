import SoundEffect.Proofs.Interpreter.Alongside
import SoundEffect.Proofs.Simulator.Substeps

namespace SoundEffect

structure Voice.Alike (voice other : Voice) : Prop where
  gate : other.control.gate = voice.control.gate
  attackDecay : other.attackDecay = voice.attackDecay
  sustainRelease : other.sustainRelease = voice.sustainRelease
  frequency : other.frequency = voice.frequency

theorem Voice.Alike.refl (voice : Voice) : voice.Alike voice :=
  ⟨rfl, rfl, rfl, rfl⟩

namespace Envelope

theorem advance_congr {voice other : Voice} (alike : voice.Alike other) (rates : Rates) :
    (fun envelope : Envelope => envelope.advance other rates) = (·.advance voice rates) := by
  funext envelope
  simp only [advance, alike.gate, alike.attackDecay, alike.sustainRelease]

def obey (envelope : Envelope) : EnvelopeSignal → Envelope
  | .forceRelease => envelope.forceRelease
  | .plain => envelope

end Envelope

namespace Simulator

variable {config : Config} {program other : Program} {t : Nat}

theorem substep_eq_iterate (now : Simulator) (k : Nat) :
    now.substep k =
      (·.advance now.upcomingVoice ⟨now.config.tickLength⟩)^[k]
        (now.envelope.obey now.upcomingSignal) := by
  induction k with
  | zero =>
      simp only [substep, Function.iterate_zero, id_eq]
      cases now.upcomingSignal <;> rfl
  | succ k ih => rw [substep_succ, Function.iterate_succ_apply', ih]

def after (config : Config) (program : Program) (t : Nat) : Simulator :=
  tick^[t] ((new config).reset program)

theorem after_succ (config : Config) (program : Program) (t : Nat) :
    after config program (t + 1) = (after config program t).tick :=
  Function.iterate_succ_apply' tick t _

theorem after_within (program : Program) (executed : t ≤ config.maxTicks) :
    (after config program t).config = config ∧
      (after config program t).segments = program.segments ∧
      (after config program t).ticks = t ∧
      (after config program t).interpreter = Interpreter.after program.segments t :=
  iterate_tick_start config program.segments executed

theorem interpreter_after (program : Program) (executed : t ≤ config.maxTicks) :
    (after config program t).interpreter = Interpreter.after program.segments t :=
  (after_within program executed).2.2.2

theorem upcomingVoice_after (program : Program) (executed : t ≤ config.maxTicks) :
    (after config program t).upcomingVoice =
      (Interpreter.after program.segments (t + 1)).voice := by
  obtain ⟨-, segments, -, interpreter⟩ := after_within program executed
  rw [upcomingVoice, segments, interpreter]
  rfl

theorem after_min (config : Config) (program : Program) (t : Nat) :
    after config program t = after config program (min t config.maxTicks) := by
  rcases Nat.le_total t config.maxTicks with short | long
  · rw [Nat.min_eq_left short]
  · obtain ⟨late, rfl⟩ := Nat.exists_eq_add_of_le long
    obtain ⟨config', -, ticks, -⟩ := after_within program (Nat.le_refl config.maxTicks)
    have finished : (after config program config.maxTicks).isFinished = true := by
      rw [isFinished, config', ticks]
      exact decide_eq_true (Nat.le_refl _)
    rw [Nat.min_eq_right long, after, Nat.add_comm, Function.iterate_add_apply]
    exact Function.iterate_fixed (tick_of_finished finished) late

def soundedBy (config : Config) (program : Program) (t k : Nat) : Envelope :=
  (·.advance (Interpreter.after program.segments (t + 1)).voice ⟨config.tickLength⟩)^[k]
    ((after config program t).envelope.obey (Interpreter.signalAfter program.segments t))

theorem substep_after (program : Program) (executed : t ≤ config.maxTicks) (k : Nat) :
    (after config program t).substep k = soundedBy config program t k := by
  obtain ⟨config', segments, -, interpreter⟩ := after_within program executed
  rw [substep_eq_iterate, upcomingVoice, upcomingSignal, config', segments, interpreter]
  rfl

theorem after_succ_of_executed (program : Program) (executed : t < config.maxTicks) :
    (after config program (t + 1)).envelope = soundedBy config program t substeps ∧
      (after config program (t + 1)).samples =
        (List.range substeps).map fun k =>
          ⟨(soundedBy config program t (k + 1)).bar,
            Curves.frequencyBar (Interpreter.after program.segments (t + 1)).voice.frequency⟩ := by
  have unfinished : (after config program t).isFinished = false :=
    unfinished_iterate (new config) program executed
  have frequency := congrArg Voice.frequency (upcomingVoice_after program (Nat.le_of_lt executed))
  rw [after_succ, tick_of_unfinished unfinished]
  simp only [substep_after program (Nat.le_of_lt executed), frequency, and_self]

structure Repeats (program other : Program) (m n : Nat) : Prop where
  signal : ∀ u < n, Interpreter.signalAfter other.segments (m + u) =
    Interpreter.signalAfter program.segments u
  voice : ∀ u < n, (Interpreter.after program.segments (u + 1)).voice.Alike
    (Interpreter.after other.segments (m + u + 1)).voice

variable {m n : Nat}

theorem Repeats.soundedBy_eq (h : Repeats program other m n) {u : Nat} (early : u < n)
    (envelope : (after config other (m + u)).envelope = (after config program u).envelope)
    (k : Nat) : soundedBy config other (m + u) k = soundedBy config program u k := by
  rw [soundedBy, soundedBy, envelope, h.signal u early, Envelope.advance_congr (h.voice u early)]

theorem Repeats.after_eq (h : Repeats program other m n) (executed : m + n ≤ config.maxTicks)
    (silent : (after config other m).envelope = .silent) (early : t ≤ n) :
    (after config other (m + t)).envelope = (after config program t).envelope ∧
      (1 ≤ t → (after config other (m + t)).samples = (after config program t).samples) := by
  induction t with
  | zero => exact ⟨silent, nofun⟩
  | succ t ih =>
      have same := h.soundedBy_eq early (ih (Nat.le_of_succ_le early)).1
      obtain ⟨envelope, samples⟩ :=
        @after_succ_of_executed config t program (by omega)
      obtain ⟨envelope', samples'⟩ :=
        @after_succ_of_executed config (m + t) other (by omega)
      rw [← Nat.add_assoc, envelope, envelope', samples, samples', same,
        (h.voice t early).frequency]
      exact ⟨rfl, fun _ => by simp only [same]⟩

theorem Repeats.after_eq_of_start (h : Repeats program other 0 n) (executed : n ≤ config.maxTicks)
    (early : t ≤ n) :
    (after config other t).envelope = (after config program t).envelope ∧
      (after config other t).samples = (after config program t).samples := by
  have bounded : 0 + n ≤ config.maxTicks := by rwa [Nat.zero_add]
  obtain ⟨envelope, samples⟩ := h.after_eq bounded rfl early
  rw [Nat.zero_add] at envelope samples
  cases t with
  | zero => exact ⟨rfl, rfl⟩
  | succ t => exact ⟨envelope, samples (Nat.succ_le_succ (Nat.zero_le t))⟩

structure Echoes (offset : Nat) (now other : Simulator) : Prop where
  state : other.interpreter.state = now.interpreter.state
  position : other.interpreter.position = offset + now.interpreter.position
  delay : other.interpreter.delay = now.interpreter.delay
  voice : other.interpreter.voice = now.interpreter.voice
  envelope : other.envelope = now.envelope
  samples : other.samples = now.samples

theorem Echoes.of_interpreter {offset : Nat} {now next : Simulator}
    (interpreter : next.interpreter = now.interpreter.behind offset)
    (envelope : next.envelope = now.envelope) (samples : next.samples = now.samples) :
    Echoes offset now next := by
  constructor
  · rw [interpreter]
    rfl
  · rw [interpreter]
    rfl
  · rw [interpreter]
    rfl
  · rw [interpreter]
    rfl
  · exact envelope
  · exact samples

theorem Repeats.echoes_of_start (h : Repeats program other 0 (min t config.maxTicks))
    (interpreter : Interpreter.after other.segments (min t config.maxTicks) =
      Interpreter.after program.segments (min t config.maxTicks)) :
    Echoes 0 (after config program t) (after config other t) := by
  have executed := Nat.min_le_right t config.maxTicks
  obtain ⟨envelope, samples⟩ := h.after_eq_of_start executed (Nat.le_refl _)
  rw [after_min config program t, after_min config other t]
  refine .of_interpreter ?_ envelope samples
  rw [interpreter_after other executed, interpreter_after program executed, interpreter,
    Interpreter.behind_zero]

end Simulator

end SoundEffect
