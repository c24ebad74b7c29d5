import SoundEffect.Proofs.Interpreter.Timeline

namespace SoundEffect

namespace Control

@[simp] theorem gate_none : none.gate = false := by
  decide

@[simp] theorem gate_lower_gate (control : Control) : (control.lower .gate).gate = false := by
  have cleared : ~~~(0x01 : UInt8) &&& 0x01 = 0 := by decide
  simp [gate, has, lower, ControlLine.mask, UInt8.and_assoc, cleared]

end Control

namespace Interpreter

variable {segments : List Segment} {now next : Interpreter} {signal : EnvelopeSignal} {t : Nat}

@[simp] theorem control_cleared (voice : Voice) : voice.cleared.control = .none := rfl

@[simp] theorem countDown_control :
    (now.countDown segments).voice.control = now.voice.control := by
  simp only [countDown]
  repeat' split
  all_goals rfl

/-- The gate bit in each state. A ready interpreter may still carry the gate of the segment that it
leaves, but only in the middle of a tick and with a segment to load. -/
structure GateKept (segments : List Segment) (now : Interpreter) : Prop where
  playing : now.state = .playing →
    now.voice.control.gate = true ∧ now.position < segments.length
  waiting : now.state = .waiting → now.voice.control.gate = false
  ready : now.state = .ready → now.delay ≠ 0 ∨ segments.length ≤ now.position →
    now.voice.control.gate = false
  idle : now.state = .idle → now.voice.control.gate = false

theorem GateKept.of_next (state : now.state = .ready) (settling : now.delay = 0)
    (next : now.position < segments.length) : GateKept segments now := by
  refine ⟨by simp [state], by simp [state], fun _ early => ?_, by simp [state]⟩
  rcases early with pending | past
  · exact absurd settling pending
  · exact absurd past (Nat.not_le.mpr next)

theorem GateKept.step (settling : now.delay = 0) (step : Step segments now next signal)
    (h : GateKept segments now) : GateKept segments next := by
  cases step with
  | rest state => exact ⟨nofun, nofun, nofun, fun _ => h.idle state⟩
  | clear state => exact ⟨nofun, nofun, fun _ _ => by simp, nofun⟩
  | loadGated state here gated =>
      exact ⟨fun _ => ⟨gated, (List.getElem?_eq_some_iff.mp here).1⟩, nofun, nofun, nofun⟩
  | loadUngated state here ungated => exact ⟨nofun, fun _ => ungated, nofun, nofun⟩
  | finish state past =>
      have := h.ready state (.inr (List.getElem?_eq_none_iff.mp past))
      exact ⟨nofun, nofun, nofun, fun _ => this⟩
  | release state here releases => exact ⟨nofun, fun _ => by simp, nofun, nofun⟩
  | handOver state here held next =>
      exact .of_next rfl settling (List.getElem?_eq_some_iff.mp next).1
  | lost state past =>
      have := (h.playing state).2
      exact absurd (List.getElem?_eq_none_iff.mp past) (Nat.not_le.mpr this)
  | resume state next ungated =>
      exact .of_next rfl settling (List.getElem?_eq_some_iff.mp next).1
  | finishHeld => exact ⟨nofun, nofun, nofun, nofun⟩
  | separate => exact ⟨nofun, nofun, nofun, nofun⟩
  | finishReleased => exact ⟨nofun, nofun, nofun, nofun⟩

theorem GateKept.countDown (pending : 0 < now.delay.toNat) (h : GateKept segments now) :
    GateKept segments (now.countDown segments) := by
  have started : now.delay ≠ 0 := fun none => by simp [none] at pending
  constructor
  · simpa using h.playing
  · simpa using h.waiting
  · intro state _
    simpa using h.ready (by simpa using state) (.inl started)
  · simpa using h.idle

theorem gateKept_after (segments : List Segment) (t : Nat) :
    GateKept segments (after segments t) := by
  induction t with
  | zero => exact ⟨nofun, nofun, fun _ _ => by simp [initial, Voice.silent], nofun⟩
  | succ t ih =>
      exact tick_invariant (fun _ _ _ settling step h => h.step settling step)
        (ih.countDown (Timeline.scheduled_after segments t).2)

theorem state_after_ne_resetZero (segments : List Segment) (t : Nat) :
    (after segments t).state ≠ .resetZero := by
  obtain ⟨h, pending⟩ := Timeline.scheduled_after segments t
  intro state
  cases h <;> simp_all

theorem gate_after_iff (segments : List Segment) (t : Nat) :
    (after segments t).voice.control.gate = true ↔ (after segments t).state = .playing := by
  have h := gateKept_after segments t
  have pending := (Timeline.scheduled_after segments t).2
  have started : (after segments t).delay ≠ 0 := fun none => by simp [none] at pending
  refine ⟨fun gate => ?_, fun state => (h.playing state).1⟩
  cases state : (after segments t).state with
  | playing => rfl
  | waiting => simp [h.waiting state] at gate
  | ready => simp [h.ready state (.inl started)] at gate
  | idle => simp [h.idle state] at gate
  | resetZero => exact absurd state (state_after_ne_resetZero segments t)

end Interpreter

end SoundEffect
