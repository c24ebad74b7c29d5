import SoundEffect.Interpreter

namespace SoundEffect.Interpreter

variable {segments : List Segment} {now : Interpreter}

inductive Step (segments : List Segment) (now : Interpreter) :
    Interpreter → EnvelopeSignal → Prop
  | rest (state : now.state = .idle) :
      Step segments now { now with state := .idle, delay := 1 } .plain
  | clear (state : now.state = .resetZero) :
      Step segments now { now with state := .ready, delay := 1, voice := now.voice.cleared } .plain
  | loadGated {segment} (state : now.state = .ready)
      (here : segments[now.position]? = some segment) (gated : segment.gated = true) :
      Step segments now
        { now with state := .playing, delay := segment.gateTicks, voice := .load segment } .plain
  | loadUngated {segment} (state : now.state = .ready)
      (here : segments[now.position]? = some segment) (ungated : segment.gated = false) :
      Step segments now
        { now with state := .waiting, delay := segment.releaseTicks, voice := .load segment } .plain
  | finish (state : now.state = .ready) (past : segments[now.position]? = none) :
      Step segments now { now with state := .idle } .plain
  | release {segment} (state : now.state = .playing)
      (here : segments[now.position]? = some segment) (releases : segment.releaseTicks ≠ 0) :
      Step segments now
        { now with
          state := .waiting
          delay := segment.releaseTicks - 1
          voice := { now.voice with control := segment.control.lower .gate } } .plain
  | handOver {segment following} (state : now.state = .playing)
      (here : segments[now.position]? = some segment) (held : segment.releaseTicks = 0)
      (next : segments[now.position + 1]? = some following) :
      Step segments now { now with state := .ready, position := now.position + 1 }
        (if restartsEnvelope segment following then .forceRelease else .plain)
  | finishHeld {segment} (state : now.state = .playing)
      (here : segments[now.position]? = some segment) (held : segment.releaseTicks = 0)
      (past : segments[now.position + 1]? = none) :
      Step segments now { now with state := .resetZero, position := now.position + 1 } .plain
  | lost (state : now.state = .playing) (past : segments[now.position]? = none) :
      Step segments now { now with state := .idle } .plain
  | separate {following} (state : now.state = .waiting)
      (next : segments[now.position + 1]? = some following) (gated : following.gated = true) :
      Step segments now { now with state := .resetZero, position := now.position + 1 } .plain
  | resume {following} (state : now.state = .waiting)
      (next : segments[now.position + 1]? = some following) (ungated : following.gated = false) :
      Step segments now { now with state := .ready, position := now.position + 1 } .plain
  | finishReleased (state : now.state = .waiting) (past : segments[now.position + 1]? = none) :
      Step segments now { now with state := .resetZero, position := now.position + 1 } .plain

theorem step_transition (segments : List Segment) (now : Interpreter) :
    Step segments now (now.transition segments).1 (now.transition segments).2 := by
  cases state : now.state with
  | idle =>
      simp only [transition, state]
      exact .rest state
  | resetZero =>
      simp only [transition, state]
      exact .clear state
  | ready =>
      cases here : segments[now.position]? with
      | none =>
          simp only [transition, state, here]
          exact .finish state here
      | some segment =>
          cases gated : segment.gated with
          | true =>
              simp only [transition, state, here, gated, if_true]
              exact .loadGated state here gated
          | false =>
              simp only [transition, state, here, gated, Bool.false_eq_true, if_false]
              exact .loadUngated state here gated
  | playing =>
      cases here : segments[now.position]? with
      | none =>
          simp only [transition, state, here]
          exact .lost state here
      | some segment =>
          by_cases held : segment.releaseTicks = 0
          · cases next : segments[now.position + 1]? with
            | none =>
                simp only [transition, state, here, held, next, ne_eq, not_true, if_false]
                exact .finishHeld state here held next
            | some following =>
                simp only [transition, state, here, held, next, ne_eq, not_true, if_false]
                exact .handOver state here held next
          · simp only [transition, state, here, ne_eq, held, not_false_eq_true, if_true]
            exact .release state here held
  | waiting =>
      cases next : segments[now.position + 1]? with
      | none =>
          simp only [transition, state, stateAfterRelease, next]
          exact .finishReleased state next
      | some following =>
          cases gated : following.gated with
          | true =>
              simp only [transition, state, stateAfterRelease, next, gated, if_true]
              exact .separate state next gated
          | false =>
              simp only [transition, state, stateAfterRelease, next, gated, Bool.false_eq_true,
                if_false]
              exact .resume state next gated

theorem passage_of_delay_ne_zero (h : now.delay ≠ 0) : passage segments now = [] := by
  rw [passage, if_neg h]

theorem passage_of_delay_eq_zero (h : now.delay = 0) :
    passage segments now =
      now.transition segments :: passage segments (now.transition segments).1 := by
  rw [passage, if_pos h]

def settle (segments : List Segment) (now : Interpreter) : Interpreter :=
  ((passage segments now).getLast?.map (·.1)).getD now

theorem settle_of_delay_ne_zero (h : now.delay ≠ 0) : settle segments now = now := by
  simp [settle, passage_of_delay_ne_zero h]

theorem settle_of_delay_eq_zero (h : now.delay = 0) :
    settle segments now = settle segments (now.transition segments).1 := by
  rw [settle, passage_of_delay_eq_zero h, List.getLast?_cons]
  cases hp : (passage segments (now.transition segments).1).getLast? <;> simp [settle, hp]

theorem tick_fst (segments : List Segment) (now : Interpreter) :
    (now.tick segments).1 = settle segments (now.countDown segments) := rfl

theorem passage_induction {motive : Interpreter → Prop} (segments : List Segment)
    (settled : ∀ now, now.delay ≠ 0 → motive now)
    (due : ∀ now, now.delay = 0 → motive (now.transition segments).1 → motive now)
    (now : Interpreter) : motive now := by
  by_cases h : now.delay = 0
  · exact due now h (passage_induction segments settled due (now.transition segments).1)
  · exact settled now h
termination_by transitionsLeft segments now
decreasing_by exact transitionsLeft_transition_lt segments now h

theorem toNat_pos {delay : UInt8} (h : delay ≠ 0) : 0 < delay.toNat :=
  Nat.pos_of_ne_zero fun h' => h (UInt8.toNat_inj.mp h')

theorem toNat_sub_one {delay : UInt8} (h : delay ≠ 0) : (delay - 1).toNat = delay.toNat - 1 :=
  UInt8.toNat_sub_of_le _ _ (UInt8.le_iff_toNat_le.mpr (toNat_pos h))

theorem settle_delay_pos (segments : List Segment) (now : Interpreter) :
    0 < (settle segments now).delay.toNat := by
  induction now using passage_induction segments with
  | settled now h =>
      rw [settle_of_delay_ne_zero h]
      exact toNat_pos h
  | due now h ih => rwa [settle_of_delay_eq_zero h]

theorem settle_invariant {P : Interpreter → Prop}
    (step : ∀ now next signal, now.delay = 0 → Step segments now next signal → P now → P next)
    (h : P now) : P (settle segments now) := by
  induction now using passage_induction segments with
  | settled now hd => rwa [settle_of_delay_ne_zero hd]
  | due now hd ih =>
      rw [settle_of_delay_eq_zero hd]
      exact ih (step now _ _ hd (step_transition segments now) h)

theorem tick_delay_pos (segments : List Segment) (now : Interpreter) :
    0 < (now.tick segments).1.delay.toNat :=
  settle_delay_pos segments _

theorem tick_invariant {P : Interpreter → Prop}
    (step : ∀ now next signal, now.delay = 0 → Step segments now next signal → P now → P next)
    (h : P (now.countDown segments)) : P (now.tick segments).1 :=
  settle_invariant step h

@[simp] theorem countDown_state : (now.countDown segments).state = now.state := by
  simp only [countDown]
  repeat' split
  all_goals rfl

@[simp] theorem countDown_position : (now.countDown segments).position = now.position := by
  simp only [countDown]
  repeat' split
  all_goals rfl

@[simp] theorem toNat_countDown_delay :
    (now.countDown segments).delay.toNat = now.delay.toNat - 1 := by
  by_cases h : now.delay = 0
  · simp only [countDown, h]
    split <;> rfl
  · simp only [countDown, if_neg h, ← toNat_sub_one h]
    repeat' split
    all_goals rfl

def after (segments : List Segment) : Nat → Interpreter
  | 0 => initial
  | t + 1 => ((after segments t).tick segments).1

@[simp] theorem after_zero (segments : List Segment) : after segments 0 = initial := rfl

theorem after_succ (segments : List Segment) (t : Nat) :
    after segments (t + 1) = ((after segments t).tick segments).1 := rfl

end SoundEffect.Interpreter
