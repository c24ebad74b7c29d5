import SoundEffect.Segment

namespace SoundEffect

inductive PlayState where
  | idle
  | resetZero
  | ready
  | playing
  | waiting
  deriving DecidableEq, Repr

def PlayState.name : PlayState → String
  | idle => "Idle"
  | resetZero => "ResetZero"
  | ready => "Ready"
  | playing => "Playing"
  | waiting => "Waiting"

inductive EnvelopeSignal where
  | plain
  | forceRelease
  deriving DecidableEq, Repr

structure Voice where
  control : Control
  attackDecay : UInt8
  sustainRelease : UInt8
  frequency : UInt16
  pulseWidth : UInt16
  deriving DecidableEq, Repr

namespace Voice

def silent : Voice := ⟨.none, 0, 0, 0, 0⟩

def load (segment : Segment) : Voice where
  control := segment.control
  attackDecay := segment.attackDecay
  sustainRelease := segment.sustainRelease
  frequency := segment.frequency
  pulseWidth := segment.pulseWidth

def glide (voice : Voice) (segment : Segment) : Voice :=
  { voice with
    frequency := voice.frequency + segment.freqGlide.toUInt16
    pulseWidth := voice.pulseWidth + segment.pulseGlide.toUInt16 }

def cleared (voice : Voice) : Voice :=
  { voice with control := .none, attackDecay := 0, sustainRelease := 0 }

end Voice

structure Interpreter where
  state : PlayState
  position : Nat
  delay : UInt8
  voice : Voice
  deriving DecidableEq, Repr

namespace Interpreter

def initial : Interpreter := ⟨.ready, 0, 1, .silent⟩

def restartsEnvelope (segment following : Segment) : Bool :=
  following.attackDecay &&& 0xEF = 0 && following.gated && segment.sustain < following.sustain

def stateAfterRelease (segments : List Segment) (position : Nat) : PlayState :=
  match segments[position]? with
  | some following => if following.gated then .resetZero else .ready
  | none => .resetZero

def transition (segments : List Segment) (now : Interpreter) : Interpreter × EnvelopeSignal :=
  match now.state with
  | .idle => ({ now with delay := 1 }, .plain)
  | .resetZero => ({ now with state := .ready, delay := 1, voice := now.voice.cleared }, .plain)
  | .ready =>
      match segments[now.position]? with
      | some segment =>
          if segment.gated then
            ({ now with state := .playing, delay := segment.gateTicks, voice := .load segment },
              .plain)
          else
            ({ now with state := .waiting, delay := segment.releaseTicks, voice := .load segment },
              .plain)
      | none => ({ now with state := .idle }, .plain)
  | .playing =>
      match segments[now.position]? with
      | some segment =>
          if segment.releaseTicks ≠ 0 then
            ({ now with
                state := .waiting
                delay := segment.releaseTicks - 1
                voice := { now.voice with control := segment.control.lower .gate } }, .plain)
          else
            match segments[now.position + 1]? with
            | some following =>
                ({ now with state := .ready, position := now.position + 1 },
                  if restartsEnvelope segment following then .forceRelease else .plain)
            | none => ({ now with state := .resetZero, position := now.position + 1 }, .plain)
      | none => ({ now with state := .idle }, .plain)
  | .waiting =>
      ({ now with
          state := stateAfterRelease segments (now.position + 1)
          position := now.position + 1 }, .plain)

/-- The most transitions that can follow before a delay is set. -/
def transitionsLeft (segments : List Segment) (now : Interpreter) : Nat :=
  let ahead := segments.length - now.position
  if now.delay ≠ 0 then 0
  else
    match now.state with
    | .idle | .resetZero => 1
    | .ready => if ahead = 0 then 2 else 3 * ahead + 1
    | .playing => if ahead = 0 then 2 else 3 * ahead
    | .waiting => if ahead = 0 then 2 else 3 * ahead - 1

section Transitions

variable {segments : List Segment} {state : PlayState} {position : Nat} {delay : UInt8}
  {voice : Voice}

theorem transitionsLeft_settled_le (settled : state = .idle ∨ state = .resetZero) :
    transitionsLeft segments ⟨state, position, delay, voice⟩ ≤ 1 := by
  rcases settled with rfl | rfl <;> simp only [transitionsLeft] <;> split <;> omega

theorem transitionsLeft_of_ready (inside : position < segments.length) :
    transitionsLeft segments ⟨.ready, position, delay, voice⟩ =
      if delay ≠ 0 then 0 else 3 * (segments.length - position) + 1 := by
  simp only [transitionsLeft, if_neg (Nat.sub_ne_zero_of_lt inside)]

theorem transitionsLeft_of_playing (inside : position < segments.length) :
    transitionsLeft segments ⟨.playing, position, delay, voice⟩ =
      if delay ≠ 0 then 0 else 3 * (segments.length - position) := by
  simp only [transitionsLeft, if_neg (Nat.sub_ne_zero_of_lt inside)]

theorem transitionsLeft_of_waiting (inside : position < segments.length) :
    transitionsLeft segments ⟨.waiting, position, delay, voice⟩ =
      if delay ≠ 0 then 0 else 3 * (segments.length - position) - 1 := by
  simp only [transitionsLeft, if_neg (Nat.sub_ne_zero_of_lt inside)]

theorem one_lt_transitionsLeft (moving : state = .ready ∨ state = .playing ∨ state = .waiting) :
    1 < transitionsLeft segments ⟨state, position, 0, voice⟩ := by
  rcases moving with rfl | rfl | rfl <;> simp only [transitionsLeft] <;> simp <;> split <;> omega

theorem transitionsLeft_ready_lt :
    transitionsLeft segments (transition segments ⟨.ready, position, 0, voice⟩).1 <
      transitionsLeft segments ⟨.ready, position, 0, voice⟩ := by
  cases here : segments[position]? with
  | none =>
      simp only [transition, here]
      exact Nat.lt_of_le_of_lt (transitionsLeft_settled_le (.inl rfl))
        (one_lt_transitionsLeft (.inl rfl))
  | some segment =>
      have inside := (List.getElem?_eq_some_iff.mp here).1
      rw [transitionsLeft_of_ready inside]
      simp only [transition, here, ne_eq, not_true_eq_false, if_false]
      split
      · rw [transitionsLeft_of_playing inside]
        split <;> omega
      · rw [transitionsLeft_of_waiting inside]
        split <;> omega

theorem transitionsLeft_playing_lt :
    transitionsLeft segments (transition segments ⟨.playing, position, 0, voice⟩).1 <
      transitionsLeft segments ⟨.playing, position, 0, voice⟩ := by
  have several : 1 < transitionsLeft segments ⟨.playing, position, 0, voice⟩ :=
    one_lt_transitionsLeft (.inr (.inl rfl))
  cases here : segments[position]? with
  | none =>
      simp only [transition, here]
      exact Nat.lt_of_le_of_lt (transitionsLeft_settled_le (.inl rfl)) several
  | some segment =>
      have inside := (List.getElem?_eq_some_iff.mp here).1
      simp only [transition, here]
      split
      · rw [transitionsLeft_of_playing inside, transitionsLeft_of_waiting inside]
        split <;> simp <;> omega
      · cases next : segments[position + 1]? with
        | none => exact Nat.lt_of_le_of_lt (transitionsLeft_settled_le (.inr rfl)) several
        | some following =>
            have further := (List.getElem?_eq_some_iff.mp next).1
            rw [transitionsLeft_of_playing inside, transitionsLeft_of_ready further]
            simp
            omega

theorem transitionsLeft_waiting_lt :
    transitionsLeft segments (transition segments ⟨.waiting, position, 0, voice⟩).1 <
      transitionsLeft segments ⟨.waiting, position, 0, voice⟩ := by
  have several : 1 < transitionsLeft segments ⟨.waiting, position, 0, voice⟩ :=
    one_lt_transitionsLeft (.inr (.inr rfl))
  simp only [transition, stateAfterRelease]
  cases next : segments[position + 1]? with
  | none => exact Nat.lt_of_le_of_lt (transitionsLeft_settled_le (.inr rfl)) several
  | some following =>
      have further := (List.getElem?_eq_some_iff.mp next).1
      cases gated : following.gated with
      | true =>
          simp only [gated, if_true]
          exact Nat.lt_of_le_of_lt (transitionsLeft_settled_le (.inr rfl)) several
      | false =>
          simp only [gated]
          rw [transitionsLeft_of_waiting (Nat.lt_of_succ_lt further)]
          simp only [Bool.false_eq_true, if_false]
          rw [transitionsLeft_of_ready further]
          simp
          omega

end Transitions

theorem transitionsLeft_transition_lt (segments : List Segment) (now : Interpreter)
    (h : now.delay = 0) :
    transitionsLeft segments (now.transition segments).1 < transitionsLeft segments now := by
  obtain ⟨state, position, delay, voice⟩ := now
  obtain rfl : delay = 0 := h
  cases state with
  | idle => simp [transition, transitionsLeft]
  | resetZero => simp [transition, transitionsLeft]
  | ready => exact transitionsLeft_ready_lt
  | playing => exact transitionsLeft_playing_lt
  | waiting => exact transitionsLeft_waiting_lt

def passage (segments : List Segment) (now : Interpreter) : List (Interpreter × EnvelopeSignal) :=
  if now.delay = 0 then
    let step := now.transition segments
    step :: passage segments step.1
  else []
termination_by transitionsLeft segments now
decreasing_by exact transitionsLeft_transition_lt segments now ‹_›

def countDown (segments : List Segment) (now : Interpreter) : Interpreter :=
  let delay := if now.delay = 0 then 0 else now.delay - 1
  match segments[now.position]? with
  | some segment =>
      if delay ≠ 0 then { now with delay := delay, voice := now.voice.glide segment }
      else { now with delay := delay }
  | none => { now with delay := delay }

def tickPassage (segments : List Segment) (now : Interpreter) :
    List (Interpreter × EnvelopeSignal) :=
  passage segments (now.countDown segments)

def tick (segments : List Segment) (now : Interpreter) : Interpreter × EnvelopeSignal :=
  let steps := now.tickPassage segments
  ((steps.getLast?.map (·.1)).getD (now.countDown segments),
    if steps.any (·.2 = .forceRelease) then .forceRelease else .plain)

end Interpreter

end SoundEffect
