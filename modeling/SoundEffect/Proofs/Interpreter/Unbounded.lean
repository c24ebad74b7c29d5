import SoundEffect.Proofs.Interpreter.Glides
import SoundEffect.Proofs.Interpreter.Loading

namespace SoundEffect

theorem toNat_ofInt_register (value : Int) :
    ((UInt16.ofInt value).toNat : Int) = value % 65536 := by
  rw [UInt16.ofInt, UInt16.toNat_ofNat']
  omega

inductive Register where
  | frequency
  | pulseWidth
  deriving DecidableEq, Repr

def Voice.read (voice : Voice) : Register → UInt16
  | .frequency => voice.frequency
  | .pulseWidth => voice.pulseWidth

namespace Segment

def nominal (segment : Segment) : Register → UInt16
  | .frequency => segment.frequency
  | .pulseWidth => segment.pulseWidth

def slope (segment : Segment) : Register → Int16
  | .frequency => segment.freqGlide
  | .pulseWidth => segment.pulseGlide

def reach (segment : Segment) (register : Register) (steps : Nat) : Int :=
  (segment.nominal register).toNat + steps * (segment.slope register).toInt

theorem reach_zero (segment : Segment) (register : Register) :
    segment.reach register 0 = (segment.nominal register).toNat := by
  simp [reach]

theorem reach_succ (segment : Segment) (register : Register) (steps : Nat) :
    segment.reach register (steps + 1) =
      segment.reach register steps + (segment.slope register).toInt := by
  rw [reach, reach, Int.natCast_succ, Int.add_mul, Int.one_mul, Int.add_assoc]

end Segment

theorem Voice.read_load (segment : Segment) (register : Register) :
    (Voice.load segment).read register = segment.nominal register := by
  cases register <;> rfl

theorem Voice.read_glide (voice : Voice) (segment : Segment) (register : Register) :
    (voice.glide segment).read register =
      voice.read register + (segment.slope register).toUInt16 := by
  cases register <;> rfl

theorem Voice.read_cleared (voice : Voice) (register : Register) :
    voice.cleared.read register = voice.read register := by
  cases register <;> rfl

theorem Voice.read_control (voice : Voice) (control : Control) (register : Register) :
    ({ voice with control := control } : Voice).read register = voice.read register := by
  cases register <;> rfl

namespace Interpreter

variable (segments : List Segment) (register : Register)

def loaded (now : Interpreter) (value : Int) : Int :=
  match now.state, segments[now.position]? with
  | .ready, some segment => (segment.nominal register).toNat
  | _, _ => value

def glided (now : Interpreter) (value : Int) : Int :=
  match segments[now.position]? with
  | some segment =>
      if (now.countDown segments).delay ≠ 0 then value + (segment.slope register).toInt else value
  | none => value

def unbounded : Nat → Int
  | 0 => 0
  | t + 1 =>
      (departures segments ((after segments t).countDown segments)).foldl
        (fun value departure => loaded segments register departure value)
        (glided segments register (after segments t) (unbounded t))

variable {segments register} {now next : Interpreter} {signal : EnvelopeSignal} {value : Int}

theorem loaded_of_ready {segment : Segment} (state : now.state = .ready)
    (here : segments[now.position]? = some segment) :
    loaded segments register now value = (segment.nominal register).toNat := by
  simp only [loaded, state, here]

theorem loaded_of_past (past : segments[now.position]? = none) :
    loaded segments register now value = value := by
  simp only [loaded, past]
  cases now.state <;> rfl

theorem loaded_of_not_ready (state : now.state ≠ .ready) :
    loaded segments register now value = value := by
  simp only [loaded]
  split
  · exact absurd ‹_› state
  · rfl

theorem glided_of_pending {segment : Segment} (here : segments[now.position]? = some segment)
    (pending : 1 < now.delay.toNat) :
    glided segments register now value = value + (segment.slope register).toInt := by
  have left : (now.countDown segments).delay ≠ 0 := by
    intro none
    have := @toNat_countDown_delay segments now
    rw [none] at this
    change 0 = _ at this
    omega
  simp only [glided, here, if_pos left]

theorem glided_of_last (last : now.delay.toNat ≤ 1) :
    glided segments register now value = value := by
  have spent : (now.countDown segments).delay = 0 := by
    apply UInt8.toNat_inj.mp
    rw [toNat_countDown_delay]
    exact Nat.sub_eq_zero_of_le last
  simp only [glided, spent, ne_eq, not_true_eq_false, if_false]
  split <;> rfl

theorem settle_loaded_invariant {P : Interpreter → Int → Prop}
    (step : ∀ now next signal value, now.delay = 0 → Step segments now next signal → P now value →
      P next (loaded segments register now value))
    (h : P now value) :
    P (settle segments now)
      ((departures segments now).foldl
        (fun value departure => loaded segments register departure value) value) := by
  induction now using passage_induction segments generalizing value with
  | settled now pending =>
      rwa [settle_of_delay_ne_zero pending, departures_of_delay_ne_zero pending]
  | due now spent ih =>
      rw [settle_of_delay_eq_zero spent, departures_of_delay_eq_zero spent, List.foldl_cons]
      exact ih (step now _ _ value spent (step_transition segments now) h)

theorem after_unbounded_invariant {P : Interpreter → Int → Prop}
    (start : P initial 0)
    (countDown : ∀ t value, P (after segments t) value →
      P ((after segments t).countDown segments)
        (glided segments register (after segments t) value))
    (step : ∀ now next signal value, now.delay = 0 → Step segments now next signal → P now value →
      P next (loaded segments register now value)) (t : Nat) :
    P (after segments t) (unbounded segments register t) := by
  induction t with
  | zero => exact start
  | succ t ih => exact settle_loaded_invariant step (countDown t _ ih)

def Holds (register : Register) (now : Interpreter) (value : Int) : Prop :=
  now.voice.read register = UInt16.ofInt value

theorem Holds.step (step : Step segments now next signal) (h : Holds register now value) :
    Holds register next (loaded segments register now value) := by
  cases step with
  | rest state => rwa [loaded_of_not_ready (by simp [state])]
  | clear state =>
      rw [loaded_of_not_ready (by simp [state])]
      exact (Voice.read_cleared _ _).trans h
  | loadGated state here gated =>
      rw [loaded_of_ready state here]
      exact (Voice.read_load _ _).trans (ofInt_toNat _).symm
  | loadUngated state here ungated =>
      rw [loaded_of_ready state here]
      exact (Voice.read_load _ _).trans (ofInt_toNat _).symm
  | finish state past => rwa [loaded_of_past past]
  | release state here releases =>
      rw [loaded_of_not_ready (by simp [state])]
      exact (Voice.read_control _ _ _).trans h
  | handOver state here held next => rwa [loaded_of_not_ready (by simp [state])]
  | finishHeld state here held past => rwa [loaded_of_not_ready (by simp [state])]
  | lost state past => rwa [loaded_of_not_ready (by simp [state])]
  | separate state next gated => rwa [loaded_of_not_ready (by simp [state])]
  | resume state next ungated => rwa [loaded_of_not_ready (by simp [state])]
  | finishReleased state past => rwa [loaded_of_not_ready (by simp [state])]

theorem Holds.countDown (h : Holds register now value) :
    Holds register (now.countDown segments) (glided segments register now value) := by
  by_cases pending : 1 < now.delay.toNat
  · cases here : segments[now.position]? with
    | some segment =>
        rw [Holds, countDown_voice_of_pending here pending, glided_of_pending here pending,
          Voice.read_glide, h, UInt16.ofInt_add, ofInt_toInt]
    | none =>
        have still : glided segments register now value = value := by simp only [glided, here]
        rw [Holds, still, ← h]
        simp only [Interpreter.countDown, here]
  · rw [Holds, glided_of_last (Nat.not_lt.mp pending),
      countDown_voice_of_last (Nat.not_lt.mp pending)]
    exact h

theorem toNat_read_after (segments : List Segment) (register : Register) (t : Nat) :
    (((after segments t).voice.read register).toNat : Int) =
      unbounded segments register t % 65536 := by
  rw [← toNat_ofInt_register]
  have start : Holds register initial 0 := by cases register <;> rfl
  have holds := @after_unbounded_invariant segments register _ start
    (fun _ _ h => h.countDown) (fun _ _ _ _ _ step h => h.step step) t
  rw [holds]

end Interpreter

end SoundEffect
