import Mathlib.Order.Monotone.Basic
import SoundEffect.Proofs.Simulator.Alongside

namespace SoundEffect

namespace Interpreter

variable {segments others : List Segment} {now : Interpreter} {k t : Nat}

theorem alongside_of_agree (same : ∀ i < k, others[i]? = segments[i]?) :
    Alongside segments others fun now other =>
      now = other ∧ (settle segments now).position < k where
  delay := by
    rintro now _ ⟨rfl, -⟩
    rfl
  transition := by
    -- a tick reads nothing behind the position where it ends, and each transition is before that
    rintro now _ spent ⟨rfl, early⟩
    rw [settle_of_delay_eq_zero spent] at early
    have reached := Nat.lt_of_le_of_lt (position_le_settle segments _) early
    have here := Nat.lt_of_le_of_lt (step_transition segments now).position_le reached
    have read : now.transition others = now.transition segments :=
      transition_congr (same _ here) fun moves => same _ (Nat.lt_of_le_of_lt moves reached)
    rw [read]
    exact ⟨⟨rfl, early⟩, rfl⟩

theorem tick_congr_of_agree (same : ∀ i < k, others[i]? = segments[i]?)
    (early : (now.tick segments).1.position < k) : now.tick others = now.tick segments := by
  have here := same _ (Nat.lt_of_le_of_lt (position_le_tick segments now) early)
  obtain ⟨⟨reached, -⟩, signal⟩ :=
    @Alongside.tick _ _ now now _ (alongside_of_agree same) ⟨(countDown_congr here).symm, early⟩
  exact Prod.ext reached.symm signal

theorem position_after_mono (segments : List Segment) :
    Monotone fun t => (after segments t).position :=
  monotone_nat_of_le_succ fun t => position_le_tick segments (after segments t)

theorem after_congr_of_agree (same : ∀ i < k, others[i]? = segments[i]?)
    (early : (after segments t).position < k) : after others t = after segments t := by
  induction t with
  | zero => rfl
  | succ t ih =>
      have earlier := Nat.lt_of_le_of_lt (position_le_tick segments (after segments t)) early
      rw [after_succ, after_succ, ih earlier, tick_congr_of_agree same early]

theorem signalAfter_congr_of_agree (same : ∀ i < k, others[i]? = segments[i]?)
    (early : (after segments (t + 1)).position < k) :
    signalAfter others t = signalAfter segments t := by
  have earlier := Nat.lt_of_le_of_lt (position_le_tick segments (after segments t)) early
  rw [signalAfter, after_congr_of_agree same earlier, tick_congr_of_agree same early, signalAfter]

end Interpreter

namespace Simulator

variable {config : Config} {program other : Program} {k n t : Nat}

theorem repeats_of_agree (same : ∀ i < k, other.segments[i]? = program.segments[i]?)
    (early : (Interpreter.after program.segments n).position < k) :
    Repeats program other 0 n := by
  have earlier {u : Nat} (before : u < n) :
      (Interpreter.after program.segments (u + 1)).position < k :=
    Nat.lt_of_le_of_lt (Interpreter.position_after_mono program.segments before) early
  constructor
  · intro u before
    rw [Nat.zero_add]
    exact Interpreter.signalAfter_congr_of_agree same (earlier before)
  · intro u before
    rw [Nat.zero_add, Interpreter.after_congr_of_agree same (earlier before)]
    exact .refl _

theorem after_echoes_of_take (config : Config)
    (same : other.segments.take k = program.segments.take k)
    (early : (after config program t).interpreter.position < k) :
    Echoes 0 (after config program t) (after config other t) := by
  have agree (i : Nat) (inside : i < k) : other.segments[i]? = program.segments[i]? := by
    rw [← List.getElem?_take_of_lt inside, same, List.getElem?_take_of_lt inside]
  rw [after_min, interpreter_after program (Nat.min_le_right t config.maxTicks)] at early
  exact (repeats_of_agree agree early).echoes_of_start
    (Interpreter.after_congr_of_agree agree early)

def heldThenReleased : Program :=
  ⟨[{ Segment.base with gateTicks := 3 }, { Segment.base with gateTicks := 9 },
    { Segment.base with control := .none, releaseTicks := 5 }]⟩

def heldThenLouder : Program :=
  ⟨[{ Segment.base with gateTicks := 3 }, { Segment.base with gateTicks := 9 },
    { Segment.base with attackDecay := 0, sustainRelease := 0xF0 }, .base]⟩

theorem after_echoes_of_take_heldThenReleased :
    heldThenLouder.segments.take 2 = heldThenReleased.segments.take 2 ∧
      (after .pal heldThenReleased 9).interpreter.position < 2 ∧
      Echoes 0 (after .pal heldThenReleased 9) (after .pal heldThenLouder 9) ∧
      (after .pal heldThenLouder 9).interpreter.position = 1 := by
  have same : heldThenLouder.segments.take 2 = heldThenReleased.segments.take 2 := rfl
  have position : (after .pal heldThenReleased 9).interpreter.position = 1 := by decide +kernel
  have early : (after .pal heldThenReleased 9).interpreter.position < 2 := by
    rw [position]
    decide
  have echoes := after_echoes_of_take .pal same early
  exact ⟨same, early, echoes, echoes.position.trans (by rw [position])⟩

end Simulator

end SoundEffect
