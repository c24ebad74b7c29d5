import SoundEffect.Proofs.Interpreter.Appending
import SoundEffect.Proofs.Simulator.Resting

namespace SoundEffect

namespace Program

def followedBy (first second : Program) : Program :=
  ⟨first.segments ++ second.segments⟩

end Program

namespace Simulator

open Interpreter (Separated)
open Timeline (loadTick)

variable {config : Config} {first second : Program} {n t : Nat}

theorem repeats_followedBy (h : Separated first.segments second.segments)
    (early : n < loadTick first.segments first.segments.length) :
    Repeats first (first.followedBy second) 0 n := by
  constructor
  · intro u before
    rw [Nat.zero_add]
    exact h.signalAfter_eq (Nat.lt_of_le_of_lt before early)
  · intro u before
    rw [Nat.zero_add, Program.followedBy, h.after_eq (Nat.lt_of_le_of_lt before early)]
    exact .refl _

theorem echoes_followedBy (h : Separated first.segments second.segments)
    (early : t < loadTick first.segments first.segments.length) :
    Echoes 0 (after config first t) (after config (first.followedBy second) t) := by
  have within := Nat.lt_of_le_of_lt (Nat.min_le_left t config.maxTicks) early
  exact (repeats_followedBy h within).echoes_of_start (h.after_eq within)

theorem repeats_resumed (h : Separated first.segments second.segments)
    (last : t + 1 = loadTick first.segments first.segments.length) (n : Nat) :
    Repeats second (first.followedBy second) t n := by
  constructor
  · intro u _
    exact h.signalAfter_resumed last u
  · intro u _
    rw [Program.followedBy, Nat.add_assoc, h.after_resumed last (Nat.le_add_left 1 u)]
    exact .refl _

theorem echoes_resumed (long : 7 ≤ config.tickLength.toNat)
    (h : Separated first.segments second.segments)
    (last : t + 1 = loadTick first.segments first.segments.length) (started : 1 ≤ n)
    (executed : t + n ≤ config.maxTicks) :
    Echoes first.length (after config second n)
      (after config (first.followedBy second) (t + n)) := by
  obtain ⟨state, position, -⟩ := Interpreter.after_of_lastTick h.nonempty last
  have before := h.after_eq (t := t) (by omega)
  have gap : 1 ≤ t := Nat.pos_of_ne_zero fun first_tick => h.nonempty (by
    rw [first_tick] at position
    exact List.length_eq_zero_iff.mp position.symm)
  have silent : (after config (first.followedBy second) t).envelope = .silent :=
    envelope_after_of_resting long gap (Nat.le_of_add_right_le executed)
      (.inl ((congrArg Interpreter.state before).trans state))
  obtain ⟨envelope, samples⟩ :=
    (repeats_resumed h last n).after_eq executed silent (Nat.le_refl n)
  refine .of_interpreter ?_ envelope (samples started)
  rw [interpreter_after _ executed, interpreter_after second (by omega)]
  exact h.after_resumed last started

theorem followedBy_composes (long : 7 ≤ config.tickLength.toNat) {last opening : Segment}
    (ends : first.segments.getLast? = some last)
    (released : last.gated = false ∨ last.releaseTicks ≠ 0)
    (starts : second.segments.head? = some opening) (gated : opening.gated = true) :
    ∃ idle, (∀ t, (Interpreter.after first.segments t).state = .idle ↔ idle ≤ t) ∧
      (∀ t ≤ config.maxTicks, (after config first t).interpreter.state = .idle ↔ idle ≤ t) ∧
      1 ≤ idle ∧
      (∀ t < idle, Echoes 0 (after config first t) (after config (first.followedBy second) t)) ∧
      ∀ t, 1 ≤ t → idle - 1 + t ≤ config.maxTicks →
        Echoes first.length (after config second t)
          (after config (first.followedBy second) (idle - 1 + t)) := by
  have separated : Separated first.segments second.segments :=
    ⟨⟨last, ends, by simpa [Segment.endsReleased] using released⟩, ⟨opening, starts, gated⟩⟩
  have positive : 1 ≤ loadTick first.segments first.segments.length :=
    @Timeline.loadTick_mono first.segments 0 _ (Nat.zero_le _)
  have idle_iff (t : Nat) : (Interpreter.after first.segments t).state = .idle ↔
      loadTick first.segments first.segments.length ≤ t := by
    obtain ⟨scheduled, pending⟩ := Timeline.scheduled_after first.segments t
    exact scheduled.idle_iff pending
  refine ⟨_, idle_iff, fun t executed => ?_, positive,
    fun t early => echoes_followedBy separated early, fun t started executed => ?_⟩
  · rw [interpreter_after first executed]
    exact idle_iff t
  · exact echoes_resumed long separated (Nat.sub_add_cancel positive) started executed

def releasedTone : Program :=
  ⟨[{ Segment.base with releaseTicks := 3, freqGlide := 5 }]⟩

theorem followedBy_composes_releasedTone :
    7 ≤ Config.pal.tickLength.toNat ∧
      (∃ last, releasedTone.segments.getLast? = some last ∧ last.releaseTicks ≠ 0) ∧
      (∃ opening, Program.base.segments.head? = some opening ∧ opening.gated = true) ∧
      Echoes 0 (after .pal releasedTone 7) (after .pal (releasedTone.followedBy .base) 7) ∧
      7 + 2 ≤ Config.pal.maxTicks ∧
      Echoes 1 (after .pal .base 2) (after .pal (releasedTone.followedBy .base) (7 + 2)) ∧
      (after .pal .base 2).interpreter.state = .playing := by
  have long : 7 ≤ Config.pal.tickLength.toNat := by decide
  have executed : 7 + 2 ≤ Config.pal.maxTicks := by decide
  have released : (3 : UInt8) ≠ 0 := by decide
  obtain ⟨idle, first_idle, -, -, echoes, resumes⟩ :=
    @followedBy_composes .pal releasedTone .base long _ _ rfl (.inr released) rfl (by decide)
  have sounding : (Interpreter.after releasedTone.segments 7).state ≠ .idle := by decide +kernel
  have ended : (Interpreter.after releasedTone.segments 8).state = .idle := by decide +kernel
  have eighth : idle = 8 := by
    have := mt (first_idle 7).mpr sounding
    have := (first_idle 8).mp ended
    omega
  subst eighth
  exact ⟨long, ⟨_, rfl, released⟩, ⟨_, rfl, by decide⟩, echoes 7 (by decide), executed,
    resumes 2 (by decide) executed, by decide +kernel⟩

end Simulator

end SoundEffect
