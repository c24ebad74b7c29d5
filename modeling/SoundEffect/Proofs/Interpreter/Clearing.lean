import SoundEffect.Proofs.Interpreter.Alongside
import SoundEffect.Proofs.Interpreter.Glides

namespace SoundEffect

namespace Timeline

open Interpreter (after)

variable {segments : List Segment} {i j p t : Nat} {segment following : Segment}

theorem gap_eq_one (here : segments[p]? = some segment) (released : segment.endsReleased = true)
    (next : segments[p + 1]? = some following) (gated : following.gated = true) :
    gap segments p = 1 := by
  simp [gap, here, next, released, gated]

theorem exists_gap (before : i < j) (here : segments[i]? = some segment)
    (released : segment.endsReleased = true) (there : segments[j]? = some following)
    (gated : following.gated = true) :
    ∃ p, i ≤ p ∧ p < j ∧ gap segments p = 1 := by
  induction j generalizing following with
  | zero => exact absurd before (Nat.not_lt_zero i)
  | succ j ih =>
      rcases Nat.lt_succ_iff_lt_or_eq.mp before with earlier | rfl
      · have inside := (List.getElem?_eq_some_iff.mp there).1
        have between := List.getElem?_eq_getElem (Nat.lt_of_succ_lt inside)
        -- the gated segment has the gap in front of it, or a gated one that comes earlier has
        cases held : segments[j].gated with
        | true =>
            obtain ⟨p, first, last, separated⟩ := ih earlier between held
            exact ⟨p, first, Nat.lt_succ_of_lt last, separated⟩
        | false =>
            exact ⟨j, Nat.le_of_lt earlier, Nat.lt_succ_self j,
              gap_eq_one between (by simp [Segment.endsReleased, held]) there gated⟩
      · exact ⟨i, Nat.le_refl i, before, gap_eq_one here released there gated⟩

theorem after_of_gap (inside : p < segments.length) (separated : gap segments p = 1) :
    (after segments (endTick segments p)).state = .ready ∧
      (after segments (endTick segments p)).position = p + 1 ∧
      (after segments (endTick segments p)).delay = 1 := by
  obtain ⟨scheduled, pending⟩ := scheduled_after segments (endTick segments p)
  obtain ⟨bounded, passed⟩ := scheduled.endTick_le_iff pending
  have next := @loadTick_succ segments p
  have reached := (passed p inside).mp (Nat.le_refl _)
  have position : (after segments (endTick segments p)).position = p + 1 := by
    refine Nat.le_antisymm (Nat.le_of_not_lt fun past => ?_) reached
    have ended := (passed (p + 1) (Nat.lt_of_lt_of_le past bounded)).mpr past
    have := @loadTick_le_endTick segments (p + 1)
    omega
  cases scheduled with
  | ready state _ _ due short =>
      refine ⟨state, position, UInt8.toNat_inj.mp ?_⟩
      change _ = 1
      rw [position] at due
      omega
  | playing _ _ _ loaded =>
      rw [position] at loaded
      omega
  | waiting _ _ _ loaded =>
      rw [position] at loaded
      omega
  | resetZero _ _ _ _ settling => omega
  | idle _ past due =>
      rw [← past, position] at due
      omega

end Timeline

namespace Interpreter

open Timeline (endTick loadTick scheduled_after)

variable {segments : List Segment} {i j t u : Nat} {segment : Segment}

structure Cleared (now : Interpreter) : Prop where
  state : now.state = .ready
  control : now.voice.control = .none
  attackDecay : now.voice.attackDecay = 0
  sustainRelease : now.voice.sustainRelease = 0

theorem cleared_of_ready (started : 1 ≤ t) (state : (after segments t).state = .ready) :
    Cleared (after segments t) := by
  obtain ⟨-, control, attackDecay, sustainRelease, -⟩ :=
    (tuned_after segments started).resting (.inl state)
  exact ⟨state, control, attackDecay, sustainRelease⟩

theorem exists_cleared (here : segments[i]? = some segment)
    (released : segment.endsReleased = true) (before : i < (after segments t).position)
    (playing : (after segments t).state = .playing) :
    ∃ u, endTick segments i ≤ u ∧ u < t ∧ Cleared (after segments u) := by
  obtain ⟨scheduled, pending⟩ := scheduled_after segments t
  obtain ⟨following, there, gated, loaded, -⟩ := scheduled.of_playing playing
  obtain ⟨p, first, last, separated⟩ := Timeline.exists_gap before here released there gated
  have inside := Nat.lt_trans last (List.getElem?_eq_some_iff.mp there).1
  have reached : loadTick segments (p + 1) ≤ t :=
    Nat.le_trans (Timeline.loadTick_mono last) loaded
  rw [Timeline.loadTick_succ, separated] at reached
  have started : 1 ≤ endTick segments p :=
    Nat.le_trans (Timeline.loadTick_mono (Nat.zero_le p)) (Timeline.loadTick_le_endTick p)
  exact ⟨endTick segments p, Timeline.endTick_mono first, reached,
    cleared_of_ready started (Timeline.after_of_gap inside separated).1⟩

theorem not_playing_of_waiting (waiting : (after segments t).state = .waiting) :
    (after segments (t + 1)).state ≠ .playing := by
  intro playing
  obtain ⟨scheduled, pending⟩ := scheduled_after segments t
  obtain ⟨segment, here, released, lowered, ends⟩ := scheduled.of_waiting waiting
  have moved : (after segments t).position ≤ (after segments (t + 1)).position :=
    position_le_tick segments (after segments t)
  rcases Nat.lt_or_eq_of_le moved with before | same
  · obtain ⟨u, ended, early, -⟩ := exists_cleared here released before playing
    omega
  · obtain ⟨scheduled', pending'⟩ := scheduled_after segments (t + 1)
    obtain ⟨following, there, gated, -, due⟩ := scheduled'.of_playing playing
    rw [← same] at there due
    obtain rfl := Option.some.inj (here.symm.trans there)
    rw [Segment.gateSpan_of_gated gated] at lowered
    omega

theorem cleared_before_playing (playing : (after segments (t + 1)).state = .playing)
    (started : 1 ≤ t) (first : (after segments t).state ≠ .playing) :
    Cleared (after segments t) := by
  apply cleared_of_ready started
  cases state : (after segments t).state with
  | ready => rfl
  | playing => exact absurd state first
  | waiting => exact absurd playing (not_playing_of_waiting state)
  | resetZero => exact absurd state (state_after_ne_resetZero segments t)
  | idle =>
      obtain ⟨scheduled, -⟩ := scheduled_after segments t
      have stays := Timeline.after_of_idle (scheduled.of_idle state).2.1 1
      rw [stays, state] at playing
      cases playing

end Interpreter

end SoundEffect
