import SoundEffect.Proofs.Interpreter.Settling

namespace SoundEffect.Interpreter

variable {segments others : List Segment} {now other : Interpreter}
  {R : Interpreter → Interpreter → Prop}

structure Alongside (segments others : List Segment) (R : Interpreter → Interpreter → Prop) :
    Prop where
  delay : ∀ {now other}, R now other → other.delay = now.delay
  transition : ∀ {now other}, now.delay = 0 → R now other →
    R (now.transition segments).1 (other.transition others).1 ∧
      (other.transition others).2 = (now.transition segments).2

theorem Alongside.settle (h : Alongside segments others R) (related : R now other) :
    R (settle segments now) (settle others other) ∧
      (passage others other).map (·.2) = (passage segments now).map (·.2) := by
  induction now using passage_induction segments generalizing other with
  | settled now started =>
      have started' : other.delay ≠ 0 := h.delay related ▸ started
      rw [settle_of_delay_ne_zero started, settle_of_delay_ne_zero started',
        passage_of_delay_ne_zero started, passage_of_delay_ne_zero started']
      exact ⟨related, rfl⟩
  | due now spent ih =>
      have spent' : other.delay = 0 := (h.delay related).trans spent
      obtain ⟨next, signal⟩ := h.transition spent related
      obtain ⟨settled, signals⟩ := ih next
      rw [settle_of_delay_eq_zero spent, settle_of_delay_eq_zero spent',
        passage_of_delay_eq_zero spent, passage_of_delay_eq_zero spent', List.map_cons,
        List.map_cons, signal, signals]
      exact ⟨settled, rfl⟩

theorem tick_snd (segments : List Segment) (now : Interpreter) :
    (now.tick segments).2 =
      if ((passage segments (now.countDown segments)).map (·.2)).any (· = .forceRelease)
      then .forceRelease else .plain := by
  rw [List.any_map]
  rfl

theorem Alongside.tick (h : Alongside segments others R)
    (counted : R (now.countDown segments) (other.countDown others)) :
    R (now.tick segments).1 (other.tick others).1 ∧
      (other.tick others).2 = (now.tick segments).2 := by
  obtain ⟨settled, signals⟩ := h.settle counted
  exact ⟨settled, by rw [tick_snd, tick_snd, signals]⟩

def behind (n : Nat) (now : Interpreter) : Interpreter :=
  { now with position := n + now.position }

theorem behind_zero (now : Interpreter) : now.behind 0 = now := by
  rw [behind, Nat.zero_add]

def signalAfter (segments : List Segment) (t : Nat) : EnvelopeSignal :=
  ((after segments t).tick segments).2

theorem Step.position_le {next : Interpreter} {signal : EnvelopeSignal}
    (step : Step segments now next signal) : now.position ≤ next.position := by
  cases step <;> simp

theorem position_le_settle (segments : List Segment) (now : Interpreter) :
    now.position ≤ (settle segments now).position :=
  settle_invariant (fun _ _ _ _ step reached => Nat.le_trans reached step.position_le)
    (Nat.le_refl _)

theorem position_le_tick (segments : List Segment) (now : Interpreter) :
    now.position ≤ (now.tick segments).1.position := by
  rw [tick_fst, ← @countDown_position segments now]
  exact position_le_settle segments _

theorem countDown_congr (here : others[now.position]? = segments[now.position]?) :
    now.countDown others = now.countDown segments := by
  simp only [countDown, here]

theorem transition_congr (here : others[now.position]? = segments[now.position]?)
    (next : now.position < (now.transition segments).1.position →
      others[now.position + 1]? = segments[now.position + 1]?) :
    now.transition others = now.transition segments := by
  cases state : now.state with
  | idle => simp only [transition, state]
  | resetZero => simp only [transition, state]
  | ready => simp only [transition, state, here]
  | playing =>
      cases current : segments[now.position]? with
      | none => simp only [transition, state, here, current]
      | some segment =>
          by_cases held : segment.releaseTicks = 0
          · have moves : (now.transition segments).1.position = now.position + 1 := by
              simp only [transition, state, current, held, ne_eq, not_true, if_false]
              split <;> rfl
            have following := next (moves ▸ Nat.lt_succ_self _)
            simp only [transition, state, here, current, held, following]
          · simp only [transition, state, here, current, ne_eq, held, not_false_eq_true, if_true]
  | waiting =>
      have moves : (now.transition segments).1.position = now.position + 1 := by
        simp only [transition, state]
      have following := next (moves ▸ Nat.lt_succ_self _)
      simp only [transition, state, stateAfterRelease, following]

end SoundEffect.Interpreter
