import SoundEffect.Proofs.Interpreter.Clearing

namespace SoundEffect.Interpreter

open Timeline (Scheduled loadTick endTick scheduled_after)

structure Separated (segments more : List Segment) : Prop where
  ends : ∃ last, segments.getLast? = some last ∧ last.endsReleased = true
  starts : ∃ first, more.head? = some first ∧ first.gated = true

variable {segments more : List Segment} {now other : Interpreter} {t : Nat}

theorem getElem?_behind (segments more : List Segment) (i : Nat) :
    (segments ++ more)[segments.length + i]? = more[i]? := by
  rw [List.getElem?_append_right (Nat.le_add_right _ _), Nat.add_sub_cancel_left]

theorem Separated.nonempty (h : Separated segments more) : segments ≠ [] := by
  obtain ⟨last, ends, -⟩ := h.ends
  rintro rfl
  cases ends

theorem Separated.getElem?_last (h : Separated segments more) {i : Nat} {segment : Segment}
    (here : segments[i]? = some segment) (last : i + 1 = segments.length) :
    segment.endsReleased = true := by
  obtain ⟨segment', ends, released⟩ := h.ends
  have at_end : segments.length - 1 = i := by omega
  rw [List.getLast?_eq_getElem?, at_end, here] at ends
  exact Option.some.inj ends ▸ released

theorem Separated.getElem?_first (h : Separated segments more) :
    ∃ first, (segments ++ more)[segments.length]? = some first ∧ first.gated = true := by
  obtain ⟨first, starts, gated⟩ := h.starts
  exact ⟨first, by rw [← Nat.add_zero segments.length, getElem?_behind, ← List.head?_eq_getElem?,
    starts], gated⟩

theorem Separated.transition_eq (h : Separated segments more) (spent : now.delay = 0)
    (early : t < loadTick segments segments.length) (scheduled : Scheduled segments t now) :
    now.transition (segments ++ more) = now.transition segments := by
  have inside {i : Nat} (before : i < segments.length) : (segments ++ more)[i]? = segments[i]? :=
    List.getElem?_append_left before
  have none_left : now.delay.toNat = 0 := by
    rw [spent]
    rfl
  cases scheduled with
  | ready state bounded passed due short =>
      have before : now.position < segments.length := by
        refine Nat.lt_of_le_of_ne bounded fun last => ?_
        rw [last] at due
        omega
      simp only [transition, state, inside before]
  | @playing segment state here gated loaded due =>
      have before := (List.getElem?_eq_some_iff.mp here).1
      by_cases last : now.position + 1 = segments.length
      · have released := h.getElem?_last here last
        have releases : segment.releaseTicks ≠ 0 := by
          simpa [Segment.endsReleased, gated] using released
        simp only [transition, state, inside before, here, if_pos releases]
      · exact transition_congr (inside before) fun _ => inside (Nat.lt_of_le_of_ne before last)
  | waiting state here released loaded due =>
      have before := (List.getElem?_eq_some_iff.mp here).1
      by_cases last : now.position + 1 = segments.length
      · obtain ⟨first, next, gated⟩ := h.getElem?_first
        have past : segments[segments.length]? = none := List.getElem?_eq_none (Nat.le_refl _)
        simp only [transition, state, stateAfterRelease, last, next, gated, past, if_true]
      · exact transition_congr (inside before) fun _ => inside (Nat.lt_of_le_of_ne before last)
  | resetZero state bounded passed due settling => simp only [transition, state]
  | idle state past due short => exact absurd due (Nat.not_le.mpr early)

theorem Separated.alongside (h : Separated segments more)
    (early : t < loadTick segments segments.length) :
    Alongside segments (segments ++ more) fun now other =>
      now = other ∧ Scheduled segments t now where
  delay := by
    rintro now _ ⟨rfl, -⟩
    rfl
  transition := by
    rintro now _ spent ⟨rfl, scheduled⟩
    rw [h.transition_eq spent early scheduled]
    exact ⟨⟨rfl, scheduled.step spent (step_transition segments now)⟩, rfl⟩

theorem Separated.tick_eq (h : Separated segments more)
    (early : t + 1 < loadTick segments segments.length) :
    (after segments t).tick (segments ++ more) = (after segments t).tick segments := by
  obtain ⟨scheduled, pending⟩ := scheduled_after segments t
  have before : (after segments t).position < segments.length := by
    cases scheduled with
    | ready state bounded passed due short =>
        refine Nat.lt_of_le_of_ne bounded fun last => ?_
        rw [last] at due
        omega
    | playing state here gated loaded due => exact (List.getElem?_eq_some_iff.mp here).1
    | waiting state here released loaded due => exact (List.getElem?_eq_some_iff.mp here).1
    | resetZero state bounded passed due settling => omega
    | idle state past due short => omega
  have here : (segments ++ more)[(after segments t).position]? =
      segments[(after segments t).position]? := List.getElem?_append_left before
  obtain ⟨⟨reached, -⟩, signal⟩ :=
    @Alongside.tick _ _ (after segments t) (after segments t) _ (h.alongside early)
      ⟨(countDown_congr here).symm, scheduled.countDown pending⟩
  exact Prod.ext reached.symm signal

theorem Separated.after_eq (h : Separated segments more)
    (early : t < loadTick segments segments.length) :
    after (segments ++ more) t = after segments t := by
  induction t with
  | zero => rfl
  | succ t ih => rw [after_succ, ih (Nat.lt_of_succ_lt early), h.tick_eq early, after_succ]

theorem Separated.signalAfter_eq (h : Separated segments more)
    (early : t + 1 < loadTick segments segments.length) :
    signalAfter (segments ++ more) t = signalAfter segments t := by
  rw [signalAfter, h.after_eq (Nat.lt_of_succ_lt early), h.tick_eq early, signalAfter]

theorem after_of_lastTick (nonempty : segments ≠ [])
    (last : t + 1 = loadTick segments segments.length) :
    (after segments t).state = .ready ∧ (after segments t).position = segments.length ∧
      (after segments t).delay = 1 := by
  obtain ⟨p, whole⟩ := Nat.exists_eq_add_of_le' (List.length_pos_iff.mpr nonempty)
  have inside : p < segments.length := whole ▸ Nat.lt_succ_self p
  have separated : Timeline.gap segments p = 1 := by
    simp [Timeline.gap, whole]
  have now : t = endTick segments p := by
    rw [whole, Timeline.loadTick_succ, separated] at last
    exact Nat.succ.inj last
  rw [now, whole]
  exact Timeline.after_of_gap inside separated

theorem transition_behind (segments more : List Segment) (now : Interpreter) :
    (now.behind segments.length).transition (segments ++ more) =
      ((now.transition more).1.behind segments.length, (now.transition more).2) := by
  cases state : now.state with
  | idle => simp only [transition, behind, state]
  | resetZero => simp only [transition, behind, state]
  | ready =>
      simp only [transition, behind, state, getElem?_behind]
      cases more[now.position]? with
      | none => rfl
      | some segment => cases gated : segment.gated <;> simp [gated]
  | playing =>
      simp only [transition, behind, state, Nat.add_assoc, getElem?_behind]
      cases more[now.position]? with
      | none => rfl
      | some segment =>
          by_cases held : segment.releaseTicks = 0
          · simp only [held, ne_eq, not_true, if_false]
            cases more[now.position + 1]? <;> rfl
          · simp only [held, ne_eq, not_false_eq_true, if_true]
  | waiting =>
      simp only [transition, behind, state, stateAfterRelease, Nat.add_assoc, getElem?_behind]

theorem countDown_behind (segments more : List Segment) (now : Interpreter) :
    (now.behind segments.length).countDown (segments ++ more) =
      (now.countDown more).behind segments.length := by
  simp only [countDown, behind, getElem?_behind]
  cases more[now.position]? with
  | none => rfl
  | some segment =>
      by_cases spent : now.delay = 0
      · simp [spent]
      · by_cases last : now.delay - 1 = 0 <;> simp [spent, last]

def Resumes (n : Nat) (now other : Interpreter) : Prop :=
  other = now.behind n ∨
    now.state = .ready ∧ now.position = 0 ∧ other.state = .ready ∧ other.position = n ∧
      other.delay = now.delay

theorem Separated.alongside_resumes (h : Separated segments more) :
    Alongside more (segments ++ more) (Resumes segments.length) where
  delay := by
    rintro now other (rfl | ⟨-, -, -, -, delay⟩)
    · rfl
    · exact delay
  transition := by
    rintro now other spent (rfl | ⟨state, position, state', position', delay⟩)
    · rw [transition_behind]
      exact ⟨.inl rfl, rfl⟩
    · -- The first segment is loaded over whatever the two voices were.
      obtain ⟨first, next, gated⟩ := h.getElem?_first
      have here : more[0]? = some first := by
        rw [← next, ← getElem?_behind segments more 0, Nat.add_zero]
      simp only [transition, state, state', position, position', here, next, gated, if_true]
      exact ⟨.inl rfl, trivial⟩

theorem Resumes.countDown (related : Resumes segments.length now other) :
    Resumes segments.length (now.countDown more) (other.countDown (segments ++ more)) := by
  rcases related with rfl | ⟨state, position, state', position', delay⟩
  · exact .inl (countDown_behind segments more now)
  · refine .inr ⟨by simpa using state, by simpa using position, by simpa using state',
      by simpa using position', UInt8.toNat_inj.mp ?_⟩
    rw [toNat_countDown_delay, toNat_countDown_delay, delay]

theorem Separated.resumes_after (h : Separated segments more)
    (last : t + 1 = loadTick segments segments.length) (u : Nat) :
    Resumes segments.length (after more u) (after (segments ++ more) (t + u)) := by
  induction u with
  | zero =>
      obtain ⟨state, position, delay⟩ := after_of_lastTick h.nonempty last
      rw [Nat.add_zero, h.after_eq (last ▸ Nat.lt_succ_self t)]
      exact .inr ⟨rfl, rfl, state, position, delay⟩
  | succ u ih => exact (h.alongside_resumes.tick ih.countDown).1

theorem Separated.signalAfter_resumed (h : Separated segments more)
    (last : t + 1 = loadTick segments segments.length) (u : Nat) :
    signalAfter (segments ++ more) (t + u) = signalAfter more u :=
  (h.alongside_resumes.tick (h.resumes_after last u).countDown).2

theorem Separated.after_resumed (h : Separated segments more)
    (last : t + 1 = loadTick segments segments.length) {u : Nat} (started : 1 ≤ u) :
    after (segments ++ more) (t + u) = (after more u).behind segments.length := by
  rcases h.resumes_after last u with same | ⟨state, position, -⟩
  · exact same
  · -- Once begun, a run is ready at its first position only if there is nothing to load.
    obtain ⟨first, starts, -⟩ := h.starts
    have none_left := (position_after_of_resting started (.inl state)).mp position
    rw [none_left] at starts
    cases starts

end SoundEffect.Interpreter
