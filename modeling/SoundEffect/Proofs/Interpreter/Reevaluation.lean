import Mathlib.Logic.Function.Iterate
import Mathlib.Order.Monotone.Basic
import SoundEffect.Proofs.Interpreter.Alongside
import SoundEffect.Proofs.Interpreter.Loading

namespace SoundEffect.Interpreter

variable {segments : List Segment} {now next : Interpreter} {signal : EnvelopeSignal} {most : Nat}

def evaluated (segments : List Segment) (n : Nat) (now : Interpreter) : Interpreter :=
  (fun now => (now.transition segments).1)^[n] now

theorem evaluated_succ (segments : List Segment) (n : Nat) (now : Interpreter) :
    evaluated segments (n + 1) now = evaluated segments n (now.transition segments).1 :=
  Function.iterate_succ_apply _ n now

theorem evaluated_succ' (segments : List Segment) (n : Nat) (now : Interpreter) :
    evaluated segments (n + 1) now = ((evaluated segments n now).transition segments).1 :=
  Function.iterate_succ_apply' _ n now

theorem departures_eq_map (segments : List Segment) (now : Interpreter) :
    departures segments now =
      (List.range (passage segments now).length).map fun k => evaluated segments k now := by
  induction now using passage_induction segments with
  | settled now h =>
      rw [departures_of_delay_ne_zero h, passage_of_delay_ne_zero h]
      rfl
  | due now h ih =>
      rw [departures_of_delay_eq_zero h, passage_of_delay_eq_zero h, List.length_cons, ih,
        List.range_succ_eq_map, List.map_cons, List.map_map]
      rfl

theorem settle_eq_evaluated (segments : List Segment) (now : Interpreter) :
    settle segments now = evaluated segments (passage segments now).length now := by
  induction now using passage_induction segments with
  | settled now h =>
      rw [settle_of_delay_ne_zero h, passage_of_delay_ne_zero h]
      rfl
  | due now h ih =>
      rw [settle_of_delay_eq_zero h, passage_of_delay_eq_zero h, List.length_cons, evaluated_succ,
        ih]

theorem departures_invariant {P : Interpreter → Prop}
    (step : ∀ now next signal, now.delay = 0 → Step segments now next signal → P now → P next)
    (h : P now) : ∀ departure ∈ departures segments now, departure.delay = 0 ∧ P departure := by
  induction now using passage_induction segments with
  | settled now started => simp [departures_of_delay_ne_zero started]
  | due now spent ih =>
      intro departure taken
      rw [departures_of_delay_eq_zero spent] at taken
      rcases List.mem_cons.mp taken with rfl | later
      · exact ⟨spent, h⟩
      · exact ih (step now _ _ spent (step_transition segments now) h) departure later

structure SettlesIn (segments : List Segment) (n : Nat) (now : Interpreter) : Prop where
  unsettled : ∀ k < n, (evaluated segments k now).delay = 0
  settled : (evaluated segments n now).delay ≠ 0

theorem settlesIn_length_passage (segments : List Segment) (now : Interpreter) :
    SettlesIn segments (passage segments now).length now := by
  constructor
  · intro k early
    have taken : evaluated segments k now ∈ departures segments now := by
      rw [departures_eq_map]
      exact List.mem_map.mpr ⟨k, List.mem_range.mpr early, rfl⟩
    exact (departures_invariant (P := fun _ => True) (fun _ _ _ _ _ h => h) trivial _ taken).1
  · rw [← settle_eq_evaluated]
    intro none
    have pending := settle_delay_pos segments now
    simp [none] at pending

theorem length_passage_le (segments : List Segment) (now : Interpreter) :
    (passage segments now).length ≤ transitionsLeft segments now := by
  induction now using passage_induction segments with
  | settled now h => simp [passage_of_delay_ne_zero h]
  | due now h ih =>
      rw [passage_of_delay_eq_zero h, List.length_cons]
      exact Nat.lt_of_le_of_lt ih (transitionsLeft_transition_lt segments now h)

theorem transitionsLeft_le (segments : List Segment) (now : Interpreter) :
    transitionsLeft segments now ≤ 3 * (segments.length - now.position) + 2 := by
  simp only [transitionsLeft]
  split
  · exact Nat.zero_le _
  · cases now.state with
    | idle | resetZero => exact Nat.le_add_left 1 _
    | ready | playing | waiting => simp only; split <;> omega

structure Below (most : Nat) (now : Interpreter) : Prop where
  position : now.position ≤ most
  waiting : now.state = .waiting → now.position < most

theorem Step.below (covered : segments.length ≤ most) (step : Step segments now next signal)
    (h : Below most now) : Below most next := by
  cases step with
  | rest state => exact ⟨h.position, nofun⟩
  | clear state => exact ⟨h.position, nofun⟩
  | loadGated state here gated => exact ⟨h.position, nofun⟩
  | loadUngated state here ungated =>
      have inside := (List.getElem?_eq_some_iff.mp here).1
      exact ⟨h.position, fun _ => Nat.lt_of_lt_of_le inside covered⟩
  | finish state past => exact ⟨h.position, nofun⟩
  | release state here releases =>
      have inside := (List.getElem?_eq_some_iff.mp here).1
      exact ⟨h.position, fun _ => Nat.lt_of_lt_of_le inside covered⟩
  | handOver state here held next =>
      have inside := (List.getElem?_eq_some_iff.mp here).1
      exact ⟨Nat.le_trans inside covered, nofun⟩
  | finishHeld state here held past =>
      have inside := (List.getElem?_eq_some_iff.mp here).1
      exact ⟨Nat.le_trans inside covered, nofun⟩
  | lost state past => exact ⟨h.position, nofun⟩
  | separate state next gated => exact ⟨h.waiting state, nofun⟩
  | resume state next ungated => exact ⟨h.waiting state, nofun⟩
  | finishReleased state past => exact ⟨h.waiting state, nofun⟩

theorem Below.evaluated (covered : segments.length ≤ most) (h : Below most now) (n : Nat) :
    Below most (evaluated segments n now) := by
  induction n with
  | zero => exact h
  | succ n ih =>
      rw [evaluated_succ']
      exact (step_transition segments _).below covered ih

theorem position_evaluated_mono (segments : List Segment) (now : Interpreter) :
    Monotone fun n => (evaluated segments n now).position := by
  refine monotone_nat_of_le_succ fun n => ?_
  simp only [evaluated_succ']
  exact (step_transition segments _).position_le

theorem tick_snd_eq_forceRelease_iff (segments : List Segment) (now : Interpreter) :
    (now.tick segments).2 = .forceRelease ↔
      ∃ departure ∈ departures segments (now.countDown segments),
        (departure.transition segments).2 = .forceRelease := by
  rw [tick_snd, ← map_transition_departures]
  split <;> simp_all

theorem tick_settles_within (segments : List Segment) (now : Interpreter) :
    let loop := fun k => evaluated segments k (now.countDown segments)
    ∃ n ≤ 3 * (segments.length - now.position) + 2,
      SettlesIn segments n (now.countDown segments) ∧
      (now.tick segments).1 = loop n ∧
      ((now.tick segments).2 = .forceRelease ↔
        ∃ k < n, ((loop k).transition segments).2 = .forceRelease) ∧
      (Monotone fun k => (loop k).position) ∧
      ∀ k, now.position ≤ (loop k).position ∧
        (loop k).position ≤ max segments.length (now.position + 1) := by
  intro loop
  have position : (now.countDown segments).position = now.position := countDown_position
  have forward : Monotone fun k => (loop k).position := position_evaluated_mono segments _
  refine ⟨(tickPassage segments now).length, ?_, settlesIn_length_passage segments _,
    settle_eq_evaluated segments _, ?_, forward, fun k => ⟨?_, ?_⟩⟩
  · have bounded := transitionsLeft_le segments (now.countDown segments)
    rw [position] at bounded
    exact Nat.le_trans (length_passage_le segments _) bounded
  · rw [tick_snd_eq_forceRelease_iff, departures_eq_map]
    simp only [List.mem_map, List.mem_range, exists_exists_and_eq_and]
    rfl
  · rw [← position]
    exact forward (Nat.zero_le k)
  · have start : Below (max segments.length (now.position + 1)) (now.countDown segments) := by
      constructor
      · rw [position]
        omega
      · intro _
        rw [position]
        omega
    exact (start.evaluated (Nat.le_max_left _ _) k).position

end SoundEffect.Interpreter
