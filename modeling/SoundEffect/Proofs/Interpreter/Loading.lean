import SoundEffect.Proofs.Interpreter.Timeline

namespace SoundEffect.Interpreter

open Timeline (Scheduled loadTick loadTick_le_endTick endTick_le_loadTick scheduled_after)

variable {segments : List Segment} {now next : Interpreter} {signal : EnvelopeSignal} {i t : Nat}

def departures (segments : List Segment) (now : Interpreter) : List Interpreter :=
  (now :: (passage segments now).map (·.1)).dropLast

theorem departures_of_delay_ne_zero (h : now.delay ≠ 0) : departures segments now = [] := by
  rw [departures, passage_of_delay_ne_zero h]
  rfl

theorem departures_of_delay_eq_zero (h : now.delay = 0) :
    departures segments now = now :: departures segments (now.transition segments).1 := by
  rw [departures, passage_of_delay_eq_zero h]
  rfl

theorem map_transition_departures (segments : List Segment) (now : Interpreter) :
    (departures segments now).map (·.transition segments) = passage segments now := by
  induction now using passage_induction segments with
  | settled now h => rw [departures_of_delay_ne_zero h, passage_of_delay_ne_zero h, List.map_nil]
  | due now h ih =>
      rw [departures_of_delay_eq_zero h, passage_of_delay_eq_zero h, List.map_cons, ih]

def Loads (segments : List Segment) (now : Interpreter) (i : Nat) : Prop :=
  ∃ departure ∈ departures segments (now.countDown segments),
    departure.state = .ready ∧ departure.position = i ∧ i < segments.length

def Loaded (segments : List Segment) (t i : Nat) : Prop :=
  ∃ u < t, Loads segments (after segments u) i

def Arrived (i : Nat) (now : Interpreter) : Prop :=
  i < now.position ∨ now.position = i ∧ (now.state = .playing ∨ now.state = .waiting)

theorem Step.arrived_iff (inside : i < segments.length) (step : Step segments now next signal) :
    Arrived i next ↔ Arrived i now ∨ now.state = .ready ∧ now.position = i := by
  cases step with
  | rest state => simp [Arrived, state]
  | clear state => simp [Arrived, state]
  | loadGated state here gated => simp [Arrived, state]
  | loadUngated state here ungated => simp [Arrived, state]
  | finish state past =>
      have := List.getElem?_eq_none_iff.mp past
      simp [Arrived, state]
      omega
  | release state here releases => simp [Arrived, state]
  | handOver state here held next => simp [Arrived, state]; omega
  | finishHeld state here held past => simp [Arrived, state]; omega
  | lost state past =>
      have := List.getElem?_eq_none_iff.mp past
      simp [Arrived, state]
      omega
  | separate state next gated => simp [Arrived, state]; omega
  | resume state next ungated => simp [Arrived, state]; omega
  | finishReleased state past => simp [Arrived, state]; omega

theorem arrived_settle_iff (inside : i < segments.length) (now : Interpreter) :
    Arrived i (settle segments now) ↔
      Arrived i now ∨
        ∃ departure ∈ departures segments now,
          departure.state = .ready ∧ departure.position = i := by
  induction now using passage_induction segments with
  | settled now h => simp [settle_of_delay_ne_zero h, departures_of_delay_ne_zero h]
  | due now h ih =>
      rw [settle_of_delay_eq_zero h, ih, (step_transition segments now).arrived_iff inside,
        departures_of_delay_eq_zero h, or_assoc]
      simp only [List.mem_cons, exists_eq_or_imp]

theorem arrived_tick_iff (inside : i < segments.length) (now : Interpreter) :
    Arrived i (now.tick segments).1 ↔ Arrived i now ∨ Loads segments now i := by
  rw [tick_fst, arrived_settle_iff inside]
  simp [Arrived, Loads, inside]

theorem loaded_iff_arrived (inside : i < segments.length) (t : Nat) :
    Loaded segments t i ↔ Arrived i (after segments t) := by
  induction t with
  | zero => simp [Loaded, Arrived, initial]
  | succ t ih =>
      rw [after_succ, arrived_tick_iff inside, ← ih]
      constructor
      · rintro ⟨u, before, loads⟩
        rcases Nat.lt_succ_iff_lt_or_eq.mp before with earlier | rfl
        · exact .inl ⟨u, earlier, loads⟩
        · exact .inr loads
      · rintro (⟨u, before, loads⟩ | loads)
        · exact ⟨u, Nat.lt_succ_of_lt before, loads⟩
        · exact ⟨t, Nat.lt_succ_self t, loads⟩

theorem arrived_iff_of_scheduled (scheduled : Scheduled segments t now)
    (pending : 0 < now.delay.toNat) (inside : i < segments.length) :
    Arrived i now ↔ loadTick segments i ≤ t := by
  obtain ⟨bounded, passed⟩ := scheduled.endTick_le_iff pending
  constructor
  · rintro (before | ⟨rfl, playing | waiting⟩)
    · exact Nat.le_trans (loadTick_le_endTick i) ((passed i inside).mpr before)
    · obtain ⟨segment, -, -, loaded, -⟩ := scheduled.of_playing playing
      exact loaded
    · obtain ⟨segment, -, -, loaded, -⟩ := scheduled.of_waiting waiting
      exact Nat.le_of_add_right_le loaded
  · intro loaded
    rcases Nat.lt_trichotomy now.position i with before | rfl | past
    · have ended := Nat.le_trans (endTick_le_loadTick before) loaded
      exact absurd ((passed _ (Nat.lt_trans before inside)).mp ended) (Nat.lt_irrefl _)
    · exact .inr ⟨rfl, scheduled.state_of_loaded inside loaded pending⟩
    · exact .inl past

theorem loaded_iff_loadTick_le (inside : i < segments.length) (t : Nat) :
    Loaded segments t i ↔ loadTick segments i ≤ t := by
  obtain ⟨scheduled, pending⟩ := scheduled_after segments t
  rw [loaded_iff_arrived inside, arrived_iff_of_scheduled scheduled pending inside]

theorem exists_playing_iff (segments : List Segment) (t : Nat) :
    (∃ u, 1 ≤ u ∧ u ≤ t ∧ (after segments u).state = .playing) ↔
      ∃ i segment, segments[i]? = some segment ∧ segment.gated = true ∧
        1 ≤ segment.gateTicks.toNat ∧ Loaded segments t i := by
  constructor
  · rintro ⟨u, -, early, state⟩
    obtain ⟨scheduled, pending⟩ := scheduled_after segments u
    obtain ⟨i, segment, here, gated, loaded, held, -⟩ :=
      (scheduled.playing_iff pending _).mp ⟨state, rfl⟩
    have inside := (List.getElem?_eq_some_iff.mp here).1
    exact ⟨i, segment, here, gated, by omega,
      (loaded_iff_loadTick_le inside t).mpr (Nat.le_trans loaded early)⟩
  · rintro ⟨i, segment, here, gated, held, loaded⟩
    have inside := (List.getElem?_eq_some_iff.mp here).1
    have first : 1 ≤ loadTick segments i := Timeline.loadTick_mono (Nat.zero_le i)
    obtain ⟨scheduled, pending⟩ := scheduled_after segments (loadTick segments i)
    have playing := (scheduled.playing_iff pending segment.gateTicks.toNat).mpr
      ⟨i, segment, here, gated, Nat.le_refl _, by omega, by omega⟩
    exact ⟨_, first, (loaded_iff_loadTick_le inside t).mp loaded, playing.1⟩

end SoundEffect.Interpreter
