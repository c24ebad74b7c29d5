import SoundEffect.Proofs.Interpreter.Settling

namespace SoundEffect

namespace Segment

open Interpreter (toNat_pos toNat_sub_one)

def occupancy (segment : Segment) : Nat :=
  if segment.gated then
    if segment.releaseTicks = 0 then segment.gateTicks.toNat
    else segment.gateTicks.toNat + segment.releaseTicks.toNat - 1
  else segment.releaseTicks.toNat

def gateSpan (segment : Segment) : Nat :=
  if segment.gated then segment.gateTicks.toNat else 0

def endsReleased (segment : Segment) : Bool :=
  !segment.gated || segment.releaseTicks ≠ 0

theorem gateSpan_le_occupancy (segment : Segment) : segment.gateSpan ≤ segment.occupancy := by
  have released : segment.releaseTicks ≠ 0 → 0 < segment.releaseTicks.toNat := toNat_pos
  simp only [gateSpan, occupancy]
  repeat' split
  all_goals grind

theorem gateSpan_of_gated {segment : Segment} (gated : segment.gated = true) :
    segment.gateSpan = segment.gateTicks.toNat := by
  simp [gateSpan, gated]

theorem gateSpan_of_ungated {segment : Segment} (ungated : segment.gated = false) :
    segment.gateSpan = 0 := by
  simp [gateSpan, ungated]

theorem gateTicks_le_occupancy {segment : Segment} (gated : segment.gated = true) :
    segment.gateTicks.toNat ≤ segment.occupancy :=
  gateSpan_of_gated gated ▸ segment.gateSpan_le_occupancy

theorem occupancy_of_held {segment : Segment} (gated : segment.gated = true)
    (held : segment.releaseTicks = 0) : segment.occupancy = segment.gateTicks.toNat := by
  simp [occupancy, gated, held]

theorem occupancy_of_released {segment : Segment} (gated : segment.gated = true)
    (releases : segment.releaseTicks ≠ 0) :
    segment.occupancy = segment.gateTicks.toNat + (segment.releaseTicks - 1).toNat := by
  have := toNat_pos releases
  rw [toNat_sub_one releases]
  simp only [occupancy, gated, releases, if_true, if_false]
  omega

theorem occupancy_of_ungated {segment : Segment} (ungated : segment.gated = false) :
    segment.occupancy = segment.releaseTicks.toNat := by
  simp [occupancy, ungated]

end Segment

namespace Timeline

open Interpreter Segment

variable (segments : List Segment)

def occupied (i : Nat) : Nat :=
  (segments[i]?.map Segment.occupancy).getD 0

def gap (i : Nat) : Nat :=
  match segments[i]?, segments[i + 1]? with
  | some segment, some following => if segment.endsReleased && following.gated then 1 else 0
  | some _, none => 1
  | none, _ => 0

def loadTick : Nat → Nat
  | 0 => 1
  | i + 1 => loadTick i + occupied segments i + gap segments i

def endTick (i : Nat) : Nat :=
  loadTick segments i + occupied segments i

def idleTick : Nat :=
  endTick segments (segments.length - 1) + 1

variable {segments : List Segment}

theorem endTick_of_getElem? {i : Nat} {segment : Segment} (h : segments[i]? = some segment) :
    endTick segments i = loadTick segments i + segment.occupancy := by
  simp [endTick, occupied, h]

theorem loadTick_succ (i : Nat) :
    loadTick segments (i + 1) = endTick segments i + gap segments i := rfl

theorem loadTick_le_endTick (i : Nat) : loadTick segments i ≤ endTick segments i :=
  Nat.le_add_right _ _

theorem endTick_le_loadTick {i j : Nat} (h : i < j) :
    endTick segments i ≤ loadTick segments j := by
  induction j with
  | zero => exact absurd h (Nat.not_lt_zero i)
  | succ j ih =>
      rw [loadTick_succ]
      rcases Nat.lt_succ_iff_lt_or_eq.mp h with h | rfl
      · have := ih h
        have := @loadTick_le_endTick segments j
        omega
      · exact Nat.le_add_right _ _

theorem endTick_mono {i j : Nat} (h : i ≤ j) : endTick segments i ≤ endTick segments j := by
  rcases Nat.lt_or_eq_of_le h with h | rfl
  · exact Nat.le_trans (endTick_le_loadTick h) (loadTick_le_endTick j)
  · exact Nat.le_refl _

theorem loadTick_mono {i j : Nat} (h : i ≤ j) : loadTick segments i ≤ loadTick segments j := by
  rcases Nat.lt_or_eq_of_le h with h | rfl
  · exact Nat.le_trans (loadTick_le_endTick i) (endTick_le_loadTick h)
  · exact Nat.le_refl _

theorem loadTick_length (h : segments ≠ []) :
    loadTick segments segments.length = idleTick segments := by
  obtain ⟨n, hn⟩ : ∃ n, segments.length = n + 1 :=
    ⟨segments.length - 1, by have := List.length_pos_iff.mpr h; omega⟩
  simp [hn, idleTick, loadTick_succ, gap]

/-- Where a run is after a number of ticks. A pending delay of zero is a tick that has not settled
yet, so this holds between the transitions of a tick as well as after it. -/
inductive Scheduled (segments : List Segment) (t : Nat) (now : Interpreter) : Prop
  | ready (state : now.state = .ready) (bounded : now.position ≤ segments.length)
      (passed : ∀ i < now.position, endTick segments i ≤ t)
      (due : loadTick segments now.position = t + now.delay.toNat)
      (short : now.delay.toNat ≤ 1)
  | playing {segment} (state : now.state = .playing)
      (here : segments[now.position]? = some segment) (gated : segment.gated = true)
      (loaded : loadTick segments now.position ≤ t)
      (due : loadTick segments now.position + segment.gateTicks.toNat = t + now.delay.toNat)
  | waiting {segment} (state : now.state = .waiting)
      (here : segments[now.position]? = some segment) (released : segment.endsReleased = true)
      (loaded : loadTick segments now.position + segment.gateSpan ≤ t)
      (due : endTick segments now.position = t + now.delay.toNat)
  | resetZero (state : now.state = .resetZero) (bounded : now.position ≤ segments.length)
      (passed : ∀ i < now.position, endTick segments i ≤ t)
      (due : loadTick segments now.position = t + 1) (settling : now.delay.toNat = 0)
  | idle (state : now.state = .idle) (past : now.position = segments.length)
      (due : loadTick segments segments.length ≤ t) (short : now.delay.toNat ≤ 1)

variable {t : Nat} {now : Interpreter}

theorem Scheduled.of_ready (h : Scheduled segments t now) (state : now.state = .ready) :
    now.position ≤ segments.length ∧ (∀ i < now.position, endTick segments i ≤ t) ∧
      loadTick segments now.position = t + now.delay.toNat ∧ now.delay.toNat ≤ 1 := by
  cases h <;> simp_all

theorem Scheduled.of_playing (h : Scheduled segments t now) (state : now.state = .playing) :
    ∃ segment, segments[now.position]? = some segment ∧ segment.gated = true ∧
      loadTick segments now.position ≤ t ∧
      loadTick segments now.position + segment.gateTicks.toNat = t + now.delay.toNat := by
  cases h <;> simp_all

theorem Scheduled.of_waiting (h : Scheduled segments t now) (state : now.state = .waiting) :
    ∃ segment, segments[now.position]? = some segment ∧ segment.endsReleased = true ∧
      loadTick segments now.position + segment.gateSpan ≤ t ∧
      endTick segments now.position = t + now.delay.toNat := by
  cases h <;> simp_all

theorem Scheduled.of_resetZero (h : Scheduled segments t now) (state : now.state = .resetZero) :
    now.position ≤ segments.length ∧ (∀ i < now.position, endTick segments i ≤ t) ∧
      loadTick segments now.position = t + 1 := by
  cases h <;> simp_all

theorem Scheduled.of_idle (h : Scheduled segments t now) (state : now.state = .idle) :
    now.position = segments.length ∧ loadTick segments segments.length ≤ t ∧
      now.delay.toNat ≤ 1 := by
  cases h <;> simp_all

theorem passed_succ {p : Nat} (ended : endTick segments p ≤ t) :
    ∀ i < p + 1, endTick segments i ≤ t :=
  fun _ hi => Nat.le_trans (endTick_mono (Nat.le_of_lt_succ hi)) ended

theorem Scheduled.of_straight {p : Nat} (state : now.state = .ready)
    (position : now.position = p + 1) (settling : now.delay.toNat = 0)
    (inside : p < segments.length) (ended : endTick segments p = t)
    (straight : gap segments p = 0) : Scheduled segments t now := by
  have due := @loadTick_succ segments p
  refine .ready state ?_ ?_ ?_ (by omega)
  · rw [position]
    exact inside
  · rw [position]
    exact passed_succ (Nat.le_of_eq ended)
  · rw [position, due]
    omega

theorem Scheduled.of_separated {p : Nat} (state : now.state = .resetZero)
    (position : now.position = p + 1) (settling : now.delay.toNat = 0)
    (inside : p < segments.length) (ended : endTick segments p = t)
    (separated : gap segments p = 1) : Scheduled segments t now := by
  have due := @loadTick_succ segments p
  refine .resetZero state ?_ ?_ ?_ settling
  · rw [position]
    exact inside
  · rw [position]
    exact passed_succ (Nat.le_of_eq ended)
  · rw [position, due]
    omega

theorem Scheduled.endTick_of_held {segment : Segment} (h : Scheduled segments t now)
    (state : now.state = .playing) (here : segments[now.position]? = some segment)
    (held : segment.releaseTicks = 0) (settling : now.delay.toNat = 0) :
    segment.gated = true ∧ endTick segments now.position = t := by
  obtain ⟨other, here', gated, -, due⟩ := h.of_playing state
  obtain rfl := Option.some.inj (here.symm.trans here')
  have ends := endTick_of_getElem? here
  rw [occupancy_of_held gated held] at ends
  exact ⟨gated, by omega⟩

theorem Scheduled.loadGated {segment : Segment} (h : Scheduled segments t now)
    (settling : now.delay.toNat = 0) (state : now.state = .ready)
    (here : segments[now.position]? = some segment) (gated : segment.gated = true)
    (voice : Voice) :
    Scheduled segments t ⟨.playing, now.position, segment.gateTicks, voice⟩ := by
  obtain ⟨-, -, due, -⟩ := h.of_ready state
  exact .playing rfl here gated (by simp only; omega) (by simp only; omega)

theorem Scheduled.loadUngated {segment : Segment} (h : Scheduled segments t now)
    (settling : now.delay.toNat = 0) (state : now.state = .ready)
    (here : segments[now.position]? = some segment) (ungated : segment.gated = false)
    (voice : Voice) :
    Scheduled segments t ⟨.waiting, now.position, segment.releaseTicks, voice⟩ := by
  obtain ⟨-, -, due, -⟩ := h.of_ready state
  have span := gateSpan_of_ungated ungated
  have ends := endTick_of_getElem? here
  rw [occupancy_of_ungated ungated] at ends
  exact .waiting rfl here (by simp [Segment.endsReleased, ungated])
    (by simp only; omega) (by simp only; omega)

theorem Scheduled.finish (h : Scheduled segments t now) (settling : now.delay.toNat = 0)
    (state : now.state = .ready) (past : segments[now.position]? = none) :
    Scheduled segments t { now with state := .idle } := by
  obtain ⟨bounded, -, due, -⟩ := h.of_ready state
  have last : now.position = segments.length :=
    Nat.le_antisymm bounded (List.getElem?_eq_none_iff.mp past)
  rw [last] at due
  exact .idle rfl last (by omega) (by simp only; omega)

theorem Scheduled.release {segment : Segment} (h : Scheduled segments t now)
    (settling : now.delay.toNat = 0) (state : now.state = .playing)
    (here : segments[now.position]? = some segment) (releases : segment.releaseTicks ≠ 0)
    (voice : Voice) :
    Scheduled segments t ⟨.waiting, now.position, segment.releaseTicks - 1, voice⟩ := by
  obtain ⟨other, here', gated, loaded, due⟩ := h.of_playing state
  obtain rfl := Option.some.inj (here.symm.trans here')
  have span := gateSpan_of_gated gated
  have ends := endTick_of_getElem? here
  rw [occupancy_of_released gated releases] at ends
  exact .waiting rfl here (by simp [Segment.endsReleased, releases])
    (by simp only; omega) (by simp only; omega)

theorem Scheduled.separated_of_held {segment : Segment} (h : Scheduled segments t now)
    (settling : now.delay.toNat = 0) (state : now.state = .playing)
    (here : segments[now.position]? = some segment) (held : segment.releaseTicks = 0)
    (past : segments[now.position + 1]? = none) :
    Scheduled segments t { now with state := .resetZero, position := now.position + 1 } := by
  obtain ⟨-, ended⟩ := h.endTick_of_held state here held settling
  have inside := (List.getElem?_eq_some_iff.mp here).1
  exact .of_separated rfl rfl settling inside ended (by simp only [gap, here, past])

theorem Scheduled.straight_of_held {segment following : Segment} (h : Scheduled segments t now)
    (settling : now.delay.toNat = 0) (state : now.state = .playing)
    (here : segments[now.position]? = some segment) (held : segment.releaseTicks = 0)
    (next : segments[now.position + 1]? = some following) :
    Scheduled segments t { now with state := .ready, position := now.position + 1 } := by
  obtain ⟨gated, ended⟩ := h.endTick_of_held state here held settling
  have inside := (List.getElem?_eq_some_iff.mp here).1
  exact .of_straight rfl rfl settling inside ended (by
    simp [gap, here, next, Segment.endsReleased, gated, held])

theorem Scheduled.endTick_of_released (h : Scheduled segments t now)
    (settling : now.delay.toNat = 0) (state : now.state = .waiting) :
    ∃ segment, segments[now.position]? = some segment ∧ segment.endsReleased = true ∧
      now.position < segments.length ∧ endTick segments now.position = t := by
  obtain ⟨segment, here, released, -, due⟩ := h.of_waiting state
  exact ⟨segment, here, released, (List.getElem?_eq_some_iff.mp here).1, due.trans (by omega)⟩

theorem Scheduled.step {next : Interpreter} {signal : EnvelopeSignal}
    (settling : now.delay = 0) (step : Step segments now next signal)
    (h : Scheduled segments t now) : Scheduled segments t next := by
  have settling : now.delay.toNat = 0 := by rw [settling]; rfl
  cases step with
  | rest state =>
      obtain ⟨past, due, -⟩ := h.of_idle state
      exact .idle rfl past due (Nat.le_refl 1)
  | clear state =>
      obtain ⟨bounded, passed, due⟩ := h.of_resetZero state
      exact .ready rfl bounded passed due (Nat.le_refl 1)
  | loadGated state here gated => exact h.loadGated settling state here gated _
  | loadUngated state here ungated => exact h.loadUngated settling state here ungated _
  | finish state past => exact h.finish settling state past
  | release state here releases => exact h.release settling state here releases _
  | handOver state here held next => exact h.straight_of_held settling state here held next
  | finishHeld state here held past => exact h.separated_of_held settling state here held past
  | lost state past =>
      obtain ⟨segment, here, -⟩ := h.of_playing state
      exact absurd here (by simp [past])
  | separate state next gated =>
      obtain ⟨segment, here, released, inside, ended⟩ := h.endTick_of_released settling state
      exact .of_separated rfl rfl settling inside ended (by
        simp [gap, here, next, released, gated])
  | resume state next ungated =>
      obtain ⟨segment, here, -, inside, ended⟩ := h.endTick_of_released settling state
      exact .of_straight rfl rfl settling inside ended (by simp [gap, here, next, ungated])
  | finishReleased state past =>
      obtain ⟨segment, here, -, inside, ended⟩ := h.endTick_of_released settling state
      exact .of_separated rfl rfl settling inside ended (by simp only [gap, here, past])

theorem Scheduled.countDown (pending : 0 < now.delay.toNat) (h : Scheduled segments t now) :
    Scheduled segments (t + 1) (now.countDown segments) := by
  cases h with
  | ready state bounded passed due short =>
      exact .ready (by simp [state]) (by simpa using bounded)
        (fun i hi => Nat.le_succ_of_le (passed i (by simpa using hi))) (by simp; omega)
        (by simp; omega)
  | playing state here gated loaded due =>
      exact .playing (by simp [state]) (by simpa using here) gated (by simp; omega)
        (by simp; omega)
  | waiting state here released loaded due =>
      exact .waiting (by simp [state]) (by simpa using here) released (by simp; omega)
        (by simp; omega)
  | resetZero state bounded passed due settling => omega
  | idle state past due short =>
      exact .idle (by simp [state]) (by simpa using past) (by omega) (by simp; omega)

theorem scheduled_after (segments : List Segment) (t : Nat) :
    Scheduled segments t (after segments t) ∧ 0 < (after segments t).delay.toNat := by
  induction t with
  | zero =>
      exact ⟨.ready rfl (Nat.zero_le _) (by simp [initial]) rfl (Nat.le_refl 1), by simp [initial]⟩
  | succ t ih =>
      exact ⟨tick_invariant (fun _ _ _ settling step h => h.step settling step)
        (ih.1.countDown ih.2), tick_delay_pos segments _⟩

theorem Scheduled.endTick_le_iff (h : Scheduled segments t now) (pending : 0 < now.delay.toNat) :
    now.position ≤ segments.length ∧
      ∀ i < segments.length, endTick segments i ≤ t ↔ i < now.position := by
  have split_at (passed : ∀ i < now.position, endTick segments i ≤ t)
      (current : t < endTick segments now.position) (i : Nat) :
      endTick segments i ≤ t ↔ i < now.position := by
    refine ⟨fun ended => Nat.lt_of_not_le fun hi => ?_, passed i⟩
    have := @endTick_mono segments _ _ hi
    omega
  cases h with
  | ready state bounded passed due _ =>
      have := @loadTick_le_endTick segments now.position
      exact ⟨bounded, fun i _ => split_at passed (by omega) i⟩
  | @playing segment state here gated loaded due =>
      have span := gateTicks_le_occupancy gated
      have ends := endTick_of_getElem? here
      refine ⟨Nat.le_of_lt (List.getElem?_eq_some_iff.mp here).1, fun i _ => split_at ?_ ?_ i⟩
      · exact fun i hi => Nat.le_trans (endTick_le_loadTick hi) loaded
      · omega
  | waiting state here released loaded due =>
      refine ⟨Nat.le_of_lt (List.getElem?_eq_some_iff.mp here).1, fun i _ => split_at ?_ ?_ i⟩
      · exact fun i hi => Nat.le_trans (endTick_le_loadTick hi) (by omega)
      · omega
  | resetZero state bounded passed due settling => omega
  | idle state past due short =>
      refine ⟨Nat.le_of_eq past, fun i hi => ⟨fun _ => past ▸ hi, fun _ => ?_⟩⟩
      exact Nat.le_trans (endTick_le_loadTick hi) due

theorem Scheduled.position_eq (h : Scheduled segments t now) (pending : 0 < now.delay.toNat)
    {i : Nat} (bounded : i < segments.length) (loaded : loadTick segments i ≤ t)
    (current : t < endTick segments i) : now.position = i := by
  obtain ⟨-, passed⟩ := h.endTick_le_iff pending
  have not_before : ¬ i < now.position := fun hi => by
    have := (passed i bounded).mpr hi
    omega
  have not_after : ¬ now.position < i := fun hi => by
    have ended := Nat.le_trans (@endTick_le_loadTick segments _ _ hi) loaded
    have := (passed now.position (Nat.lt_trans hi bounded)).mp ended
    omega
  omega

theorem Scheduled.state_of_loaded (h : Scheduled segments t now)
    (bounded : now.position < segments.length)
    (loaded : loadTick segments now.position ≤ t) (pending : 0 < now.delay.toNat) :
    now.state = .playing ∨ now.state = .waiting := by
  cases h with
  | ready _ _ _ due => omega
  | playing state => exact .inl state
  | waiting state => exact .inr state
  | resetZero _ _ _ _ settling => omega
  | idle _ past => omega

theorem Scheduled.playing_iff (h : Scheduled segments t now) (pending : 0 < now.delay.toNat)
    (d : Nat) :
    now.state = .playing ∧ now.delay.toNat = d ↔
      ∃ i segment, segments[i]? = some segment ∧ segment.gated = true ∧
        loadTick segments i ≤ t ∧ t < loadTick segments i + segment.gateTicks.toNat ∧
        d = loadTick segments i + segment.gateTicks.toNat - t := by
  constructor
  · rintro ⟨state, rfl⟩
    obtain ⟨segment, here, gated, loaded, due⟩ := h.of_playing state
    exact ⟨now.position, segment, here, gated, loaded, by omega, by omega⟩
  · rintro ⟨i, segment, here, gated, loaded, current, rfl⟩
    have bounded := (List.getElem?_eq_some_iff.mp here).1
    have span := gateTicks_le_occupancy gated
    have ends := endTick_of_getElem? here
    obtain rfl := h.position_eq pending bounded loaded (by omega)
    rcases h.state_of_loaded bounded loaded pending with state | state
    · obtain ⟨other, here', -, -, due⟩ := h.of_playing state
      obtain rfl := Option.some.inj (here.symm.trans here')
      exact ⟨state, by omega⟩
    · obtain ⟨other, here', -, released, -⟩ := h.of_waiting state
      obtain rfl := Option.some.inj (here.symm.trans here')
      rw [gateSpan_of_gated gated] at released
      omega

theorem Scheduled.waiting_iff (h : Scheduled segments t now) (pending : 0 < now.delay.toNat)
    (d : Nat) :
    now.state = .waiting ∧ now.delay.toNat = d ↔
      ∃ i segment, segments[i]? = some segment ∧ segment.endsReleased = true ∧
        loadTick segments i + segment.gateSpan ≤ t ∧ t < endTick segments i ∧
        d = endTick segments i - t := by
  constructor
  · rintro ⟨state, rfl⟩
    obtain ⟨segment, here, released, loaded, due⟩ := h.of_waiting state
    exact ⟨now.position, segment, here, released, loaded, by omega, by omega⟩
  · rintro ⟨i, segment, here, released, loaded, current, rfl⟩
    have bounded := (List.getElem?_eq_some_iff.mp here).1
    obtain rfl := h.position_eq pending bounded (by omega) current
    rcases h.state_of_loaded bounded (by omega) pending with state | state
    · obtain ⟨other, here', gated, -, due⟩ := h.of_playing state
      obtain rfl := Option.some.inj (here.symm.trans here')
      rw [gateSpan_of_gated gated] at loaded
      omega
    · obtain ⟨other, here', -, -, due⟩ := h.of_waiting state
      exact ⟨state, by omega⟩

theorem Scheduled.idle_iff (h : Scheduled segments t now) (pending : 0 < now.delay.toNat) :
    now.state = .idle ↔ loadTick segments segments.length ≤ t := by
  refine ⟨fun state => (h.of_idle state).2.1, fun past => ?_⟩
  cases h with
  | ready _ bounded _ due =>
      have := @loadTick_mono segments _ _ bounded
      omega
  | playing state here gated _ due =>
      have span := gateTicks_le_occupancy gated
      have := @endTick_le_loadTick segments _ _ (List.getElem?_eq_some_iff.mp here).1
      have := endTick_of_getElem? here
      omega
  | waiting _ here _ _ due =>
      have := @endTick_le_loadTick segments _ _ (List.getElem?_eq_some_iff.mp here).1
      omega
  | resetZero _ _ _ _ settling => omega
  | idle state => exact state

theorem tick_of_idle (state : now.state = .idle) (delay : now.delay = 1)
    (past : now.position = segments.length) : (now.tick segments).1 = now := by
  have counted : now.countDown segments = { now with delay := 0 } := by
    simp [countDown, past, delay]
  have moved : ({ now with delay := 0 } : Interpreter).transition segments = (now, .plain) := by
    simp only [transition, state, ← delay]
    rw [← state]
  rw [tick_fst, counted, settle_of_delay_eq_zero rfl, moved,
    settle_of_delay_ne_zero (by simp [delay])]

theorem after_of_idle (past : loadTick segments segments.length ≤ t) (later : Nat) :
    after segments (t + later) = after segments t := by
  obtain ⟨h, pending⟩ := scheduled_after segments t
  have state := (h.idle_iff pending).mpr past
  obtain ⟨last, -, short⟩ := h.of_idle state
  have delay : (after segments t).delay = 1 := UInt8.toNat_inj.mp (by simp; omega)
  induction later with
  | zero => rfl
  | succ n ih => rw [← Nat.add_assoc, after_succ, ih, tick_of_idle state delay last]

theorem Scheduled.position_eq_countP (h : Scheduled segments t now)
    (pending : 0 < now.delay.toNat) :
    now.position = (List.range segments.length).countP fun i => endTick segments i ≤ t := by
  obtain ⟨bounded, passed⟩ := h.endTick_le_iff pending
  obtain ⟨rest, length⟩ := Nat.exists_eq_add_of_le bounded
  rw [length] at passed
  have before : (List.range now.position).countP (fun i => endTick segments i ≤ t) =
      (List.range now.position).length :=
    List.countP_eq_length.mpr fun i hi => by
      have hi := List.mem_range.mp hi
      simpa using (passed i (by omega)).mpr hi
  have behind : ((List.range rest).map (now.position + ·)).countP
      (fun i => endTick segments i ≤ t) = 0 :=
    List.countP_eq_zero.mpr fun i hi => by
      obtain ⟨j, hj, rfl⟩ := List.mem_map.mp hi
      have hj := List.mem_range.mp hj
      have := passed (now.position + j) (by omega)
      simp
      omega
  rw [length, List.range_add, List.countP_append, before, behind, List.length_range, Nat.add_zero]

theorem releaseWindow_iff {i : Nat} {segment : Segment} (here : segments[i]? = some segment)
    (d : Nat) :
    segment.endsReleased = true ∧ loadTick segments i + segment.gateSpan ≤ t ∧
        t < endTick segments i ∧ d = endTick segments i - t ↔
      segment.gated = true ∧ segment.releaseTicks ≠ 0 ∧
          loadTick segments i + segment.gateTicks.toNat ≤ t ∧
          t < loadTick segments i + segment.gateTicks.toNat + segment.releaseTicks.toNat - 1 ∧
          d = loadTick segments i + segment.gateTicks.toNat + segment.releaseTicks.toNat - 1 - t ∨
        segment.gated = false ∧ loadTick segments i ≤ t ∧
          t < loadTick segments i + segment.releaseTicks.toNat ∧
          d = loadTick segments i + segment.releaseTicks.toNat - t := by
  rw [endTick_of_getElem? here]
  cases gated : segment.gated with
  | false => simp [endsReleased, gated, gateSpan_of_ungated gated, occupancy_of_ungated gated]
  | true =>
      by_cases held : segment.releaseTicks = 0
      · simp [endsReleased, gated, held]
      · have positive := toNat_pos held
        have whole :
            loadTick segments i + segment.gateTicks.toNat + segment.releaseTicks.toNat - 1 =
            loadTick segments i + (segment.gateTicks.toNat + (segment.releaseTicks.toNat - 1)) := by
          omega
        rw [gateSpan_of_gated gated, occupancy_of_released gated held, toNat_sub_one held, whole]
        simp [endsReleased, held]

structure OnTimeline (segments : List Segment) (run : Nat → Interpreter) (t : Nat) : Prop where
  position :
    (run t).position = (List.range segments.length).countP fun i => endTick segments i ≤ t
  playing (d : Nat) :
    (run t).state = .playing ∧ (run t).delay.toNat = d ↔
      ∃ i segment, segments[i]? = some segment ∧ segment.gated = true ∧
        loadTick segments i ≤ t ∧ t < loadTick segments i + segment.gateTicks.toNat ∧
        d = loadTick segments i + segment.gateTicks.toNat - t
  waiting (d : Nat) :
    (run t).state = .waiting ∧ (run t).delay.toNat = d ↔
      ∃ i segment, segments[i]? = some segment ∧
        (segment.gated = true ∧ segment.releaseTicks ≠ 0 ∧
            loadTick segments i + segment.gateTicks.toNat ≤ t ∧
            t < loadTick segments i + segment.gateTicks.toNat + segment.releaseTicks.toNat - 1 ∧
            d = loadTick segments i + segment.gateTicks.toNat + segment.releaseTicks.toNat - 1 - t ∨
          segment.gated = false ∧ loadTick segments i ≤ t ∧
            t < loadTick segments i + segment.releaseTicks.toNat ∧
            d = loadTick segments i + segment.releaseTicks.toNat - t)
  idle : (run t).state = .idle ↔ idleTick segments ≤ t
  still : idleTick segments ≤ t → ∀ later, t ≤ later → run later = run t
  ready : (run t).state ≠ .playing → (run t).state ≠ .waiting → (run t).state ≠ .idle →
    (run t).state = .ready ∧ (run t).delay = 1

theorem after_onTimeline (segments : List Segment) (nonempty : segments ≠ []) (t : Nat) :
    OnTimeline segments (after segments) t := by
  obtain ⟨h, pending⟩ := scheduled_after segments t
  have last := loadTick_length nonempty
  refine ⟨h.position_eq_countP pending, h.playing_iff pending, fun d => ?_, ?_, ?_, ?_⟩
  · rw [h.waiting_iff pending d]
    exact exists_congr fun i => exists_congr fun segment =>
      and_congr_right fun here => releaseWindow_iff here d
  · rw [← last]
    exact h.idle_iff pending
  · intro finished later hl
    obtain ⟨n, rfl⟩ := Nat.exists_eq_add_of_le hl
    exact after_of_idle (last ▸ finished) n
  · intro not_playing not_waiting not_idle
    cases h with
    | ready state _ _ _ short => exact ⟨state, UInt8.toNat_inj.mp (by simp; omega)⟩
    | playing state => exact absurd state not_playing
    | waiting state => exact absurd state not_waiting
    | resetZero _ _ _ _ settling => omega
    | idle state => exact absurd state not_idle

theorem after_onTimeline_released :
    let segments := [{ Segment.base with gateTicks := 2, releaseTicks := 3 }, .base]
    segments ≠ [] ∧ OnTimeline segments (after segments) 4 ∧
      (after segments 4).state = .waiting ∧ (after segments 4).delay.toNat = 1 ∧
      (after segments 11).state = .idle := by
  intro segments
  have nonempty : segments ≠ [] := by simp [segments]
  refine ⟨nonempty, after_onTimeline segments nonempty 4, ?_, ?_, ?_⟩
  · exact (((after_onTimeline segments nonempty 4).waiting 1).mpr
      ⟨0, _, rfl, .inl (by decide)⟩).1
  · exact (((after_onTimeline segments nonempty 4).waiting 1).mpr
      ⟨0, _, rfl, .inl (by decide)⟩).2
  · exact (after_onTimeline segments nonempty 11).idle.mpr (by decide)

end Timeline

end SoundEffect
