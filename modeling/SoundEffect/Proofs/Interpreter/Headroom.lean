import SoundEffect.Proofs.Interpreter.Unbounded
import SoundEffect.Proofs.Segment.Ranges

namespace SoundEffect

namespace Segment

def destination (segment : Segment) (register : Register) : Int :=
  segment.reach register segment.glideSteps

theorem reach_within {segment : Segment} {register : Register} {limit : Int} {steps last : Nat}
    (start : 0 ≤ segment.reach register 0 ∧ segment.reach register 0 ≤ limit)
    (finish : 0 ≤ segment.reach register last ∧ segment.reach register last ≤ limit)
    (early : steps ≤ last) :
    0 ≤ segment.reach register steps ∧ segment.reach register steps ≤ limit := by
  rw [reach_zero] at start
  simp only [reach] at finish ⊢
  have early : (steps : Int) ≤ last := Int.ofNat_le.mpr early
  have first : (0 : Int) ≤ steps := Int.natCast_nonneg steps
  rcases Int.le_total 0 (segment.slope register).toInt with rising | falling
  · have below := Int.mul_le_mul_of_nonneg_right early rising
    have above := Int.mul_nonneg first rising
    omega
  · have above := Int.mul_le_mul_of_nonpos_right early falling
    have below := Int.mul_nonpos_of_nonneg_of_nonpos first falling
    omega

end Segment

namespace Interpreter

variable {segments : List Segment} {register : Register} {now next : Interpreter}
  {signal : EnvelopeSignal} {value : Int}

def toCome (now : Interpreter) (segment : Segment) : Nat :=
  match now.state with
  | .playing => (now.delay.toNat - 1) + (segment.releaseTicks.toNat - 2)
  | .waiting => now.delay.toNat - 1
  | _ => 0

theorem toCome_of_resting {segment : Segment}
    (resting : now.state ≠ .playing ∧ now.state ≠ .waiting) : toCome now segment = 0 := by
  cases state : now.state <;> simp_all [toCome]

theorem toCome_of_held {segment other : Segment} (state : now.state = .playing)
    (spent : now.delay.toNat = 0) (here : segments[now.position]? = some segment)
    (held : segment.releaseTicks = 0) (same : segments[now.position]? = some other) :
    toCome now other = 0 := by
  obtain rfl := Option.some.inj (here.symm.trans same)
  simp [toCome, state, spent, held]

inductive OnCourse (segments : List Segment) (register : Register) (now : Interpreter)
    (value : Int) : Prop
  | silent (resting : now.state ≠ .playing ∧ now.state ≠ .waiting) (nothing : value = 0)
  | gliding {segment steps} (current : now.state = .playing ∨ now.state = .waiting →
        segments[now.position]? = some segment)
      (member : segment ∈ segments) (left : steps + toCome now segment = segment.glideSteps)
      (reached : value = segment.reach register steps)

theorem OnCourse.of_loaded {segment : Segment} (here : segments[now.position]? = some segment)
    (whole : toCome now segment = segment.glideSteps) :
    OnCourse segments register now (segment.nominal register).toNat :=
  .gliding (fun _ => here) (List.mem_of_getElem? here) (Nat.zero_add _ ▸ whole)
    (segment.reach_zero register).symm

theorem OnCourse.leave (h : OnCourse segments register now value)
    (done : ∀ segment, segments[now.position]? = some segment → toCome now segment = 0)
    (resting : next.state ≠ .playing ∧ next.state ≠ .waiting) :
    OnCourse segments register next value := by
  cases h with
  | silent _ nothing => exact .silent resting nothing
  | @gliding segment steps current member left reached =>
      have spent : toCome now segment = 0 := by
        by_cases held : now.state = .playing ∨ now.state = .waiting
        · exact done segment (current held)
        · exact toCome_of_resting (not_or.mp held)
      refine .gliding (fun held => ?_) member ?_ reached
      · exact absurd held (not_or.mpr resting)
      · rw [toCome_of_resting resting, ← left, spent]

theorem OnCourse.step (settling : now.delay = 0) (step : Step segments now next signal)
    (h : OnCourse segments register now value) :
    OnCourse segments register next (loaded segments register now value) := by
  have spent : now.delay.toNat = 0 := by rw [settling]; rfl
  cases step with
  | rest state =>
      rw [loaded_of_not_ready (by simp [state])]
      exact h.leave (fun _ _ => toCome_of_resting (by simp [state])) (by simp)
  | clear state =>
      rw [loaded_of_not_ready (by simp [state])]
      exact h.leave (fun _ _ => toCome_of_resting (by simp [state])) (by simp)
  | loadGated state here gated =>
      rw [loaded_of_ready state here]
      exact .of_loaded here (by simp [toCome, Segment.glideSteps, gated])
  | loadUngated state here ungated =>
      rw [loaded_of_ready state here]
      exact .of_loaded here (by simp [toCome, Segment.glideSteps, ungated])
  | finish state past =>
      rw [loaded_of_past past]
      exact h.leave (fun _ _ => toCome_of_resting (by simp [state])) (by simp)
  | @release segment state here releases =>
      rw [loaded_of_not_ready (by simp [state])]
      cases h with
      | silent resting => exact absurd state resting.1
      | @gliding other steps current member left reached =>
          obtain rfl := Option.some.inj (here.symm.trans (current (.inl state)))
          refine .gliding (fun _ => here) member ?_ reached
          simp only [toCome, state, spent] at left
          simp only [toCome, toNat_sub_one releases]
          omega
  | handOver state here held next =>
      rw [loaded_of_not_ready (by simp [state])]
      exact h.leave (fun _ => toCome_of_held state spent here held) (by simp)
  | finishHeld state here held past =>
      rw [loaded_of_not_ready (by simp [state])]
      exact h.leave (fun _ => toCome_of_held state spent here held) (by simp)
  | lost state past =>
      rw [loaded_of_not_ready (by simp [state])]
      exact h.leave (fun segment same => by simp [past] at same) (by simp)
  | separate state next gated =>
      rw [loaded_of_not_ready (by simp [state])]
      exact h.leave (fun _ _ => by simp [toCome, state, spent]) (by simp)
  | resume state next ungated =>
      rw [loaded_of_not_ready (by simp [state])]
      exact h.leave (fun _ _ => by simp [toCome, state, spent]) (by simp)
  | finishReleased state past =>
      rw [loaded_of_not_ready (by simp [state])]
      exact h.leave (fun _ _ => by simp [toCome, state, spent]) (by simp)

theorem toCome_countDown (now : Interpreter) (segment : Segment)
    (held : now.state = .playing ∨ now.state = .waiting) :
    toCome (now.countDown segments) segment =
      if 1 < now.delay.toNat then toCome now segment - 1 else toCome now segment := by
  rcases held with state | state
  · simp only [toCome, countDown_state, toNat_countDown_delay, state]
    split <;> omega
  · simp only [toCome, countDown_state, toNat_countDown_delay, state]
    split <;> omega

theorem OnCourse.countDown
    (short : now.state ≠ .playing ∧ now.state ≠ .waiting → now.delay.toNat ≤ 1)
    (h : OnCourse segments register now value) :
    OnCourse segments register (now.countDown segments)
      (glided segments register now value) := by
  cases h with
  | silent resting nothing =>
      rw [glided_of_last (short resting)]
      exact .silent (by simpa using resting) nothing
  | @gliding segment steps current member left reached =>
      by_cases held : now.state = .playing ∨ now.state = .waiting
      · have passed := @toCome_countDown segments now segment held
        by_cases pending : 1 < now.delay.toNat
        · rw [glided_of_pending (current held) pending, reached, ← Segment.reach_succ]
          refine .gliding (by simpa using current) member ?_ rfl
          have glides : 1 ≤ toCome now segment := by
            rcases held with state | state <;> simp only [toCome, state] <;> omega
          rw [passed, if_pos pending]
          omega
        · rw [glided_of_last (Nat.not_lt.mp pending)]
          exact .gliding (by simpa using current) member (by rwa [passed, if_neg pending]) reached
      · have resting := not_or.mp held
        rw [glided_of_last (short resting)]
        refine .gliding (by simpa using current) member ?_ reached
        rwa [toCome_of_resting (by simpa using resting), ← toCome_of_resting resting]

theorem onCourse_after (segments : List Segment) (register : Register) (t : Nat) :
    OnCourse segments register (after segments t) (unbounded segments register t) := by
  refine after_unbounded_invariant ?_ ?_ ?_ t
  · exact .silent (by simp [initial]) rfl
  · intro t value h
    refine h.countDown fun resting => ?_
    apply Nat.le_of_eq
    apply delay_after_of_resting
    have settled := state_after_ne_resetZero segments t
    cases state : (after segments t).state <;> simp_all
  · exact fun _ _ _ _ settling step h => h.step settling step

theorem exists_waiting {i : Nat} {segment : Segment} (here : segments[i]? = some segment)
    (released : segment.endsReleased = true) (window : segment.gateSpan < segment.occupancy) :
    ∃ t, (after segments t).position = i ∧ (after segments t).state = .waiting ∧
      (after segments t).delay.toNat = 1 := by
  have ends := Timeline.endTick_of_getElem? here
  obtain ⟨scheduled, pending⟩ := Timeline.scheduled_after segments (Timeline.endTick segments i - 1)
  obtain ⟨state, delay⟩ := (scheduled.waiting_iff pending 1).mpr
    ⟨i, segment, here, released, by omega, by omega, by omega⟩
  have inside := (List.getElem?_eq_some_iff.mp here).1
  exact ⟨_, scheduled.position_eq pending inside (by omega) (by omega), state, delay⟩

theorem exists_playing {i : Nat} {segment : Segment} (here : segments[i]? = some segment)
    (gated : segment.gated = true) (window : 0 < segment.gateTicks.toNat) :
    ∃ t, (after segments t).position = i ∧ (after segments t).state = .playing ∧
      (after segments t).delay.toNat = 1 := by
  have ends := Timeline.endTick_of_getElem? here
  have held := Segment.gateTicks_le_occupancy gated
  obtain ⟨scheduled, pending⟩ := Timeline.scheduled_after segments
    (Timeline.loadTick segments i + segment.gateTicks.toNat - 1)
  obtain ⟨state, delay⟩ := (scheduled.playing_iff pending 1).mpr
    ⟨i, segment, here, gated, by omega, by omega, by omega⟩
  have inside := (List.getElem?_eq_some_iff.mp here).1
  exact ⟨_, scheduled.position_eq pending inside (by omega) (by omega), state, delay⟩

theorem exists_glided {i : Nat} {segment : Segment} (here : segments[i]? = some segment)
    (glides : segment.glideSteps ≠ 0) :
    ∃ t, (after segments t).position = i ∧
      ((after segments t).state = .playing ∨ (after segments t).state = .waiting) ∧
      toCome (after segments t) segment = 0 := by
  cases gated : segment.gated with
  | true =>
      by_cases releases : 2 < segment.releaseTicks.toNat
      · have nonzero : segment.releaseTicks ≠ 0 := fun none => by simp [none] at releases
        have window := toNat_sub_one nonzero
        obtain ⟨t, position, state, delay⟩ := exists_waiting here
          (by simp [Segment.endsReleased, nonzero]) (by
            rw [Segment.gateSpan_of_gated gated, Segment.occupancy_of_released gated nonzero]
            omega)
        exact ⟨t, position, .inr state, by simp [toCome, state, delay]⟩
      · simp only [Segment.glideSteps, gated, if_true] at glides
        obtain ⟨t, position, state, delay⟩ := exists_playing here gated (by omega)
        refine ⟨t, position, .inl state, ?_⟩
        simp only [toCome, state, delay]
        omega
  | false =>
      simp only [Segment.glideSteps, gated, Bool.false_eq_true, if_false] at glides
      obtain ⟨t, position, state, delay⟩ := exists_waiting here
        (by simp [Segment.endsReleased, gated]) (by
          rw [Segment.gateSpan_of_ungated gated, Segment.occupancy_of_ungated gated]
          omega)
      exact ⟨t, position, .inr state, by simp [toCome, state, delay]⟩

theorem exists_destination {segment : Segment} (member : segment ∈ segments)
    (glides : segment.glideSteps ≠ 0) (register : Register) :
    ∃ t, unbounded segments register t = segment.destination register := by
  obtain ⟨i, here⟩ := List.mem_iff_getElem?.mp member
  obtain ⟨t, position, held, done⟩ := exists_glided here glides
  refine ⟨t, ?_⟩
  cases onCourse_after segments register t with
  | silent resting => exact absurd held (not_or.mpr resting)
  | @gliding other steps current member left reached =>
      have same := current held
      rw [position, here] at same
      obtain rfl := Option.some.inj same
      rw [reached, Segment.destination, ← left, done, Nat.add_zero]

theorem unbounded_within_iff {limit : Int} (natural : 0 ≤ limit)
    (loads : ∀ segment ∈ segments, ((segment.nominal register).toNat : Int) ≤ limit) :
    (∀ t, 0 ≤ unbounded segments register t ∧ unbounded segments register t ≤ limit) ↔
      ∀ segment ∈ segments,
        0 ≤ segment.destination register ∧ segment.destination register ≤ limit := by
  have start {segment : Segment} (member : segment ∈ segments) :
      0 ≤ segment.reach register 0 ∧ segment.reach register 0 ≤ limit := by
    rw [Segment.reach_zero]
    exact ⟨Int.natCast_nonneg _, loads segment member⟩
  constructor
  · intro within segment member
    by_cases still : segment.glideSteps = 0
    · rw [Segment.destination, still]
      exact start member
    · obtain ⟨t, arrived⟩ := exists_destination member still register
      rw [← arrived]
      exact within t
  · intro ends t
    cases onCourse_after segments register t with
    | silent resting nothing => exact ⟨Int.le_of_eq nothing.symm, nothing ▸ natural⟩
    | @gliding segment steps current member left reached =>
        rw [reached]
        exact Segment.reach_within (start member) (ends segment member) (by omega)

theorem exact_iff (t : Nat) :
    (((after segments t).voice.read register).toNat : Int) = unbounded segments register t ↔
      0 ≤ unbounded segments register t ∧ unbounded segments register t ≤ 65535 := by
  rw [toNat_read_after]
  omega

theorem foldl_loaded_cases (segments : List Segment) (register : Register)
    (departures : List Interpreter) (value : Int) :
    departures.foldl (fun value departure => loaded segments register departure value) value =
        value ∨
      ∃ segment ∈ segments,
        departures.foldl (fun value departure => loaded segments register departure value) value =
          (segment.nominal register).toNat := by
  induction departures generalizing value with
  | nil => exact .inl rfl
  | cons departure departures ih =>
      rw [List.foldl_cons]
      rcases ih (loaded segments register departure value) with same | loads
      · rw [same]
        by_cases state : departure.state = .ready
        · cases here : segments[departure.position]? with
          | none => exact .inl (loaded_of_past here)
          | some segment =>
              exact .inr ⟨segment, List.mem_of_getElem? here, loaded_of_ready state here⟩
        · exact .inl (loaded_of_not_ready state)
      · exact .inr loads

theorem glided_cases (segments : List Segment) (register : Register) (now : Interpreter)
    (value : Int) :
    glided segments register now value = value ∨
      ∃ segment ∈ segments,
        glided segments register now value = value + (segment.slope register).toInt := by
  by_cases pending : 1 < now.delay.toNat
  · cases here : segments[now.position]? with
    | none => exact .inl (by simp only [glided, here])
    | some segment =>
        exact .inr ⟨segment, List.mem_of_getElem? here, glided_of_pending here pending⟩
  · exact .inl (glided_of_last (Nat.not_lt.mp pending))

theorem read_within_iff {limit : Int} (natural : 0 ≤ limit) (wide : 2 * limit < 65536)
    (loads : ∀ segment ∈ segments, ((segment.nominal register).toNat : Int) ≤ limit)
    (short : ∀ segment ∈ segments,
      -limit ≤ (segment.slope register).toInt ∧ (segment.slope register).toInt ≤ limit) :
    (∀ t, (((after segments t).voice.read register).toNat : Int) ≤ limit) ↔
      ∀ t, 0 ≤ unbounded segments register t ∧ unbounded segments register t ≤ limit := by
  constructor
  · intro within t
    induction t with
    | zero => exact ⟨Int.le_refl 0, natural⟩
    | succ t ih =>
        have next := within (t + 1)
        rw [toNat_read_after] at next
        rcases foldl_loaded_cases segments register
            (departures segments ((after segments t).countDown segments))
            (glided segments register (after segments t) (unbounded segments register t))
          with same | ⟨segment, member, same⟩
        · rcases glided_cases segments register (after segments t)
              (unbounded segments register t) with still | ⟨segment, member, moved⟩
          · rw [unbounded, same, still]
            exact ih
          · have step := short segment member
            rw [unbounded, same, moved] at next ⊢
            -- a glide is too short to lead around the register and back between the bounds
            omega
        · rw [unbounded, same]
          exact ⟨Int.natCast_nonneg _, loads segment member⟩
  · intro within t
    have bounds := within t
    rw [(exact_iff t).mpr ⟨bounds.1, by omega⟩]
    exact bounds.2

theorem pulseWidth_within_iff {program : Program} (valid : program.Valid) :
    (∀ t, (after program.segments t).voice.pulseWidth.toNat ≤ 4095) ↔
      ∀ segment ∈ program.segments,
        0 ≤ segment.destination .pulseWidth ∧ segment.destination .pulseWidth ≤ 4095 := by
  have inRange (segment : Segment) (member : segment ∈ program.segments) :=
    (Segment.inRange_iff segment).mp (valid.inRange segment member)
  have loads : ∀ segment ∈ program.segments,
      ((segment.nominal .pulseWidth).toNat : Int) ≤ 4095 :=
    fun segment member => Int.ofNat_le.mpr (inRange segment member).1
  have short : ∀ segment ∈ program.segments,
      -4095 ≤ (segment.slope .pulseWidth).toInt ∧ (segment.slope .pulseWidth).toInt ≤ 4095 :=
    fun segment member => (inRange segment member).2.2.1
  rw [← unbounded_within_iff (by decide) loads,
    ← read_within_iff (by decide) (by decide) loads short]
  exact forall_congr' fun t => Int.ofNat_le.symm

theorem registers_exact_iff_headroom {raw : List Segment} {program : Program}
    (built : Program.ofSegments raw = .ok program) :
    (∀ register t,
        (((after program.segments t).voice.read register).toNat : Int) =
          unbounded program.segments register t % 65536) ∧
      (∀ register,
        (∀ t, (((after program.segments t).voice.read register).toNat : Int) =
            unbounded program.segments register t) ↔
          ∀ segment ∈ program.segments,
            0 ≤ segment.destination register ∧ segment.destination register ≤ 65535) ∧
      ((∀ t, (after program.segments t).voice.pulseWidth.toNat ≤ 4095) ↔
        ∀ segment ∈ program.segments,
          0 ≤ segment.destination .pulseWidth ∧ segment.destination .pulseWidth ≤ 4095) := by
  refine ⟨toNat_read_after program.segments, fun register => ?_, ?_⟩
  · have loads : ∀ segment ∈ program.segments,
        ((segment.nominal register).toNat : Int) ≤ 65535 := by
      intro segment _
      have bounded := (segment.nominal register).toNat_lt
      omega
    rw [← unbounded_within_iff (by decide) loads]
    exact forall_congr' exact_iff
  · exact pulseWidth_within_iff (Program.valid_of_ofSegments built)

def wideningTone : Segment :=
  { Segment.base with
    frequency := 65000, freqGlide := 178, pulseWidth := 4000, pulseGlide := 50 }

theorem registers_exact_iff_headroom_wideningTone :
    Program.ofSegments [wideningTone] = .ok ⟨[wideningTone]⟩ ∧
      (∀ register t,
        (((after [wideningTone] t).voice.read register).toNat : Int) =
          unbounded [wideningTone] register t) ∧
      ¬ ∀ t, (after [wideningTone] t).voice.pulseWidth.toNat ≤ 4095 := by
  have built : Program.ofSegments [wideningTone] = .ok ⟨[wideningTone]⟩ := rfl
  obtain ⟨-, exact, within⟩ := registers_exact_iff_headroom built
  refine ⟨built, fun register => (exact register).mpr ?_, ?_⟩
  · cases register <;> decide +kernel
  · rw [within]
    decide +kernel

def sinkingPulse : Segment :=
  { Segment.base with pulseWidth := 0, pulseGlide := -1 }

theorem glides_leave_register :
    Program.ofSegments [sinkingPulse] = .ok ⟨[sinkingPulse]⟩ ∧
      (after [sinkingPulse] 2).voice.pulseWidth = 65535 ∧
      unbounded [sinkingPulse] .pulseWidth 2 = -1 ∧
      ¬ ∀ raw program, Program.ofSegments raw = .ok program → ∀ t,
        (∀ register, (((after program.segments t).voice.read register).toNat : Int) =
            unbounded program.segments register t) ∧
          (after program.segments t).voice.pulseWidth.toNat ≤ 4095 := by
  have built : Program.ofSegments [sinkingPulse] = .ok ⟨[sinkingPulse]⟩ := rfl
  have wrapped : (after [sinkingPulse] 2).voice.pulseWidth = 65535 := by decide +kernel
  have added : unbounded [sinkingPulse] .pulseWidth 2 = -1 := by decide +kernel
  refine ⟨built, wrapped, added, fun stays => ?_⟩
  have narrow := (stays _ _ built 2).2
  rw [wrapped] at narrow
  exact absurd narrow (by decide)

end Interpreter

end SoundEffect
