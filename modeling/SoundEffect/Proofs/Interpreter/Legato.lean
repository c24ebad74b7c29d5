import SoundEffect.Proofs.Interpreter.Reevaluation
import SoundEffect.Proofs.Segment.Ranges

namespace SoundEffect

structure Segment.Legato (segment following : Segment) : Prop where
  held : segment.gated = true
  unreleased : segment.releaseTicks = 0
  gated : following.gated = true
  attack : following.attack.toNat ≤ 1
  decay : following.decay.toNat = 0
  louder : segment.sustain.toNat < following.sustain.toNat

namespace Interpreter

open Timeline (Scheduled endTick scheduled_after)

variable {segments : List Segment} {now next departure : Interpreter} {signal : EnvelopeSignal}
  {segment following : Segment} {i t : Nat}

theorem and_rates_eq_zero_iff (byte : UInt8) :
    byte &&& 0xEF = 0 ↔ (byte >>> 4).toNat ≤ 1 ∧ (byte &&& 0x0F).toNat = 0 := by
  have rates : ∀ n < 256, UInt8.ofNat n &&& 0xEF = 0 ↔
      (UInt8.ofNat n >>> 4).toNat ≤ 1 ∧ (UInt8.ofNat n &&& 0x0F).toNat = 0 := by
    decide +kernel
  rw [← @UInt8.ofNat_toNat byte]
  exact rates byte.toNat byte.toNat_lt

theorem restartsEnvelope_iff (segment following : Segment) :
    restartsEnvelope segment following = true ↔
      following.gated = true ∧ following.attack.toNat ≤ 1 ∧ following.decay.toNat = 0 ∧
        segment.sustain.toNat < following.sustain.toNat := by
  simp only [restartsEnvelope, Bool.and_eq_true, decide_eq_true_eq, and_rates_eq_zero_iff,
    UInt8.lt_iff_toNat_lt, Segment.attack, Segment.decay]
  constructor
  · rintro ⟨⟨⟨attack, decay⟩, gated⟩, louder⟩
    exact ⟨gated, attack, decay, louder⟩
  · rintro ⟨gated, attack, decay, louder⟩
    exact ⟨⟨⟨attack, decay⟩, gated⟩, louder⟩

theorem Step.eq_forceRelease_iff (step : Step segments now next signal) :
    signal = .forceRelease ↔
      now.state = .playing ∧ next.state = .ready ∧ next.position = now.position + 1 ∧
        ∃ segment following, segments[now.position]? = some segment ∧
          segments[now.position + 1]? = some following ∧ segment.releaseTicks = 0 ∧
          restartsEnvelope segment following = true := by
  cases step with
  | rest state => simp [state]
  | clear state => simp [state]
  | loadGated state here gated => simp [state]
  | loadUngated state here ungated => simp [state]
  | finish state past => simp [state]
  | release state here releases => simp
  | @handOver segment following state here held next => simp [state, here, held, next]
  | finishHeld state here held past => simp
  | lost state past => simp
  | separate state next gated => simp [state]
  | resume state next ungated => simp [state]
  | finishReleased state past => simp [state]

theorem Step.position_le_succ (step : Step segments now next signal) :
    next.position ≤ now.position + 1 := by
  cases step <;> simp

theorem exists_departure_of_passed (before : now.position ≤ i)
    (past : i < (settle segments now).position) :
    ∃ departure ∈ departures segments now, departure.position = i ∧
      (departure.transition segments).1.position = i + 1 := by
  induction now using passage_induction segments with
  | settled now started =>
      rw [settle_of_delay_ne_zero started] at past
      exact absurd past (Nat.not_lt.mpr before)
  | due now spent ih =>
      rw [settle_of_delay_eq_zero spent] at past
      rw [departures_of_delay_eq_zero spent]
      rcases Nat.lt_or_ge i (now.transition segments).1.position with moved | not_yet
      · have one := (step_transition segments now).position_le_succ
        exact ⟨now, List.mem_cons_self, by omega, by omega⟩
      · obtain ⟨departure, later, leaves⟩ := ih not_yet past
        exact ⟨departure, List.mem_cons_of_mem now later, leaves⟩

def HandsOver (segments : List Segment) (now : Interpreter) (i : Nat) : Prop :=
  ∃ departure ∈ departures segments (now.countDown segments),
    departure.state = .playing ∧ departure.position = i ∧
      (departure.transition segments).1.state = .ready ∧
      (departure.transition segments).1.position = i + 1

theorem scheduled_departure
    (taken : departure ∈ departures segments ((after segments t).countDown segments)) :
    departure.delay.toNat = 0 ∧ Scheduled segments (t + 1) departure := by
  obtain ⟨scheduled, pending⟩ := scheduled_after segments t
  obtain ⟨spent, due⟩ := departures_invariant (fun _ _ _ settling step h => h.step settling step)
    (scheduled.countDown pending) departure taken
  exact ⟨by rw [spent]; rfl, due⟩

theorem passed_iff_endTick (inside : i < segments.length) :
    (after segments t).position ≤ i ∧ i < (after segments (t + 1)).position ↔
      endTick segments i = t + 1 := by
  obtain ⟨scheduled, pending⟩ := scheduled_after segments t
  obtain ⟨scheduled', pending'⟩ := scheduled_after segments (t + 1)
  rw [← (scheduled'.endTick_le_iff pending').2 i inside, ← Nat.not_lt,
    ← (scheduled.endTick_le_iff pending).2 i inside]
  omega

theorem handsOver_iff_passed (here : segments[i]? = some segment)
    (next : segments[i + 1]? = some following) (gated : segment.gated = true)
    (held : segment.releaseTicks = 0) :
    HandsOver segments (after segments t) i ↔
      (after segments t).position ≤ i ∧ i < (after segments (t + 1)).position := by
  constructor
  · rintro ⟨departure, taken, state, rfl, -, -⟩
    obtain ⟨settling, scheduled⟩ := scheduled_departure taken
    rw [passed_iff_endTick (List.getElem?_eq_some_iff.mp here).1]
    exact (scheduled.endTick_of_held state here held settling).2
  · rintro ⟨before, past⟩
    rw [← @countDown_position segments] at before
    obtain ⟨departure, taken, rfl, moved⟩ := exists_departure_of_passed before past
    obtain ⟨-, scheduled⟩ := scheduled_departure taken
    have step := step_transition segments departure
    refine ⟨departure, taken, ?_⟩
    generalize departure.transition segments = arrival at step moved
    obtain ⟨arrival, signal⟩ := arrival
    cases step with
    | rest | clear | loadGated | loadUngated | finish | release | lost =>
        simp at moved
    | handOver state _ _ _ => exact ⟨state, rfl, rfl, rfl⟩
    | finishHeld _ _ _ none =>
        rw [next] at none
        cases none
    | separate state | resume state | finishReleased state =>
        obtain ⟨other, here', released, -⟩ := scheduled.of_waiting state
        obtain rfl := Option.some.inj (here.symm.trans here')
        simp [Segment.endsReleased, gated, held] at released

theorem signalAfter_eq_forceRelease_iff (segments : List Segment) (t : Nat) :
    (signalAfter segments t = .forceRelease ↔
      ∃ i segment following, segments[i]? = some segment ∧ segments[i + 1]? = some following ∧
        segment.Legato following ∧ HandsOver segments (after segments t) i) ∧
      (∀ i segment following, segments[i]? = some segment → segments[i + 1]? = some following →
        segment.gated = true → segment.releaseTicks = 0 →
        (HandsOver segments (after segments t) i ↔
          (after segments t).position ≤ i ∧ i < (after segments (t + 1)).position)) ∧
      ∀ departure ∈ departures segments ((after segments t).countDown segments),
        (departure.transition segments).2 = .forceRelease →
          departure.state = .playing ∧ (departure.transition segments).1.state = .ready := by
  refine ⟨?_, fun i segment following => handsOver_iff_passed, ?_⟩
  · rw [signalAfter, tick_snd_eq_forceRelease_iff]
    constructor
    · rintro ⟨departure, taken, raised⟩
      obtain ⟨playing, ready, moved, segment, following, here, next, held, restarts⟩ :=
        (step_transition segments departure).eq_forceRelease_iff.mp raised
      obtain ⟨gated, attack, decay, louder⟩ := (restartsEnvelope_iff segment following).mp restarts
      obtain ⟨-, scheduled⟩ := scheduled_departure taken
      obtain ⟨other, here', playable, -⟩ := scheduled.of_playing playing
      obtain rfl := Option.some.inj (here.symm.trans here')
      exact ⟨departure.position, segment, following, here, next,
        ⟨playable, held, gated, attack, decay, louder⟩, departure, taken, playing, rfl, ready,
        moved⟩
    · rintro ⟨i, segment, following, here, next, legato, departure, taken, playing, rfl, ready,
        moved⟩
      refine ⟨departure, taken, (step_transition segments departure).eq_forceRelease_iff.mpr
        ⟨playing, ready, moved, segment, following, here, next, legato.unreleased, ?_⟩⟩
      exact (restartsEnvelope_iff segment following).mpr
        ⟨legato.gated, legato.attack, legato.decay, legato.louder⟩
  · intro departure taken raised
    obtain ⟨playing, ready, -⟩ :=
      (step_transition segments departure).eq_forceRelease_iff.mp raised
    exact ⟨playing, ready⟩

def louderInPassing : List Segment :=
  [{ Segment.base with sustainRelease := 0x40, gateTicks := 2 },
    { Segment.base with attackDecay := 0x10, sustainRelease := 0x80, gateTicks := 0 },
    { Segment.base with control := .none }, .base]

theorem signalAfter_eq_forceRelease_iff_louderInPassing :
    louderInPassing[0]? = some { Segment.base with sustainRelease := 0x40, gateTicks := 2 } ∧
      louderInPassing[1]? =
        some { Segment.base with attackDecay := 0x10, sustainRelease := 0x80, gateTicks := 0 } ∧
      HandsOver louderInPassing (after louderInPassing 2) 0 ∧
      signalAfter louderInPassing 2 = .forceRelease ∧
      (after louderInPassing 3).position = 3 ∧ (after louderInPassing 3).state = .ready ∧
      signalAfter louderInPassing 3 = .plain := by
  obtain ⟨raised, passes, -⟩ := signalAfter_eq_forceRelease_iff louderInPassing 2
  have position : (after louderInPassing 3).position = 3 := by decide +kernel
  have passed : HandsOver louderInPassing (after louderInPassing 2) 0 :=
    (passes 0 _ _ rfl rfl rfl rfl).mpr ⟨by decide +kernel, by rw [position]; decide⟩
  have legato : Segment.Legato { Segment.base with sustainRelease := 0x40, gateTicks := 2 }
      { Segment.base with attackDecay := 0x10, sustainRelease := 0x80, gateTicks := 0 } :=
    ⟨rfl, rfl, rfl, by decide, by decide, by decide⟩
  exact ⟨rfl, rfl, passed, raised.mpr ⟨0, _, _, rfl, rfl, legato, passed⟩, position,
    by decide +kernel, by decide +kernel⟩

end Interpreter

end SoundEffect
