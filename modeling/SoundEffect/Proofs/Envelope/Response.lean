import Mathlib.Algebra.Order.Floor.Div
import SoundEffect.Proofs.Envelope.History

namespace SoundEffect

namespace Voice

variable (voice : Voice) (rates : Rates)

def attackLength : Nat :=
  levelMax.toNat ⌈/⌉ (voice.attackStep rates).toNat

def decayLength : Nat :=
  (levelMax.toNat - voice.sustainTarget.toNat) ⌈/⌉ (voice.decayStep rates).toNat

theorem attackLength_le_iff {n : Nat} :
    voice.attackLength rates ≤ n ↔ 8191 ≤ n * (voice.attackStep rates).toNat := by
  rw [attackLength, ceilDiv_le_iff_le_mul (voice.attackStep_bounds rates).1, Nat.mul_comm]
  rfl

theorem decayLength_le_iff {n : Nat} :
    voice.decayLength rates ≤ n ↔
      8191 - voice.sustainTarget.toNat ≤ n * (voice.decayStep rates).toNat := by
  rw [decayLength, ceilDiv_le_iff_le_mul (voice.decayStep_bounds rates).1, Nat.mul_comm]
  rfl

theorem toNat_sustainTarget_le : voice.sustainTarget.toNat ≤ 8160 :=
  Curves.toNat_sustainTarget_le _

end Voice

namespace Envelope

variable {envelope : Envelope} {voice : Voice} {rates : Rates}

structure Raised (voice : Voice) (rates : Rates) (run : Nat → Envelope) : Prop where
  attack : ∀ n, 1 ≤ n → n < voice.attackLength rates →
    (run n).phase = .attack ∧ (run n).level.toNat = n * (voice.attackStep rates).toNat
  decay : ∀ n, voice.attackLength rates ≤ n →
    (run n).phase = .decay ∧
      (run n).level.toNat =
        max voice.sustainTarget.toNat
          (levelMax.toNat - (n - voice.attackLength rates) * (voice.decayStep rates).toNat)
  sustain : ∀ n, voice.attackLength rates + voice.decayLength rates ≤ n →
    (run n).level = voice.sustainTarget

structure Lowered (voice : Voice) (rates : Rates) (run : Nat → Envelope) : Prop where
  level : ∀ m, 1 ≤ m →
    (run m).level.toNat = (run 0).level.toNat - m * (voice.releaseStep rates).toNat
  release : ∀ m, 1 ≤ m → m * (voice.releaseStep rates).toNat < (run 0).level.toNat →
    (run m).phase = .release
  off : ∀ m, 1 ≤ m → (run 0).level.toNat ≤ m * (voice.releaseStep rates).toNat →
    (run m).phase = .off

variable (rates) in
theorem iterate_advance_of_rising (gate : voice.control.gate = true)
    (idle : envelope.phase.excited = false) {n : Nat} (started : 1 ≤ n)
    (rising : n < voice.attackLength rates) :
    ((·.advance voice rates)^[n] envelope).phase = .attack ∧
      ((·.advance voice rates)^[n] envelope).level.toNat =
        n * (voice.attackStep rates).toNat := by
  have short := (voice.attackStep_bounds rates).2
  induction n, started using Nat.le_induction with
  | base =>
      rw [← Nat.not_le, voice.attackLength_le_iff] at rising
      rw [Function.iterate_one, advance_of_idle gate idle, rise_phase 0 short,
        toNat_rise_level short, UInt16.toNat_zero, if_pos (by omega)]
      exact ⟨rfl, by omega⟩
  | succ n started ih =>
      obtain ⟨phase, level⟩ := ih (Nat.lt_of_succ_lt rising)
      rw [← Nat.not_le, voice.attackLength_le_iff, Nat.succ_mul] at rising
      rw [Function.iterate_succ_apply', advance_of_attack gate phase, rise_phase _ short,
        toNat_rise_level short, level, Nat.succ_mul, if_pos (by omega)]
      exact ⟨rfl, by omega⟩

variable (rates) in
theorem iterate_advance_attackLength (gate : voice.control.gate = true)
    (idle : envelope.phase.excited = false) :
    ((·.advance voice rates)^[voice.attackLength rates] envelope).phase = .decay ∧
      ((·.advance voice rates)^[voice.attackLength rates] envelope).level.toNat = 8191 := by
  have short := (voice.attackStep_bounds rates).2
  have reached := (voice.attackLength_le_iff rates).mp (Nat.le_refl _)
  obtain ⟨n, length⟩ : ∃ n, voice.attackLength rates = n + 1 := by
    refine Nat.exists_eq_add_one_of_ne_zero fun none => ?_
    rw [none] at reached
    omega
  rw [length, Nat.succ_mul] at reached
  rw [length, Function.iterate_succ_apply']
  rcases Nat.eq_zero_or_pos n with rfl | started
  · rw [Function.iterate_zero_apply, advance_of_idle gate idle, rise_phase 0 short,
      toNat_rise_level short, UInt16.toNat_zero, if_neg (by omega)]
    exact ⟨rfl, by omega⟩
  · obtain ⟨phase, level⟩ :=
      iterate_advance_of_rising rates gate idle started (by omega)
    rw [advance_of_attack gate phase, rise_phase _ short, toNat_rise_level short, level,
      if_neg (by omega)]
    exact ⟨rfl, by omega⟩

theorem iterate_advance_of_decaying (gate : voice.control.gate = true)
    (phase : envelope.phase = .decay) (above : voice.sustainTarget.toNat ≤ envelope.level.toNat)
    (n : Nat) :
    ((·.advance voice rates)^[n] envelope).phase = .decay ∧
      ((·.advance voice rates)^[n] envelope).level.toNat =
        max voice.sustainTarget.toNat
          (envelope.level.toNat - n * (voice.decayStep rates).toNat) := by
  induction n with
  | zero => exact ⟨phase, by rw [Function.iterate_zero_apply]; omega⟩
  | succ n ih =>
      obtain ⟨phase, level⟩ := ih
      rw [Function.iterate_succ_apply', advance_of_decay gate phase, fallToSustain_phase,
        toNat_fallToSustain_level (voice.decayStep_bounds rates).2, level, Nat.succ_mul]
      exact ⟨rfl, by omega⟩

theorem raised (gate : voice.control.gate = true) (idle : envelope.phase.excited = false) :
    Raised voice rates fun n => (·.advance voice rates)^[n] envelope := by
  have target := voice.toNat_sustainTarget_le
  obtain ⟨phase, level⟩ := iterate_advance_attackLength rates gate idle
  have decay : ∀ n, voice.attackLength rates ≤ n →
      ((·.advance voice rates)^[n] envelope).phase = .decay ∧
        ((·.advance voice rates)^[n] envelope).level.toNat =
          max voice.sustainTarget.toNat
            (8191 - (n - voice.attackLength rates) * (voice.decayStep rates).toNat) := by
    intro n late
    -- past the attack, what is left of the run is a decay from the greatest level
    have split : (·.advance voice rates)^[n] envelope =
        (·.advance voice rates)^[n - voice.attackLength rates]
          ((·.advance voice rates)^[voice.attackLength rates] envelope) := by
      rw [← Function.iterate_add_apply, Nat.sub_add_cancel late]
    rw [split, ← level]
    exact iterate_advance_of_decaying gate phase (by omega) _
  refine ⟨fun n started rising => iterate_advance_of_rising rates gate idle started rising,
    decay, ?_⟩
  intro n late
  have fallen := (voice.decayLength_le_iff rates).mp (Nat.le_sub_of_add_le' late)
  apply UInt16.toNat_inj.mp
  rw [(decay n (by omega)).2]
  omega

theorem lowered (gate : voice.control.gate = false) (quiet : envelope.Quiet) :
    Lowered voice rates fun m => (·.advance voice rates)^[m] envelope := by
  refine ⟨fun m _ => (iterate_advance_of_lowered rates quiet gate m).2, ?_, ?_⟩
  · intro m started sounding
    obtain ⟨m, rfl⟩ := Nat.exists_eq_add_of_le' started
    exact (phase_iterate_advance_of_lowered rates quiet gate m).trans (if_pos sounding)
  · intro m started silent
    obtain ⟨m, rfl⟩ := Nat.exists_eq_add_of_le' started
    have spent := Nat.not_lt.mpr silent
    exact (phase_iterate_advance_of_lowered rates quiet gate m).trans (if_neg spent)

theorem response (voice : Voice) (rates : Rates) :
    (voice.control.gate = true → ∀ envelope : Envelope,
        envelope.phase = .off ∨ envelope.phase = .release →
          Raised voice rates fun n => (·.advance voice rates)^[n] envelope) ∧
      (voice.control.gate = false → ∀ envelope : Envelope,
        (envelope.phase = .off → envelope.level = 0) →
          Lowered voice rates fun m => (·.advance voice rates)^[m] envelope) ∧
      ∀ history, (after history).phase = .off → (after history).level = 0 := by
  refine ⟨fun gate envelope idle => ?_, fun gate envelope quiet => lowered gate quiet, ?_⟩
  · exact raised gate ((Phase.not_excited_iff _).mpr idle.symm)
  · exact fun history => (sound_after history).quiet

def slowTone : Voice :=
  .load { Segment.base with attackDecay := 0x99, sustainRelease := 0x8A }

def droppedTone : Voice :=
  { slowTone with control := .none }

def earlyAttack : Envelope :=
  ⟨.attack, 81⟩

theorem response_slowTone :
    slowTone.control.gate = true ∧ silent.phase = .off ∧
      ((·.advance slowTone .standard)^[50] silent).phase = .attack ∧
      ((·.advance slowTone .standard)^[50] silent).level.toNat = 8150 ∧
      ((·.advance slowTone .standard)^[51] silent).phase = .decay ∧
      ((·.advance slowTone .standard)^[51] silent).level.toNat = 8191 ∧
      ((·.advance slowTone .standard)^[72] silent).level = slowTone.sustainTarget ∧
      droppedTone.control.gate = false ∧
      ((·.advance droppedTone .standard)^[2] earlyAttack).phase = .release ∧
      ((·.advance droppedTone .standard)^[2] earlyAttack).level.toNat = 27 ∧
      ((·.advance droppedTone .standard)^[3] earlyAttack).phase = .off := by
  have gate : slowTone.control.gate = true := by decide
  have dropped : droppedTone.control.gate = false := by decide
  have rises := (response slowTone .standard).1 gate silent (.inl rfl)
  have falls := (response droppedTone .standard).2.1 dropped earlyAttack nofun
  have attack := rises.attack 50 (by decide) (by decide +kernel)
  have decay := rises.decay 51 (by decide +kernel)
  refine ⟨gate, rfl, attack.1, attack.2, decay.1, decay.2, ?_, dropped, ?_, ?_, ?_⟩
  · exact rises.sustain 72 (by decide +kernel)
  · exact falls.release 2 (by decide) (by decide +kernel)
  · exact falls.level 2 (by decide)
  · exact falls.off 3 (by decide) (by decide +kernel)

end Envelope

end SoundEffect
