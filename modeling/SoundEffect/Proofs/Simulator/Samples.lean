import SoundEffect.Proofs.Envelope.Bars
import SoundEffect.Proofs.Simulator.Substeps

namespace SoundEffect

namespace Curves

theorem quarterOctaves_le {n : Nat} (h : n ≤ 255) : quarterOctaves n ≤ 31 := by
  have power : n * n * n * n ≤ 255 * 255 * 255 * 255 :=
    Nat.mul_le_mul (Nat.mul_le_mul (Nat.mul_le_mul h h) h) h
  rw [quarterOctaves]
  by_cases zero : n * n * n * n = 0
  · simp [zero]
  · have := (Nat.log2_lt zero).mpr (show n * n * n * n < 2 ^ 32 by omega)
    omega

theorem frequencyBar_le (frequency : UInt16) : (frequencyBar frequency).toNat ≤ 31 := by
  have high : (frequency >>> 8).toNat ≤ 255 := by
    have := frequency.toNat_lt
    rw [UInt16.toNat_shiftRight]
    simp only [Nat.shiftRight_eq_div_pow]
    change frequency.toNat / 2 ^ 8 ≤ 255
    omega
  have octaves := quarterOctaves_le high
  rw [frequencyBar, UInt8.toNat_ofNat']
  omega

end Curves

namespace Simulator

variable {now : Simulator}

theorem level_substep_le (bounded : now.envelope.level.toNat ≤ 8191) (k : Nat) :
    (now.substep k).level.toNat ≤ 8191 := by
  induction k with
  | zero =>
      simp only [substep]
      split <;> exact bounded
  | succ k ih =>
      rw [substep_succ]
      exact Envelope.advance_level_le _ _ _ ih

theorem level_iterate_le (config : Config) (segments : List Segment) (t : Nat) :
    (tick^[t] (start config segments)).envelope.level.toNat ≤ 8191 := by
  induction t with
  | zero => exact Nat.zero_le 8191
  | succ t ih =>
      rw [Function.iterate_succ_apply']
      cases finished : (tick^[t] (start config segments)).isFinished with
      | true => rwa [tick_of_finished finished]
      | false =>
          rw [tick_of_unfinished finished]
          exact level_substep_le ih substeps

theorem samples_iterate (config : Config) (segments : List Segment) {t : Nat}
    (executed : t < config.maxTicks) :
    (tick^[t + 1] (start config segments)).samples.length = substeps ∧
      ∀ sample ∈ (tick^[t + 1] (start config segments)).samples,
        sample.envelope.toNat ≤ 31 ∧ sample.frequency.toNat ≤ 31 := by
  obtain ⟨config', -, ticks, -⟩ := iterate_tick_start config segments (Nat.le_of_lt executed)
  have unfinished : (tick^[t] (start config segments)).isFinished = false := by
    rwa [isFinished_eq_false_iff, config', ticks]
  rw [Function.iterate_succ_apply', tick_of_unfinished unfinished]
  refine ⟨by simp, fun sample mem => ?_⟩
  obtain ⟨k, -, rfl⟩ := List.mem_map.mp mem
  exact ⟨Envelope.bar_le (level_substep_le (level_iterate_le config segments t) _),
    Curves.frequencyBar_le _⟩

end Simulator

end SoundEffect
