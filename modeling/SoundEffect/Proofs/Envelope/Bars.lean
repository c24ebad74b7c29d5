import Mathlib.Data.List.Chain
import SoundEffect.Proofs.Envelope.Levels

namespace SoundEffect

namespace Curves

variable {low high : UInt16}

theorem levelBar_le (energy : UInt16) : (levelBar energy).toNat ≤ 31 := by
  have heights : ∀ height ∈ level, height.toNat ≤ 31 := by decide +kernel
  rw [levelBar, List.getD_eq_getElem?_getD]
  cases height : level[((min energy levelMax) >>> 5).toNat]? with
  | none => decide
  | some height => exact heights _ (List.mem_of_getElem? ‹_›)

theorem toNat_levelIndex (energy : UInt16) :
    ((min energy levelMax) >>> 5).toNat = min energy.toNat 8191 / 32 := by
  have least : (min energy levelMax).toNat = min energy.toNat 8191 := by
    change (if energy ≤ levelMax then energy else levelMax).toNat = _
    have most : levelMax.toNat = 8191 := rfl
    simp only [UInt16.le_iff_toNat_le, most]
    split <;> omega
  rw [UInt16.toNat_shiftRight, least, Nat.shiftRight_eq_div_pow]
  rfl

theorem exists_height (energy : UInt16) :
    ∃ inside : min energy.toNat 8191 / 32 < level.length,
      levelBar energy = level[min energy.toNat 8191 / 32] := by
  have inside : min energy.toNat 8191 / 32 < level.length := by
    rw [length_level]
    omega
  refine ⟨inside, ?_⟩
  rw [levelBar, toNat_levelIndex, List.getD_eq_getElem?_getD, List.getElem?_eq_getElem inside]
  rfl

theorem levelBar_mono (h : low.toNat ≤ high.toNat) :
    (levelBar low).toNat ≤ (levelBar high).toNat := by
  have neighbours : (level.map UInt8.toNat).IsChain (· ≤ ·) := by decide +kernel
  have rising := List.pairwise_map.mp (List.isChain_iff_pairwise.mp neighbours)
  obtain ⟨inside, lowBar⟩ := exists_height low
  obtain ⟨inside', highBar⟩ := exists_height high
  rw [lowBar, highBar]
  rcases Nat.lt_or_eq_of_le (show min low.toNat 8191 / 32 ≤ min high.toNat 8191 / 32 by omega)
    with before | same
  · exact List.pairwise_iff_getElem.mp rising _ _ inside inside' before
  · simp only [same, Nat.le_refl]

theorem levelBar_le_line (bounded : high.toNat ≤ 8191) :
    (levelBar high).toNat ≤ high.toNat / 256 := by
  have below : ∀ entry ∈ level.zipIdx, entry.1.toNat ≤ entry.2 / 8 := by decide +kernel
  obtain ⟨inside, bar⟩ := exists_height high
  have under : level[min high.toNat 8191 / 32].toNat ≤ min high.toNat 8191 / 32 / 8 :=
    below (_, _) (List.mem_zipIdx_iff_getElem?.mpr (List.getElem?_eq_getElem inside))
  rw [bar]
  omega

end Curves

namespace Envelope

variable {envelope : Envelope}

theorem toNat_attackBar (bounded : envelope.level.toNat ≤ 8191) :
    (envelope.level >>> 8).toUInt8.toNat = envelope.level.toNat / 256 := by
  rw [UInt16.toNat_toUInt8, UInt16.toNat_shiftRight, Nat.shiftRight_eq_div_pow]
  change envelope.level.toNat / 2 ^ 8 % 2 ^ 8 = _
  omega

theorem bar_of_not_attack (phase : envelope.phase ≠ .attack) :
    envelope.bar = Curves.levelBar envelope.level := by
  cases same : envelope.phase with
  | attack => exact absurd same phase
  | decay => simp only [bar, same]
  | release => simp only [bar, same]
  | off => simp only [bar, same]

theorem toNat_bar_of_attack (phase : envelope.phase = .attack)
    (bounded : envelope.level.toNat ≤ 8191) : envelope.bar.toNat = envelope.level.toNat / 256 := by
  rw [← toNat_attackBar bounded]
  simp only [bar, phase]

theorem bar_le (bounded : envelope.level.toNat ≤ 8191) : envelope.bar.toNat ≤ 31 := by
  by_cases phase : envelope.phase = .attack
  · rw [toNat_bar_of_attack phase bounded]
    omega
  · rw [bar_of_not_attack phase]
    exact Curves.levelBar_le envelope.level

theorem levelBar_le_bar (bounded : envelope.level.toNat ≤ 8191) :
    (Curves.levelBar envelope.level).toNat ≤ envelope.bar.toNat := by
  by_cases phase : envelope.phase = .attack
  · rw [toNat_bar_of_attack phase bounded]
    exact Curves.levelBar_le_line bounded
  · exact Nat.le_of_eq (congrArg UInt8.toNat (bar_of_not_attack phase).symm)

end Envelope

end SoundEffect
