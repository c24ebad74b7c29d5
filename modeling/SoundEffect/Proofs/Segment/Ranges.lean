import Mathlib.Data.UInt
import SoundEffect.Program

namespace SoundEffect

namespace Segment

theorem toInt_min_glide (a b : Int16) : (min a b).toInt = min a.toInt b.toInt := by
  change (if a ≤ b then a else b).toInt = _
  split
  · rename_i below
    exact (Int.min_eq_left (Int16.le_iff_toInt_le.mp below)).symm
  · rename_i above
    have := Int16.lt_iff_toInt_lt.mp (Int16.not_le.mp above)
    omega

theorem toInt_max_glide (a b : Int16) : (max a b).toInt = max a.toInt b.toInt := by
  change (if a ≤ b then b else a).toInt = _
  split
  · rename_i below
    exact (Int.max_eq_right (Int16.le_iff_toInt_le.mp below)).symm
  · rename_i above
    have := Int16.lt_iff_toInt_lt.mp (Int16.not_le.mp above)
    omega

variable {segment : Segment}

theorem toNat_pulseWidth_clamped (segment : Segment) :
    segment.clamped.pulseWidth.toNat = min segment.pulseWidth.toNat 4095 :=
  UInt16.toNat_min _ _

theorem toInt_freqGlide_clamped (segment : Segment) :
    segment.clamped.freqGlide.toInt = max segment.freqGlide.toInt (-32767) :=
  toInt_max_glide _ _

theorem toInt_pulseGlide_clamped (segment : Segment) :
    segment.clamped.pulseGlide.toInt = max (-4095) (min segment.pulseGlide.toInt 4095) := by
  rw [clamped, toInt_max_glide, toInt_min_glide]
  rfl

theorem toNat_gateTicks_clamped (segment : Segment) :
    segment.clamped.gateTicks.toNat = min segment.gateTicks.toNat 99 :=
  UInt8.toNat_min _ _

theorem toNat_releaseTicks_clamped (segment : Segment) :
    segment.clamped.releaseTicks.toNat = min segment.releaseTicks.toNat 99 :=
  UInt8.toNat_min _ _

def InRange (segment : Segment) : Prop :=
  ∀ field : Field, field.lowest ≤ segment.get field ∧ segment.get field ≤ field.highest

theorem toNat_high_nibble (byte : UInt8) : (byte >>> 4).toNat = byte.toNat / 16 := by
  rw [UInt8.toNat_shiftRight, Nat.shiftRight_eq_div_pow]
  rfl

theorem toNat_low_nibble (byte : UInt8) : (byte &&& 0x0F).toNat = byte.toNat % 16 := by
  rw [UInt8.toNat_and]
  exact Nat.and_two_pow_sub_one_eq_mod byte.toNat 4

theorem toNat_high_nibble_le (byte : UInt8) : (byte >>> 4).toNat ≤ 15 := by
  have bounded := byte.toNat_lt
  rw [toNat_high_nibble]
  omega

theorem toNat_low_nibble_le (byte : UInt8) : (byte &&& 0x0F).toNat ≤ 15 := by
  rw [toNat_low_nibble]
  omega

theorem inRange_iff (segment : Segment) :
    segment.InRange ↔
      segment.pulseWidth.toNat ≤ 4095 ∧ -32767 ≤ segment.freqGlide.toInt ∧
        (-4095 ≤ segment.pulseGlide.toInt ∧ segment.pulseGlide.toInt ≤ 4095) ∧
        segment.gateTicks.toNat ≤ 99 ∧ segment.releaseTicks.toNat ≤ 99 := by
  constructor
  · intro h
    have pulseWidth : (segment.pulseWidth.toNat : Int) ≤ 4095 := (h .pulseWidth).2
    have gateTicks : (segment.gateTicks.toNat : Int) ≤ 99 := (h .gateTicks).2
    have releaseTicks : (segment.releaseTicks.toNat : Int) ≤ 99 := (h .releaseTicks).2
    exact ⟨by omega, (h .freqGlide).1, h .pulseGlide, by omega, by omega⟩
  · rintro ⟨pulseWidth, freqGlide, pulseGlide, gateTicks, releaseTicks⟩ field
    have frequency := segment.frequency.toNat_lt
    have attack := toNat_high_nibble_le segment.attackDecay
    have decay := toNat_low_nibble_le segment.attackDecay
    have sustain := toNat_high_nibble_le segment.sustainRelease
    have release := toNat_low_nibble_le segment.sustainRelease
    have glide := segment.freqGlide.toInt_lt
    cases field <;>
      simp only [get, Field.lowest, Field.highest, Segment.attack, Segment.decay, Segment.sustain,
        Segment.release] <;> omega

theorem inRange_clamped (segment : Segment) : segment.clamped.InRange := by
  rw [inRange_iff, toNat_pulseWidth_clamped, toInt_freqGlide_clamped, toInt_pulseGlide_clamped,
    toNat_gateTicks_clamped, toNat_releaseTicks_clamped]
  omega

theorem clamped_of_inRange (h : segment.InRange) : segment.clamped = segment := by
  obtain ⟨pulseWidth, freqGlide, pulseGlide, gateTicks, releaseTicks⟩ :=
    (inRange_iff segment).mp h
  have same_pulseWidth : segment.clamped.pulseWidth = segment.pulseWidth := by
    apply UInt16.toNat_inj.mp
    rw [toNat_pulseWidth_clamped, Nat.min_eq_left pulseWidth]
  have same_freqGlide : segment.clamped.freqGlide = segment.freqGlide := by
    apply Int16.toInt_inj.mp
    rw [toInt_freqGlide_clamped, Int.max_eq_left freqGlide]
  have same_pulseGlide : segment.clamped.pulseGlide = segment.pulseGlide := by
    apply Int16.toInt_inj.mp
    rw [toInt_pulseGlide_clamped, Int.min_eq_left pulseGlide.2, Int.max_eq_right pulseGlide.1]
  have same_gateTicks : segment.clamped.gateTicks = segment.gateTicks := by
    apply UInt8.toNat_inj.mp
    rw [toNat_gateTicks_clamped, Nat.min_eq_left gateTicks]
  have same_releaseTicks : segment.clamped.releaseTicks = segment.releaseTicks := by
    apply UInt8.toNat_inj.mp
    rw [toNat_releaseTicks_clamped, Nat.min_eq_left releaseTicks]
  calc segment.clamped
      = { segment with
          pulseWidth := segment.clamped.pulseWidth
          freqGlide := segment.clamped.freqGlide
          pulseGlide := segment.clamped.pulseGlide
          gateTicks := segment.clamped.gateTicks
          releaseTicks := segment.clamped.releaseTicks } := rfl
    _ = segment := by
        rw [same_pulseWidth, same_freqGlide, same_pulseGlide, same_gateTicks, same_releaseTicks]

theorem clamped_eq_self_iff (segment : Segment) : segment.clamped = segment ↔ segment.InRange :=
  ⟨fun same => same ▸ inRange_clamped segment, clamped_of_inRange⟩

end Segment

namespace Program

structure Valid (program : Program) : Prop where
  nonempty : 1 ≤ program.length
  fits : program.length ≤ capacity
  inRange : ∀ segment ∈ program.segments, segment.InRange

variable {program : Program} {segments : List Segment}

theorem map_clamped_of_inRange (h : ∀ segment ∈ segments, segment.InRange) :
    segments.map Segment.clamped = segments := by
  rw [List.map_congr_left fun segment member => Segment.clamped_of_inRange (h segment member)]
  exact List.map_id' segments

theorem ofSegments_eq_ok_iff :
    ofSegments segments = .ok program ↔
      1 ≤ segments.length ∧ segments.length ≤ capacity ∧
        program = ⟨segments.map Segment.clamped⟩ := by
  cases segments with
  | nil => simp [ofSegments]
  | cons segment rest =>
      simp only [ofSegments, List.isEmpty_cons, Bool.false_eq_true, if_false]
      by_cases fits : (segment :: rest).length ≤ capacity
      · rw [if_neg (Nat.not_lt.mpr fits)]
        constructor
        · intro built
          exact ⟨Nat.succ_le_succ (Nat.zero_le _), fits, (Except.ok.inj built).symm⟩
        · rintro ⟨-, -, rfl⟩
          rfl
      · rw [if_pos (Nat.not_le.mp fits)]
        constructor
        · intro built
          cases built
        · rintro ⟨-, fits', -⟩
          exact absurd fits' fits

theorem valid_of_ofSegments (h : ofSegments segments = .ok program) : program.Valid := by
  obtain ⟨nonempty, fits, rfl⟩ := ofSegments_eq_ok_iff.mp h
  refine ⟨by simpa [length] using nonempty, by simpa [length] using fits, ?_⟩
  intro segment member
  obtain ⟨raw, -, rfl⟩ := List.mem_map.mp member
  exact raw.inRange_clamped

theorem Valid.ofSegments (h : program.Valid) : ofSegments program.segments = .ok program :=
  ofSegments_eq_ok_iff.mpr ⟨h.nonempty, h.fits, by rw [map_clamped_of_inRange h.inRange]⟩

end Program

end SoundEffect
