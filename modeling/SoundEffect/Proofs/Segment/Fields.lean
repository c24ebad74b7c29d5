import SoundEffect.Proofs.Segment.Ranges

namespace SoundEffect

namespace Field

theorem clamp_bounds (field : Field) (value : Int) :
    field.lowest ≤ field.clamp value ∧ field.clamp value ≤ field.highest := by
  have ordered := field.lowest_le_highest
  rw [clamp]
  omega

end Field

namespace Segment

theorem toNat_ofInt_word {value : Int} (low : 0 ≤ value) (high : value ≤ 65535) :
    ((UInt16.ofInt value).toNat : Int) = value := by
  rw [UInt16.ofInt, UInt16.toNat_ofNat']
  omega

theorem toNat_ofInt_byte {value : Int} (low : 0 ≤ value) (high : value ≤ 255) :
    ((UInt8.ofInt value).toNat : Int) = value := by
  rw [UInt8.ofInt, UInt8.toNat_ofNat']
  omega

theorem toInt_ofInt_glide {value : Int} (low : -32768 ≤ value) (high : value ≤ 32767) :
    (Int16.ofInt value).toInt = value :=
  Int16.toInt_ofInt_of_le (by omega) (by omega)

theorem toNat_withHighNibble (byte : UInt8) {nibble : UInt8} (small : nibble.toNat < 16) :
    (withHighNibble byte nibble).toNat = nibble.toNat * 16 + byte.toNat % 16 := by
  have low : byte.toNat % 16 < 2 ^ 4 := Nat.mod_lt _ (by decide)
  have shifted : (nibble <<< 4).toNat = nibble.toNat <<< 4 := by
    rw [UInt8.toNat_shiftLeft, Nat.shiftLeft_eq, Nat.shiftLeft_eq]
    exact Nat.mod_eq_of_lt (show nibble.toNat * 16 < 256 by omega)
  rw [withHighNibble, UInt8.toNat_or, toNat_low_nibble, shifted, Nat.or_comm,
    ← Nat.shiftLeft_add_eq_or_of_lt low, Nat.shiftLeft_eq]

theorem and_high_bits {n : Nat} (bounded : n < 256) : n &&& 240 = (n / 16) <<< 4 := by
  apply Nat.eq_of_testBit_eq
  intro i
  have moved : (n / 16).testBit (i - 4) = n.testBit (4 + (i - 4)) := by
    rw [← Nat.testBit_shiftRight, Nat.shiftRight_eq_div_pow]
  rw [Nat.testBit_and, Nat.testBit_shiftLeft, moved]
  by_cases inside : i < 8
  · have mask : ∀ i < 8, (240).testBit i = decide (4 ≤ i) := by decide
    rw [mask i inside]
    by_cases high : 4 ≤ i
    · simp [high]
    · simp [high]
  · have outside : n.testBit i = false :=
      Nat.testBit_lt_two_pow (Nat.lt_of_lt_of_le bounded
        (Nat.pow_le_pow_right Nat.two_pos (Nat.not_lt.mp inside)))
    have same : 4 + (i - 4) = i := by omega
    simp [same, outside]

theorem toNat_withLowNibble (byte : UInt8) {nibble : UInt8} (small : nibble.toNat < 16) :
    (withLowNibble byte nibble).toNat = byte.toNat / 16 * 16 + nibble.toNat := by
  have high : (byte &&& 0xF0).toNat = (byte.toNat / 16) <<< 4 := by
    rw [UInt8.toNat_and]
    exact and_high_bits byte.toNat_lt
  rw [withLowNibble, UInt8.toNat_or, high, ← Nat.shiftLeft_add_eq_or_of_lt small, Nat.shiftLeft_eq]

section Nibbles

variable (byte : UInt8) {nibble : UInt8} (small : nibble.toNat < 16)
include small

theorem high_withHighNibble : (withHighNibble byte nibble >>> 4).toNat = nibble.toNat := by
  rw [toNat_high_nibble, toNat_withHighNibble byte small]
  omega

theorem low_withHighNibble :
    (withHighNibble byte nibble &&& 0x0F).toNat = (byte &&& 0x0F).toNat := by
  rw [toNat_low_nibble, toNat_low_nibble, toNat_withHighNibble byte small]
  omega

theorem high_withLowNibble :
    (withLowNibble byte nibble >>> 4).toNat = (byte >>> 4).toNat := by
  rw [toNat_high_nibble, toNat_high_nibble, toNat_withLowNibble byte small]
  omega

theorem low_withLowNibble : (withLowNibble byte nibble &&& 0x0F).toNat = nibble.toNat := by
  rw [toNat_low_nibble, toNat_withLowNibble byte small]
  omega

end Nibbles

theorem toNat_ofInt_nibble_lt {value : Int} (low : 0 ≤ value) (high : value ≤ 15) :
    (UInt8.ofInt value).toNat < 16 := by
  have same := toNat_ofInt_byte low (Int.le_trans high (by decide))
  omega

theorem high_withHighNibble_ofInt (byte : UInt8) {value : Int} (low : 0 ≤ value)
    (high : value ≤ 15) :
    ((withHighNibble byte (UInt8.ofInt value) >>> 4).toNat : Int) = value := by
  rw [high_withHighNibble byte (toNat_ofInt_nibble_lt low high)]
  exact toNat_ofInt_byte low (Int.le_trans high (by decide))

theorem low_withLowNibble_ofInt (byte : UInt8) {value : Int} (low : 0 ≤ value)
    (high : value ≤ 15) :
    ((withLowNibble byte (UInt8.ofInt value) &&& 0x0F).toNat : Int) = value := by
  rw [low_withLowNibble byte (toNat_ofInt_nibble_lt low high)]
  exact toNat_ofInt_byte low (Int.le_trans high (by decide))

section Stored

variable (segment : Segment) {field : Field} {value : Int} (low : field.lowest ≤ value)
  (high : value ≤ field.highest)
include low high

theorem get_store_self : (segment.store value field).get field = value := by
  cases field with
  | frequency => exact toNat_ofInt_word low high
  | pulseWidth => exact toNat_ofInt_word low (Int.le_trans high (by decide))
  | attack => exact high_withHighNibble_ofInt segment.attackDecay low high
  | decay => exact low_withLowNibble_ofInt segment.attackDecay low high
  | sustain => exact high_withHighNibble_ofInt segment.sustainRelease low high
  | release => exact low_withLowNibble_ofInt segment.sustainRelease low high
  | freqGlide => exact toInt_ofInt_glide (Int.le_trans (by decide) low) high
  | pulseGlide =>
      exact toInt_ofInt_glide (Int.le_trans (by decide) low) (Int.le_trans high (by decide))
  | gateTicks | releaseTicks => exact toNat_ofInt_byte low (Int.le_trans high (by decide))

theorem get_store_of_ne {other : Field} (different : other ≠ field) :
    (segment.store value field).get other = segment.get other := by
  -- two rates share a byte, and every other field has its own
  cases field with
  | attack =>
      have small := toNat_ofInt_nibble_lt low high
      cases other with
      | attack => exact absurd rfl different
      | decay => exact congrArg Int.ofNat (low_withHighNibble segment.attackDecay small)
      | _ => rfl
  | decay =>
      have small := toNat_ofInt_nibble_lt low high
      cases other with
      | decay => exact absurd rfl different
      | attack => exact congrArg Int.ofNat (high_withLowNibble segment.attackDecay small)
      | _ => rfl
  | sustain =>
      have small := toNat_ofInt_nibble_lt low high
      cases other with
      | sustain => exact absurd rfl different
      | release => exact congrArg Int.ofNat (low_withHighNibble segment.sustainRelease small)
      | _ => rfl
  | release =>
      have small := toNat_ofInt_nibble_lt low high
      cases other with
      | release => exact absurd rfl different
      | sustain => exact congrArg Int.ofNat (high_withLowNibble segment.sustainRelease small)
      | _ => rfl
  | _ => cases other <;> first | rfl | exact absurd rfl different

theorem get_store (other : Field) :
    (segment.store value field).get other = if other = field then value else segment.get other := by
  by_cases same : other = field
  · rw [if_pos same, same, segment.get_store_self low high]
  · rw [if_neg same, segment.get_store_of_ne low high same]

end Stored

theorem get_set (segment : Segment) (field : Field) (value : Int32) (other : Field) :
    (segment.set field value).get other =
      if other = field then field.clamp value.toInt else segment.get other :=
  segment.get_store (field.clamp_bounds _).1 (field.clamp_bounds _).2 other

variable {segment : Segment}

theorem InRange.set (ranged : segment.InRange) (field : Field) (value : Int32) :
    (segment.set field value).InRange := by
  intro other
  rw [get_set]
  by_cases same : other = field
  · rw [if_pos same, same]
    exact field.clamp_bounds value.toInt
  · rw [if_neg same]
    exact ranged other

theorem InRange.of_control (ranged : segment.InRange) (control : Control) :
    ({ segment with control := control } : Segment).InRange := by
  intro field
  have same : ({ segment with control := control } : Segment).get field = segment.get field := by
    cases field <;> rfl
  rw [same]
  exact ranged field

end Segment

end SoundEffect
