import SoundEffect.EffectFile

namespace SoundEffect.EffectFile

theorem toNat_word (low high : UInt8) : (word low high).toNat = low.toNat + 256 * high.toNat := by
  have small := low.toNat_lt
  have shifted : (high.toUInt16 <<< 8).toNat = high.toNat <<< 8 := by
    have bounded := high.toNat_lt
    have eight : (8 : UInt16).toNat % 16 = 8 := rfl
    rw [UInt16.toNat_shiftLeft, UInt8.toNat_toUInt16, eight, Nat.shiftLeft_eq]
    exact Nat.mod_eq_of_lt (by omega)
  rw [word, UInt16.toNat_or, shifted, UInt8.toNat_toUInt16, Nat.or_comm,
    ← Nat.shiftLeft_add_eq_or_of_lt small, Nat.shiftLeft_eq]
  omega

theorem toNat_lowByte (w : UInt16) : (lowByte w).toNat = w.toNat % 256 := by
  simp [lowByte]

theorem toNat_highByte (w : UInt16) : (highByte w).toNat = w.toNat / 256 := by
  have bounded := w.toNat_lt
  have eight : (8 : UInt16).toNat % 16 = 8 := rfl
  rw [highByte, UInt16.toNat_toUInt8, UInt16.toNat_shiftRight, eight, Nat.shiftRight_eq_div_pow]
  exact Nat.mod_eq_of_lt (by omega)

theorem word_bytes (w : UInt16) : word (lowByte w) (highByte w) = w := by
  apply UInt16.toNat_inj.mp
  rw [toNat_word, toNat_lowByte, toNat_highByte]
  omega

theorem lowByte_word (low high : UInt8) : lowByte (word low high) = low := by
  have bounded := low.toNat_lt
  apply UInt8.toNat_inj.mp
  rw [toNat_lowByte, toNat_word]
  omega

theorem highByte_word (low high : UInt8) : highByte (word low high) = high := by
  have bounded := low.toNat_lt
  apply UInt8.toNat_inj.mp
  rw [toNat_highByte, toNat_word]
  omega

theorem length_encodeRecord (segment : Segment) : (encodeRecord segment).length = recordSize := rfl

theorem decodeRecords_encodeRecord (segment : Segment) (rest : List UInt8) :
    decodeRecords (encodeRecord segment ++ rest) = segment :: decodeRecords rest := by
  simp only [encodeRecord, List.cons_append, List.nil_append, decodeRecords, word_bytes,
    Int16.toInt16_toUInt16]

theorem decodeRecords_flatMap (segments : List Segment) :
    decodeRecords (segments.flatMap encodeRecord) = segments := by
  induction segments with
  | nil => rfl
  | cons segment segments ih =>
      rw [List.flatMap_cons, decodeRecords_encodeRecord, ih]

theorem length_flatMap_encodeRecord (segments : List Segment) :
    (segments.flatMap encodeRecord).length = recordSize * segments.length := by
  induction segments with
  | nil => rfl
  | cons segment segments ih =>
      rw [List.flatMap_cons, List.length_append, ih, length_encodeRecord, List.length_cons,
        Nat.mul_succ, Nat.add_comm]

theorem exists_encodeRecord {record : List UInt8} (size : record.length = recordSize) :
    ∃ segment, encodeRecord segment = record := by
  match record, size with
  | [f₀, f₁, w₀, w₁, control, attackDecay, sustainRelease, df₀, df₁, dw₀, dw₁, gateTicks,
      releaseTicks, priority], _ =>
      refine ⟨⟨word f₀ f₁, word w₀ w₁, ⟨control⟩, attackDecay, sustainRelease,
        (word df₀ df₁).toInt16, (word dw₀ dw₁).toInt16, gateTicks, releaseTicks, priority⟩, ?_⟩
      simp only [encodeRecord, UInt16.toUInt16_toInt16, lowByte_word, highByte_word]

theorem exists_flatMap_encodeRecord {count : Nat} {bytes : List UInt8}
    (size : bytes.length = recordSize * count) :
    ∃ segments : List Segment, segments.length = count ∧
      segments.flatMap encodeRecord = bytes := by
  induction count generalizing bytes with
  | zero => exact ⟨[], rfl, (List.length_eq_zero_iff.mp size).symm⟩
  | succ count ih =>
      have first : (bytes.take recordSize).length = recordSize := by
        rw [List.length_take, size, Nat.min_eq_left]
        exact Nat.le_mul_of_pos_right _ (Nat.succ_pos _)
      have rest : (bytes.drop recordSize).length = recordSize * count := by
        rw [List.length_drop, size, Nat.mul_succ]
        omega
      obtain ⟨segment, encoded⟩ := exists_encodeRecord first
      obtain ⟨segments, counted, encoded'⟩ := ih rest
      refine ⟨segment :: segments, by rw [List.length_cons, counted], ?_⟩
      rw [List.flatMap_cons, encoded, encoded', List.take_append_drop]

theorem take_file {version count : UInt8} {segments : List Segment} {tail : List UInt8}
    (counted : segments.length = count.toNat) :
    (version :: count :: (segments.flatMap encodeRecord ++ tail)).take (2 + 14 * count.toNat) =
      version :: count :: segments.flatMap encodeRecord := by
  have size : (segments.flatMap encodeRecord).length = 14 * count.toNat := by
    rw [length_flatMap_encodeRecord, counted]
    rfl
  rw [Nat.add_comm, List.take_succ_cons, List.take_succ_cons, List.take_left' size]

end SoundEffect.EffectFile
