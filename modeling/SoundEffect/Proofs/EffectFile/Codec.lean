import SoundEffect.Proofs.EffectFile.Grammar

namespace SoundEffect.EffectFile

theorem decode_verdict (bytes : List UInt8) :
    ∃ consumed, Verdict bytes (Source.ofBytes bytes).closing (decode bytes) consumed := by
  obtain ⟨consumed, verdict, -⟩ := read_verdict (.ofBytes bytes)
  rw [Source.delivered_ofBytes] at verdict
  exact ⟨consumed, verdict⟩

theorem decode_of_header {version count : UInt8} {segments : List Segment} (tail : List UInt8)
    (recent : magic ≤ version) (counted : segments.length = count.toNat)
    (nonempty : 1 ≤ segments.length) (fits : segments.length ≤ Program.capacity) :
    decode (version :: count :: (segments.flatMap encodeRecord ++ tail)) =
      .ok ⟨segments.map Segment.clamped⟩ := by
  obtain ⟨consumed, verdict⟩ :=
    decode_verdict (version :: count :: (segments.flatMap encodeRecord ++ tail))
  rw [counted] at nonempty fits
  exact (verdict.of_whole rfl (UInt8.le_iff_toNat_le.mp recent) nonempty fits counted).1

theorem decode_eq_ok_iff {bytes : List UInt8} {program : Program} :
    decode bytes = .ok program ↔
      ∃ (version count : UInt8) (segments : List Segment) (tail : List UInt8),
        bytes = version :: count :: (segments.flatMap encodeRecord ++ tail) ∧ magic ≤ version ∧
          segments.length = count.toNat ∧ 1 ≤ segments.length ∧
          segments.length ≤ Program.capacity ∧ program = ⟨segments.map Segment.clamped⟩ := by
  constructor
  · intro decoded
    obtain ⟨consumed, verdict⟩ := decode_verdict bytes
    rw [decoded] at verdict
    cases verdict with
    | whole split recent nonempty fits counted =>
        rw [← counted] at nonempty fits
        exact ⟨_, _, _, _, split, UInt8.le_iff_toNat_le.mpr recent, counted, nonempty, fits, rfl⟩
  · rintro ⟨version, count, segments, tail, rfl, recent, counted, nonempty, fits, rfl⟩
    exact decode_of_header tail recent counted nonempty fits

theorem toNat_length {program : Program} (fits : program.length ≤ Program.capacity) :
    (UInt8.ofNat program.length).toNat = program.length := by
  rw [UInt8.toNat_ofNat']
  exact Nat.mod_eq_of_lt (Nat.lt_of_le_of_lt fits (by decide))

theorem decode_encode {program : Program} (valid : program.Valid) :
    decode (encode program) = .ok program := by
  have same := Program.map_clamped_of_inRange valid.inRange
  have counted : program.segments.length = (UInt8.ofNat program.length).toNat :=
    (toNat_length valid.fits).symm
  have read := decode_of_header [] (UInt8.le_refl magic) counted valid.nonempty valid.fits
  rw [List.append_nil, same] at read
  exact read

theorem length_encode (program : Program) :
    (encode program).length = 2 + recordSize * program.length := by
  rw [encode, List.length_cons, List.length_cons, length_flatMap_encodeRecord, Program.length]
  omega

/-- The values that two bytes have together, the lower one first, without and with a sign. -/
def unsignedAt (record : List UInt8) (i : Nat) : Nat :=
  (record.getD i 0).toNat + 256 * (record.getD (i + 1) 0).toNat

def signedAt (record : List UInt8) (i : Nat) : Int :=
  if unsignedAt record i < 32768 then unsignedAt record i else unsignedAt record i - 65536

def record (bytes : List UInt8) (i : Nat) : List UInt8 :=
  (bytes.drop (2 + 14 * i)).take 14

structure Ranged (record : List UInt8) : Prop where
  pulseWidth : unsignedAt record 2 ≤ 4095
  freqGlide : -32767 ≤ signedAt record 7
  pulseGlide : -4095 ≤ signedAt record 9 ∧ signedAt record 9 ≤ 4095
  gateTicks : (record.getD 11 0).toNat ≤ 99
  releaseTicks : (record.getD 12 0).toNat ≤ 99

structure Normalises (raw kept : List UInt8) : Prop where
  size : kept.length = 14
  frequency : unsignedAt kept 0 = unsignedAt raw 0
  pulseWidth : unsignedAt kept 2 = min (unsignedAt raw 2) 4095
  control : kept.getD 4 0 = raw.getD 4 0
  attackDecay : kept.getD 5 0 = raw.getD 5 0
  sustainRelease : kept.getD 6 0 = raw.getD 6 0
  freqGlide : signedAt kept 7 = max (signedAt raw 7) (-32767)
  pulseGlide : signedAt kept 9 = max (-4095) (min (signedAt raw 9) 4095)
  gateTicks : (kept.getD 11 0).toNat = min (raw.getD 11 0).toNat 99
  releaseTicks : (kept.getD 12 0).toNat = min (raw.getD 12 0).toNat 99
  priority : kept.getD 13 0 = raw.getD 13 0

theorem unsigned_bytes (w : UInt16) :
    (lowByte w).toNat + 256 * (highByte w).toNat = w.toNat := by
  rw [← toNat_word, word_bytes]

theorem signed_bytes (glide : Int16) :
    (if glide.toUInt16.toNat < 32768 then (glide.toUInt16.toNat : Int)
      else glide.toUInt16.toNat - 65536) = glide.toInt := by
  have bounded := glide.toBitVec.isLt
  have same : glide.toUInt16.toNat = glide.toBitVec.toNat := rfl
  rw [same, ← Int16.toInt_toBitVec, BitVec.toInt_eq_toNat_cond]
  split <;> split <;> omega

@[simp] theorem unsignedAt_frequency (segment : Segment) :
    unsignedAt (encodeRecord segment) 0 = segment.frequency.toNat :=
  unsigned_bytes segment.frequency

@[simp] theorem unsignedAt_pulseWidth (segment : Segment) :
    unsignedAt (encodeRecord segment) 2 = segment.pulseWidth.toNat :=
  unsigned_bytes segment.pulseWidth

@[simp] theorem signedAt_freqGlide (segment : Segment) :
    signedAt (encodeRecord segment) 7 = segment.freqGlide.toInt := by
  have bytes : unsignedAt (encodeRecord segment) 7 = segment.freqGlide.toUInt16.toNat :=
    unsigned_bytes segment.freqGlide.toUInt16
  rw [signedAt, bytes, signed_bytes]

@[simp] theorem signedAt_pulseGlide (segment : Segment) :
    signedAt (encodeRecord segment) 9 = segment.pulseGlide.toInt := by
  have bytes : unsignedAt (encodeRecord segment) 9 = segment.pulseGlide.toUInt16.toNat :=
    unsigned_bytes segment.pulseGlide.toUInt16
  rw [signedAt, bytes, signed_bytes]

theorem ranged_encodeRecord_iff (segment : Segment) :
    Ranged (encodeRecord segment) ↔ segment.InRange := by
  rw [Segment.inRange_iff]
  constructor
  · rintro ⟨pulseWidth, freqGlide, pulseGlide, gateTicks, releaseTicks⟩
    simp only [unsignedAt_pulseWidth, signedAt_freqGlide, signedAt_pulseGlide] at *
    exact ⟨pulseWidth, freqGlide, pulseGlide, gateTicks, releaseTicks⟩
  · rintro ⟨pulseWidth, freqGlide, pulseGlide, gateTicks, releaseTicks⟩
    exact ⟨by simpa using pulseWidth, by simpa using freqGlide, by simpa using pulseGlide,
      gateTicks, releaseTicks⟩

theorem normalises_clamped (segment : Segment) :
    Normalises (encodeRecord segment) (encodeRecord segment.clamped) := by
  refine ⟨rfl, ?_, ?_, rfl, rfl, rfl, ?_, ?_, ?_, ?_, rfl⟩
  · simp only [unsignedAt_frequency]
    rfl
  · simp only [unsignedAt_pulseWidth, Segment.toNat_pulseWidth_clamped]
  · simp only [signedAt_freqGlide, Segment.toInt_freqGlide_clamped]
  · simp only [signedAt_pulseGlide, Segment.toInt_pulseGlide_clamped]
  · exact segment.toNat_gateTicks_clamped
  · exact segment.toNat_releaseTicks_clamped

theorem take_drop_flatMap {segments : List Segment} {segment : Segment} {i : Nat}
    (here : segments[i]? = some segment) (tail : List UInt8) :
    ((segments.flatMap encodeRecord ++ tail).drop (14 * i)).take 14 = encodeRecord segment := by
  induction segments generalizing i with
  | nil => simp at here
  | cons first rest ih =>
      rw [List.flatMap_cons, List.append_assoc]
      cases i with
      | zero =>
          obtain rfl := Option.some.inj here
          exact List.take_left' (length_encodeRecord first)
      | succ i =>
          have skipped : (encodeRecord first).length = 14 := length_encodeRecord first
          rw [Nat.mul_succ, Nat.add_comm, ← List.drop_drop, List.drop_left' skipped]
          exact ih here

theorem record_file {segments : List Segment} {segment : Segment} {i : Nat}
    (here : segments[i]? = some segment) (version count : UInt8) (tail : List UInt8) :
    record (version :: count :: (segments.flatMap encodeRecord ++ tail)) i =
      encodeRecord segment := by
  rw [record, Nat.add_comm]
  exact take_drop_flatMap here tail

theorem flatMap_clamped_eq_iff (segments : List Segment) :
    (segments.map Segment.clamped).flatMap encodeRecord = segments.flatMap encodeRecord ↔
      ∀ segment ∈ segments, segment.InRange := by
  constructor
  · intro same segment member
    have unmoved : segments.map Segment.clamped = segments := by
      rw [← decodeRecords_flatMap (segments.map Segment.clamped), same, decodeRecords_flatMap]
    rw [← unmoved] at member
    obtain ⟨raw, -, rfl⟩ := List.mem_map.mp member
    exact raw.inRange_clamped
  · intro inRange
    rw [Program.map_clamped_of_inRange inRange]

structure Rewritten (bytes written : List UInt8) (count : UInt8) : Prop where
  size : written.length = 2 + 14 * count.toNat
  header : written.take 2 = [0xB3, count]
  records : ∀ i < count.toNat, Normalises (record bytes i) (record written i)
  unchanged : written = bytes.take (2 + 14 * count.toNat) ↔
    bytes.head? = some 0xB3 ∧ ∀ i < count.toNat, Ranged (record bytes i)

theorem rewritten_encode {bytes : List UInt8} {program : Program}
    (decoded : decode bytes = .ok program) :
    ∃ count, bytes[1]? = some count ∧ Rewritten bytes (encode program) count := by
  obtain ⟨version, count, segments, tail, rfl, -, counted, -, fits, rfl⟩ :=
    decode_eq_ok_iff.mp decoded
  have length : (⟨segments.map Segment.clamped⟩ : Program).length = segments.length :=
    List.length_map _
  have written : encode ⟨segments.map Segment.clamped⟩ =
      magic :: count :: ((segments.map Segment.clamped).flatMap encodeRecord ++ []) := by
    rw [encode, length, counted, UInt8.ofNat_toNat, List.append_nil]
  have segmentAt : ∀ i < count.toNat, ∃ segment, segments[i]? = some segment := by
    intro i inside
    exact ⟨segments[i], List.getElem?_eq_getElem (counted ▸ inside)⟩
  refine ⟨count, rfl, ?_, ?_, ?_, ?_⟩
  · rw [length_encode, length, counted]
    rfl
  · rw [written]
    rfl
  · intro i inside
    obtain ⟨segment, here⟩ := segmentAt i inside
    have here' : (segments.map Segment.clamped)[i]? = some segment.clamped := by
      rw [List.getElem?_map, here]
      rfl
    rw [written, record_file here, record_file here']
    exact normalises_clamped segment
  · rw [take_file counted, written, List.append_nil, List.cons.injEq, List.cons.injEq,
      flatMap_clamped_eq_iff]
    constructor
    · rintro ⟨rfl, -, inRange⟩
      refine ⟨rfl, ?_⟩
      intro i inside
      obtain ⟨segment, here⟩ := segmentAt i inside
      rw [record_file here, ranged_encodeRecord_iff]
      exact inRange segment (List.mem_of_getElem? here)
    · rintro ⟨current, ranged⟩
      refine ⟨(Option.some.inj current).symm, rfl, ?_⟩
      intro segment member
      obtain ⟨i, here⟩ := List.mem_iff_getElem?.mp member
      have inside : i < count.toNat := counted ▸ (List.getElem?_eq_some_iff.mp here).1
      have := ranged i inside
      rwa [record_file here, ranged_encodeRecord_iff] at this

theorem valid_of_decode {bytes : List UInt8} {program : Program}
    (decoded : decode bytes = .ok program) : program.Valid := by
  obtain ⟨-, -, segments, -, -, -, -, nonempty, fits, rfl⟩ := decode_eq_ok_iff.mp decoded
  exact Program.valid_of_ofSegments (Program.ofSegments_eq_ok_iff.mpr ⟨nonempty, fits, rfl⟩)

theorem lossless_and_normalising :
    (∀ program : Program, program.Valid →
      decode (encode program) = .ok program ∧
        (encode program).length = 2 + 14 * program.length) ∧
      ∀ bytes program, decode bytes = .ok program →
        (∃ count, bytes[1]? = some count ∧ Rewritten bytes (encode program) count) ∧
          decode (encode program) = .ok program := by
  constructor
  · intro program valid
    exact ⟨decode_encode valid, length_encode program⟩
  · intro bytes program decoded
    exact ⟨rewritten_encode decoded, decode_encode (valid_of_decode decoded)⟩

def untidyFile : List UInt8 :=
  [0xB4, 1, 0xE8, 3, 0xFF, 0xFF, 0x21, 0x11, 0x86, 0, 0x80, 0, 0x80, 200, 0, 7, 42]

theorem lossless_and_normalising_untidyFile :
    Program.base.Valid ∧ decode (encode .base) = .ok .base ∧
      ∃ program, decode untidyFile = .ok program ∧
        (∃ count, untidyFile[1]? = some count ∧
          Rewritten untidyFile (encode program) count) ∧
        encode program =
          [0xB3, 1, 0xE8, 3, 0xFF, 0x0F, 0x21, 0x11, 0x86, 1, 0x80, 1, 0xF0, 99, 0, 7] ∧
        decode (encode program) = .ok program := by
  have valid : Program.base.Valid :=
    Program.valid_of_ofSegments (show Program.ofSegments [.base] = .ok .base from rfl)
  have decoded : decode untidyFile = .ok ⟨(decodeRecords (untidyFile.drop 2)).map .clamped⟩ := by
    rfl
  obtain ⟨rewritten, again⟩ := lossless_and_normalising.2 _ _ decoded
  exact ⟨valid, (lossless_and_normalising.1 _ valid).1, _, decoded, rewritten, by decide, again⟩

end SoundEffect.EffectFile
