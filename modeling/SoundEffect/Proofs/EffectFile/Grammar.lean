import SoundEffect.Proofs.EffectFile.Records
import SoundEffect.Proofs.Segment.Ranges
import SoundEffect.Proofs.Stream.Delivery

namespace SoundEffect.EffectFile

variable {source : Source} {bytes : List UInt8} {closing : Ending}
  {result : Except Error Program} {program : Program} {count consumed : Nat}

/-- A source may also say by a fault that its input is at an end. -/
def stopped (part : FilePart) : Ending → Error
  | .endOfInput => .format (.truncated part)
  | .fault cause =>
      if cause.kind = .unexpectedEnd then .format (.truncated part) else .io cause

theorem readPart_of_le (part : FilePart) (enough : count ≤ source.delivered.length) :
    ∃ rest, readPart part count source = (.ok (source.delivered.take count), rest) ∧
      source.Leaves count rest := by
  obtain ⟨rest, read, leaves⟩ := source.read_of_le enough
  exact ⟨rest, by rw [readPart, read], leaves⟩

theorem readPart_of_lt (part : FilePart) (short : source.delivered.length < count) :
    ∃ rest, readPart part count source = (.error (stopped part source.closing), rest) ∧
      source.Leaves source.delivered.length rest := by
  obtain ⟨rest, read, leaves⟩ := source.read_of_lt short
  refine ⟨rest, ?_, leaves⟩
  rw [readPart, read]
  cases source.closing with
  | endOfInput => rfl
  | fault cause =>
      by_cases early : cause.kind = .unexpectedEnd
      · simp [Ending.cause, stopped, early]
      · simp [Ending.cause, stopped, early]

/-- The answers to the bytes of a source and to the way it goes on, each with the number of bytes
that are taken from it. A check is made only where those above it have passed. -/
inductive Verdict (bytes : List UInt8) (closing : Ending) : Except Error Program → Nat → Prop
  | noHeader (short : bytes.length < 2) :
      Verdict bytes closing (.error (stopped .header closing)) bytes.length
  | badMagic {version count body} (split : bytes = version :: count :: body)
      (old : version.toNat < 0xB3) :
      Verdict bytes closing (.error (.format (.badMagic version))) 2
  | badCount {version count body} (split : bytes = version :: count :: body)
      (recent : 0xB3 ≤ version.toNat) (outside : count.toNat < 1 ∨ 15 < count.toNat) :
      Verdict bytes closing (.error (.format (.segmentCount count.toNat))) 2
  | fewRecords {version count body} (split : bytes = version :: count :: body)
      (recent : 0xB3 ≤ version.toNat) (nonempty : 1 ≤ count.toNat) (fits : count.toNat ≤ 15)
      (short : body.length < 14 * count.toNat) :
      Verdict bytes closing (.error (stopped .records closing)) bytes.length
  | whole {version count} {segments : List Segment} {tail}
      (split : bytes = version :: count :: (segments.flatMap encodeRecord ++ tail))
      (recent : 0xB3 ≤ version.toNat) (nonempty : 1 ≤ count.toNat) (fits : count.toNat ≤ 15)
      (counted : segments.length = count.toNat) :
      Verdict bytes closing (.ok ⟨segments.map Segment.clamped⟩) (2 + 14 * count.toNat)

theorem Verdict.consumed_le (verdict : Verdict bytes closing result consumed) :
    consumed ≤ bytes.length := by
  cases verdict with
  | noHeader | fewRecords => exact Nat.le_refl _
  | badMagic split | badCount split => simp [split]
  | @whole version count segments tail split _ _ _ counted =>
      have size := length_flatMap_encodeRecord segments
      rw [split, List.length_cons, List.length_cons, List.length_append, size, counted, recordSize]
      omega

theorem segmentCount_of_old {version count : UInt8} {body : List UInt8}
    (old : version.toNat < 0xB3) :
    segmentCount (version :: count :: body) = .error (.badMagic version) := by
  rw [segmentCount, if_pos (UInt8.lt_iff_toNat_lt.mpr old)]

theorem segmentCount_of_outside {version count : UInt8} {body : List UInt8}
    (recent : 0xB3 ≤ version.toNat) (outside : count.toNat < 1 ∨ 15 < count.toNat) :
    segmentCount (version :: count :: body) = .error (.segmentCount count.toNat) := by
  have passes : ¬ version < magic := UInt8.not_lt.mpr (UInt8.le_iff_toNat_le.mpr recent)
  have fails : count = 0 ∨ Program.capacity < count.toNat :=
    outside.imp_left fun none => UInt8.toNat_inj.mp (Nat.lt_one_iff.mp none)
  rw [segmentCount, if_neg passes, if_pos fails]

theorem segmentCount_of_inside {version count : UInt8} {body : List UInt8}
    (recent : 0xB3 ≤ version.toNat) (nonempty : 1 ≤ count.toNat) (fits : count.toNat ≤ 15) :
    segmentCount (version :: count :: body) = .ok count.toNat := by
  have passes : ¬ version < magic := UInt8.not_lt.mpr (UInt8.le_iff_toNat_le.mpr recent)
  have passes' : ¬ (count = 0 ∨ Program.capacity < count.toNat) := by
    rintro (rfl | many)
    · exact absurd nonempty (by decide)
    · exact absurd fits (Nat.not_le.mpr many)
  rw [segmentCount, if_neg passes, if_neg passes']

theorem read_verdict (source : Source) :
    ∃ consumed, Verdict source.delivered source.closing (read source).1 consumed ∧
      source.Leaves consumed (read source).2 := by
  rcases Nat.lt_or_ge source.delivered.length 2 with short | enough
  · obtain ⟨rest, header, leaves⟩ := readPart_of_lt .header short
    simp only [read, header]
    exact ⟨_, .noHeader short, leaves⟩
  · obtain ⟨middle, header, leaves⟩ := readPart_of_le .header enough
    obtain ⟨version, count, body, split⟩ :
        ∃ version count body, source.delivered = version :: count :: body := by
      match source.delivered, enough with
      | version :: count :: body, _ => exact ⟨version, count, body, rfl⟩
    have left : middle.delivered = body := by
      rw [leaves.delivered, split]
      rfl
    have start : source.delivered.take 2 = [version, count] := by
      rw [split]
      rfl
    rw [start] at header
    rcases Nat.lt_or_ge version.toNat 0xB3 with old | recent
    · simp only [read, header, segmentCount_of_old old]
      exact ⟨2, .badMagic split old, leaves⟩
    · by_cases outside : count.toNat < 1 ∨ 15 < count.toNat
      · simp only [read, header, segmentCount_of_outside recent outside]
        exact ⟨2, .badCount split recent outside, leaves⟩
      · obtain ⟨nonempty, fits⟩ : 1 ≤ count.toNat ∧ count.toNat ≤ 15 := by omega
        have counted := @segmentCount_of_inside version count [] recent nonempty fits
        rcases Nat.lt_or_ge body.length (count.toNat * recordSize) with short | enough'
        · obtain ⟨rest, records, leaves'⟩ := readPart_of_lt .records (left.symm ▸ short)
          simp only [read, header, counted, records, leaves.closing]
          refine ⟨_, .fewRecords split recent nonempty fits ?_, ?_⟩
          · rwa [Nat.mul_comm]
          · rw [split, List.length_cons, List.length_cons, Nat.add_assoc, Nat.add_comm, ← left]
            exact leaves.trans leaves'
        · obtain ⟨rest, records, leaves'⟩ := readPart_of_le .records (left.symm ▸ enough')
          have size : (body.take (count.toNat * recordSize)).length = recordSize * count.toNat := by
            rw [List.length_take, Nat.min_eq_left enough', Nat.mul_comm]
          obtain ⟨segments, length, encoded⟩ := exists_flatMap_encodeRecord size
          have built : Program.ofSegments segments = .ok ⟨segments.map Segment.clamped⟩ :=
            Program.ofSegments_eq_ok_iff.mpr ⟨length ▸ nonempty, length ▸ fits, rfl⟩
          rw [left, ← encoded] at records
          simp only [read, header, counted, records, decodeRecords_flatMap, built]
          have whole : source.delivered = version :: count ::
              (segments.flatMap encodeRecord ++ body.drop (count.toNat * recordSize)) := by
            rw [encoded, List.take_append_drop, split]
          refine ⟨_, .whole whole recent nonempty fits length, ?_⟩
          rw [Nat.mul_comm 14]
          exact leaves.trans leaves'

theorem eq_of_take_file {version count version' count' : UInt8} {segments others : List Segment}
    {tail tail' : List UInt8} (counted : segments.length = count.toNat)
    (counted' : others.length = count'.toNat)
    (same : version :: count :: (segments.flatMap encodeRecord ++ tail) =
      version' :: count' :: (others.flatMap encodeRecord ++ tail')) :
    count' = count ∧ others = segments := by
  have counts : count' = count := by simp_all
  subst counts
  have records := congrArg (List.take (2 + 14 * count'.toNat)) same
  rw [take_file counted, take_file counted'] at records
  have records := (List.cons.inj (List.cons.inj records).2).2
  rw [← decodeRecords_flatMap others, ← records, decodeRecords_flatMap]
  exact ⟨rfl, rfl⟩

theorem Verdict.of_whole {version count : UInt8} {segments : List Segment} {tail : List UInt8}
    (verdict : Verdict bytes closing result consumed)
    (split : bytes = version :: count :: (segments.flatMap encodeRecord ++ tail))
    (recent : 0xB3 ≤ version.toNat) (nonempty : 1 ≤ count.toNat) (fits : count.toNat ≤ 15)
    (counted : segments.length = count.toNat) :
    result = .ok ⟨segments.map Segment.clamped⟩ ∧ consumed = 2 + 14 * count.toNat := by
  cases verdict with
  | noHeader short =>
      rw [split, List.length_cons, List.length_cons] at short
      omega
  | badMagic split' old =>
      obtain ⟨rfl, -⟩ := List.cons.inj (split.symm.trans split')
      omega
  | badCount split' _ outside =>
      obtain ⟨rfl, -⟩ := List.cons.inj (List.cons.inj (split.symm.trans split')).2
      omega
  | fewRecords split' _ _ _ short =>
      obtain ⟨rfl, rfl⟩ := List.cons.inj (List.cons.inj (split.symm.trans split')).2
      have size := length_flatMap_encodeRecord segments
      rw [counted, recordSize] at size
      rw [List.length_append] at short
      omega
  | whole split' _ _ _ counted' =>
      obtain ⟨rfl, rfl⟩ := eq_of_take_file counted counted' (split.symm.trans split')
      exact ⟨rfl, rfl⟩

def HoldsFile (bytes : List UInt8) : Prop :=
  ∃ version count body, bytes = version :: count :: body ∧ 0xB3 ≤ version.toNat ∧
    1 ≤ count.toNat ∧ count.toNat ≤ 15 ∧ 2 + 14 * count.toNat ≤ bytes.length

theorem HoldsFile.exists_records (holds : HoldsFile bytes) :
    ∃ (version count : UInt8) (segments : List Segment) (tail : List UInt8),
      bytes = version :: count :: (segments.flatMap encodeRecord ++ tail) ∧
        0xB3 ≤ version.toNat ∧ 1 ≤ count.toNat ∧ count.toNat ≤ 15 ∧
        segments.length = count.toNat := by
  obtain ⟨version, count, body, rfl, recent, nonempty, fits, enough⟩ := holds
  rw [List.length_cons, List.length_cons] at enough
  have size : (body.take (14 * count.toNat)).length = recordSize * count.toNat := by
    rw [List.length_take, recordSize]
    omega
  obtain ⟨segments, counted, encoded⟩ := exists_flatMap_encodeRecord size
  refine ⟨version, count, segments, body.drop (14 * count.toNat), ?_, recent, nonempty, fits,
    counted⟩
  rw [encoded, List.take_append_drop]

theorem Verdict.holdsFile (verdict : Verdict bytes closing (.ok program) consumed) :
    HoldsFile bytes := by
  have enough := verdict.consumed_le
  cases verdict with
  | whole split recent nonempty fits counted =>
      exact ⟨_, _, _, split, recent, nonempty, fits, enough⟩

theorem Verdict.ne_program (verdict : Verdict bytes closing result consumed)
    (fault : ProgramFault) : result ≠ .error (.program fault) := by
  cases verdict with
  | noHeader | fewRecords =>
      cases closing with
      | endOfInput => simp [stopped]
      | fault cause =>
          simp only [stopped]
          split <;> simp
  | badMagic | badCount | whole => simp

theorem read_accepts_iff_holdsFile (source : Source) :
    ((∃ program, (read source).1 = .ok program) ↔ HoldsFile source.delivered) ∧
      (∃ consumed ≤ source.delivered.length,
        Verdict source.delivered source.closing (read source).1 consumed ∧
          source.Leaves consumed (read source).2) ∧
      (∀ program, (read source).1 = .ok program →
        ∃ version count body, source.delivered = version :: count :: body ∧
          source.Leaves (2 + 14 * count.toNat) (read source).2 ∧
          ∀ other : Source, other.delivered.take (2 + 14 * count.toNat) =
              source.delivered.take (2 + 14 * count.toNat) →
            (read other).1 = .ok program) ∧
      ∀ fault, (read source).1 ≠ .error (.program fault) := by
  obtain ⟨consumed, verdict, leaves⟩ := read_verdict source
  refine ⟨⟨?_, ?_⟩, ⟨consumed, verdict.consumed_le, verdict, leaves⟩, ?_, verdict.ne_program⟩
  · rintro ⟨program, made⟩
    rw [made] at verdict
    exact verdict.holdsFile
  · intro holds
    obtain ⟨version, count, segments, tail, split, recent, nonempty, fits, counted⟩ :=
      holds.exists_records
    exact ⟨_, (verdict.of_whole split recent nonempty fits counted).1⟩
  · intro program made
    rw [made] at verdict
    cases verdict with
    | @whole version count segments tail split recent nonempty fits counted =>
        refine ⟨version, count, _, split, leaves, fun other same => ?_⟩
        rw [split, take_file counted] at same
        have split' : other.delivered = version :: count :: (segments.flatMap encodeRecord ++
            other.delivered.drop (2 + 14 * count.toNat)) := by
          rw [← List.cons_append, ← List.cons_append, ← same, List.take_append_drop]
        obtain ⟨consumed', verdict', -⟩ := read_verdict other
        exact (verdict'.of_whole split' recent nonempty fits counted).1

def brokenOff : Source :=
  ⟨[.piece [0xB4], .fault (.custom .interrupted "interrupted"), .piece [1, 0xE8, 3, 0, 8, 0x21],
    .piece [0x11, 0x86, 0, 0, 0, 0, 4, 0, 0, 42], .fault (.custom .other "reader failed")]⟩

theorem read_accepts_iff_holdsFile_brokenOff :
    HoldsFile brokenOff.delivered ∧ (read brokenOff).1 = .ok .base ∧
      brokenOff.Leaves 16 (read brokenOff).2 ∧ (read brokenOff).2.delivered = [42] ∧
      (read (.ofBytes (brokenOff.delivered.take 16))).1 = .ok .base := by
  obtain ⟨accepts, -, alone, -⟩ := read_accepts_iff_holdsFile brokenOff
  have made : (read brokenOff).1 = .ok .base := by rfl
  obtain ⟨version, count, body, split, leaves, agrees⟩ := alone _ made
  obtain rfl : 1 = count := (List.cons.inj (List.cons.inj split).2).1
  refine ⟨accepts.mp ⟨_, made⟩, made, leaves, leaves.delivered, agrees _ ?_⟩
  rw [Source.delivered_ofBytes]
  rfl

def endsByFault : Source :=
  ⟨[.piece [0xB3], .fault (.custom .unexpectedEnd "reader failed")]⟩

def keepsBack : Source :=
  ⟨[.piece [], .fault (.custom .other "reader failed")]⟩

theorem read_truncated_of_fault :
    endsByFault.closing = .fault (.custom .unexpectedEnd "reader failed") ∧
      (read endsByFault).1 ≠ .error (.io (.custom .unexpectedEnd "reader failed")) ∧
      (read endsByFault).1 = .error (.format (.truncated .header)) ∧
      (read keepsBack).1 ≠ .error (.io (.custom .other "reader failed")) ∧
      (read keepsBack).1 = .error (.format (.truncated .header)) := by
  decide +kernel

end SoundEffect.EffectFile
