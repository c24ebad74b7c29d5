import SoundEffect.Proofs.Segment.Independence

namespace SoundEffect.Segment

def writeBack (segment : Segment) (field : Field) : Segment :=
  segment.set field (Int32.ofInt (segment.get field))

theorem get_bounds (segment : Segment) (field : Field) :
    -32768 ≤ segment.get field ∧ segment.get field ≤ 65535 := by
  have frequency := segment.frequency.toNat_lt
  have pulseWidth := segment.pulseWidth.toNat_lt
  have attack := segment.attack.toNat_lt
  have decay := segment.decay.toNat_lt
  have sustain := segment.sustain.toNat_lt
  have release := segment.release.toNat_lt
  have freqGlide : -32768 ≤ segment.freqGlide.toInt := segment.freqGlide.le_toInt
  have freqGlide' : segment.freqGlide.toInt < 32768 := segment.freqGlide.toInt_lt
  have pulseGlide : -32768 ≤ segment.pulseGlide.toInt := segment.pulseGlide.le_toInt
  have pulseGlide' : segment.pulseGlide.toInt < 32768 := segment.pulseGlide.toInt_lt
  have gateTicks := segment.gateTicks.toNat_lt
  have releaseTicks := segment.releaseTicks.toNat_lt
  cases field <;> simp only [get] <;> omega

theorem toInt_ofInt_get (segment : Segment) (field : Field) :
    (Int32.ofInt (segment.get field)).toInt = segment.get field := by
  have bounds := segment.get_bounds field
  exact Int32.toInt_ofInt_of_le (by omega) (by omega)

theorem get_writeBack (segment : Segment) (field other : Field) :
    (segment.writeBack field).get other =
      if other = field then other.clamp (segment.get other) else segment.get other := by
  rw [writeBack, get_set, toInt_ofInt_get]
  by_cases here : other = field
  · rw [if_pos here, if_pos here, here]
  · rw [if_neg here, if_neg here]

theorem get_foldl_writeBack (order : List Field) (segment : Segment) (field : Field) :
    (order.foldl writeBack segment).get field =
      if field ∈ order then field.clamp (segment.get field) else segment.get field := by
  induction order generalizing segment with
  | nil => rfl
  | cons first rest ih =>
      rw [List.foldl_cons, ih, get_writeBack]
      -- a field that comes again later is clamped a second time, to no effect
      by_cases here : field = first
      · have member : field ∈ first :: rest := here ▸ List.mem_cons_self
        rw [if_pos here, if_pos member, Field.clamp_clamp, ite_self]
      · rw [if_neg here]
        simp only [List.mem_cons, here, false_or]

theorem read_foldl_writeBack {α : Type} {read : Segment → α}
    (kept : ∀ segment field value, read (set segment field value) = read segment)
    (order : List Field) (segment : Segment) :
    read (order.foldl writeBack segment) = read segment := by
  induction order generalizing segment with
  | nil => rfl
  | cons first rest ih => rw [List.foldl_cons, ih, writeBack, kept]

theorem get_clamped (segment : Segment) (field : Field) :
    segment.clamped.get field = field.clamp (segment.get field) := by
  have frequency := segment.frequency.toNat_lt
  have attack := toNat_high_nibble_le segment.attackDecay
  have decay := toNat_low_nibble_le segment.attackDecay
  have sustain := toNat_high_nibble_le segment.sustainRelease
  have release := toNat_low_nibble_le segment.sustainRelease
  have freqGlide : segment.freqGlide.toInt < 32768 := segment.freqGlide.toInt_lt
  -- only five of the registers are wider than the ranges of their fields
  have inside (low : field.lowest ≤ segment.get field) (high : segment.get field ≤ field.highest) :
      segment.get field = field.clamp (segment.get field) := (Field.clamp_of_inside low high).symm
  cases field with
  | pulseWidth =>
      simp only [get, Field.clamp, Field.lowest, Field.highest, toNat_pulseWidth_clamped]
      omega
  | freqGlide =>
      simp only [get, Field.clamp, Field.lowest, Field.highest, toInt_freqGlide_clamped]
      omega
  | pulseGlide =>
      simp only [get, Field.clamp, Field.lowest, Field.highest, toInt_pulseGlide_clamped]
  | gateTicks =>
      simp only [get, Field.clamp, Field.lowest, Field.highest, toNat_gateTicks_clamped]
      omega
  | releaseTicks =>
      simp only [get, Field.clamp, Field.lowest, Field.highest, toNat_releaseTicks_clamped]
      omega
  | frequency | attack | decay | sustain | release =>
      refine inside ?_ ?_ <;>
        simp only [get, Field.lowest, Field.highest, Segment.attack, Segment.decay,
          Segment.sustain, Segment.release] <;> omega

theorem foldl_writeBack_eq_clamped (segment : Segment) {order : List Field}
    (complete : ∀ field, field ∈ order) : order.foldl writeBack segment = segment.clamped := by
  refine eq_of_get (fun field => ?_) ?_ ?_
  · rw [get_foldl_writeBack, if_pos (complete field), get_clamped]
  · exact read_foldl_writeBack control_set order segment
  · exact read_foldl_writeBack priority_set order segment

theorem clamped_by_fields (segment : Segment) {order : List Field}
    (complete : ∀ field, field ∈ order) :
    order.foldl writeBack segment = segment.clamped ∧
      segment.clamped.clamped = segment.clamped ∧
      (segment.clamped = segment ↔
        ∀ field : Field, field.lowest ≤ segment.get field ∧ segment.get field ≤ field.highest) ∧
      (∀ field : Field, segment.clamped.get field =
        max field.lowest (min (segment.get field) field.highest)) ∧
      segment.clamped.control = segment.control ∧ segment.clamped.priority = segment.priority :=
  ⟨foldl_writeBack_eq_clamped segment complete, clamped_of_inRange segment.inRange_clamped,
    clamped_eq_self_iff segment, segment.get_clamped, rfl, rfl⟩

theorem clamped_by_fields_outOfRange :
    (∀ field, field ∈ Field.all.reverse) ∧
      Field.all.reverse.foldl writeBack outOfRange = outOfRange.clamped ∧
      outOfRange.clamped.get .freqGlide = -32767 ∧ outOfRange.clamped.get .gateTicks = 99 ∧
      outOfRange.clamped ≠ outOfRange := by
  have complete : ∀ field, field ∈ Field.all.reverse :=
    fun field => List.mem_reverse.mpr field.mem_all
  obtain ⟨byFields, -, unchanged, clamped, -⟩ := clamped_by_fields outOfRange complete
  refine ⟨complete, byFields, clamped .freqGlide, clamped .gateTicks, fun same => ?_⟩
  exact absurd (unchanged.mp same .gateTicks).2 (by decide)

end SoundEffect.Segment
