import SoundEffect.Proofs.Segment.Fields

namespace SoundEffect

namespace Field

variable {field : Field} {value a b : Int}

theorem clamp_of_inside (low : field.lowest ≤ value) (high : value ≤ field.highest) :
    field.clamp value = value := by
  rw [clamp, Int.min_eq_left high, Int.max_eq_right low]

theorem clamp_clamp (field : Field) (value : Int) :
    field.clamp (field.clamp value) = field.clamp value :=
  clamp_of_inside (field.clamp_bounds value).1 (field.clamp_bounds value).2

theorem clamp_saturated (field : Field) (value : Int) :
    field.clamp (max (-2147483648) (min value 2147483647)) = field.clamp value := by
  -- every range lies within 32 bits, so nothing is lost that the range would have kept
  have low : -2147483648 ≤ field.lowest := by cases field <;> decide
  have high : field.highest ≤ 2147483647 := by cases field <;> decide
  simp only [clamp]
  omega

theorem clamp_add_clamp (low : field.lowest ≤ value) (high : value ≤ field.highest)
    (alike : 0 ≤ a ∧ 0 ≤ b ∨ a ≤ 0 ∧ b ≤ 0) :
    field.clamp (field.clamp (value + a) + b) = field.clamp (value + (a + b)) := by
  -- a step that stops at an end of the range leaves nothing to a further one in its direction
  simp only [clamp]
  omega

end Field

namespace Segment

variable {segment : Segment}

theorem byte_eq_of_nibbles {a b : UInt8} (high : (a >>> 4).toNat = (b >>> 4).toNat)
    (low : (a &&& 0x0F).toNat = (b &&& 0x0F).toNat) : a = b := by
  rw [toNat_high_nibble, toNat_high_nibble] at high
  rw [toNat_low_nibble, toNat_low_nibble] at low
  exact UInt8.toNat_inj.mp (by omega)

theorem eq_of_get {a b : Segment} (fields : ∀ field, a.get field = b.get field)
    (control : a.control = b.control) (priority : a.priority = b.priority) : a = b := by
  have frequency : a.frequency = b.frequency :=
    UInt16.toNat_inj.mp (Int.ofNat_inj.mp (fields .frequency))
  have pulseWidth : a.pulseWidth = b.pulseWidth :=
    UInt16.toNat_inj.mp (Int.ofNat_inj.mp (fields .pulseWidth))
  have attackDecay : a.attackDecay = b.attackDecay :=
    byte_eq_of_nibbles (Int.ofNat_inj.mp (fields .attack)) (Int.ofNat_inj.mp (fields .decay))
  have sustainRelease : a.sustainRelease = b.sustainRelease :=
    byte_eq_of_nibbles (Int.ofNat_inj.mp (fields .sustain)) (Int.ofNat_inj.mp (fields .release))
  have freqGlide : a.freqGlide = b.freqGlide := Int16.toInt_inj.mp (fields .freqGlide)
  have pulseGlide : a.pulseGlide = b.pulseGlide := Int16.toInt_inj.mp (fields .pulseGlide)
  have gateTicks : a.gateTicks = b.gateTicks :=
    UInt8.toNat_inj.mp (Int.ofNat_inj.mp (fields .gateTicks))
  have releaseTicks : a.releaseTicks = b.releaseTicks :=
    UInt8.toNat_inj.mp (Int.ofNat_inj.mp (fields .releaseTicks))
  cases a
  cases b
  simp only [mk.injEq]
  exact ⟨frequency, pulseWidth, control, attackDecay, sustainRelease, freqGlide, pulseGlide,
    gateTicks, releaseTicks, priority⟩

@[simp] theorem control_set (segment : Segment) (field : Field) (value : Int32) :
    (segment.set field value).control = segment.control := by
  cases field <;> rfl

@[simp] theorem priority_set (segment : Segment) (field : Field) (value : Int32) :
    (segment.set field value).priority = segment.priority := by
  cases field <;> rfl

theorem set_comm (segment : Segment) {field other : Field} (different : other ≠ field)
    (value second : Int32) :
    (segment.set field value).set other second = (segment.set other second).set field value := by
  refine eq_of_get (fun seen => ?_) (by simp) (by simp)
  simp only [get_set]
  by_cases here : seen = field
  · rw [if_neg (fun there => different (there.symm.trans here)), if_pos here, if_pos here]
  · rw [if_neg here, if_neg here]

theorem set_set (segment : Segment) (field : Field) (value later : Int32) :
    (segment.set field value).set field later = segment.set field later := by
  refine eq_of_get (fun seen => ?_) (by simp) (by simp)
  simp only [get_set]
  by_cases here : seen = field
  · rw [if_pos here, if_pos here]
  · rw [if_neg here, if_neg here, if_neg here]

theorem toInt_saturatingSum (a b : Int) :
    (saturatingSum a b).toInt = max (-2147483648) (min (a + b) 2147483647) :=
  Int32.toInt_ofInt_of_le (by omega) (by omega)

theorem get_adjust (segment : Segment) (field : Field) (delta : Int32) (other : Field) :
    (segment.adjust field delta).get other =
      if other = field then field.clamp (segment.get field + delta.toInt) else segment.get other := by
  rw [adjust, get_set, toInt_saturatingSum, Field.clamp_saturated]

theorem adjust_adjust {field : Field} (low : field.lowest ≤ segment.get field)
    (high : segment.get field ≤ field.highest) {delta further total : Int32}
    (alike : 0 ≤ delta.toInt ∧ 0 ≤ further.toInt ∨ delta.toInt ≤ 0 ∧ further.toInt ≤ 0)
    (sum : total.toInt = delta.toInt + further.toInt) :
    (segment.adjust field delta).adjust field further = segment.adjust field total := by
  refine eq_of_get (fun seen => ?_) (by simp [adjust]) (by simp [adjust])
  simp only [get_adjust, if_true]
  by_cases here : seen = field
  · rw [if_pos here, if_pos here, sum, Field.clamp_add_clamp low high alike]
  · rw [if_neg here, if_neg here, if_neg here]

structure DiffersIn (field : Field) (before after : Segment) : Prop where
  others : ∀ other, other ≠ field → after.get other = before.get other
  control : after.control = before.control
  priority : after.priority = before.priority

structure Written (segment : Segment) (field : Field) (value : Int32) : Prop where
  clamped : (segment.set field value).get field = max field.lowest (min value.toInt field.highest)
  alone : DiffersIn field segment (segment.set field value)
  commutes : ∀ other, other ≠ field → ∀ second,
    (segment.set field value).set other second = (segment.set other second).set field value
  overridden : ∀ later, (segment.set field value).set field later = segment.set field later

structure Moved (segment : Segment) (field : Field) (delta : Int32) : Prop where
  clamped : (segment.adjust field delta).get field =
    max field.lowest (min (segment.get field + delta.toInt) field.highest)
  alone : DiffersIn field segment (segment.adjust field delta)
  adds : field.lowest ≤ segment.get field → segment.get field ≤ field.highest →
    ∀ further total : Int32,
      (0 ≤ delta.toInt ∧ 0 ≤ further.toInt ∨ delta.toInt ≤ 0 ∧ further.toInt ≤ 0) →
        total.toInt = delta.toInt + further.toInt →
          (segment.adjust field delta).adjust field further = segment.adjust field total

theorem differsIn_set (segment : Segment) (field : Field) (value : Int32) :
    DiffersIn field segment (segment.set field value) where
  others other different := by rw [get_set, if_neg different]
  control := segment.control_set field value
  priority := segment.priority_set field value

theorem fields_independent (segment : Segment) (field : Field) (value delta : Int32) :
    segment.Written field value ∧ segment.Moved field delta := by
  refine ⟨⟨?_, segment.differsIn_set field value, ?_, segment.set_set field value⟩,
    ⟨?_, segment.differsIn_set field _, ?_⟩⟩
  · rw [get_set, if_pos rfl, Field.clamp]
  · intro other different second
    exact segment.set_comm different value second
  · rw [get_adjust, if_pos rfl, Field.clamp]
  · intro low high further total alike sum
    exact adjust_adjust low high alike sum

def outOfRange : Segment :=
  { Segment.base with
    pulseWidth := 60000, attackDecay := 0x2A, freqGlide := -32768, pulseGlide := 32767,
    gateTicks := 250, priority := 7 }

theorem fields_independent_outOfRange :
    (outOfRange.set .attack 99).get .attack = 15 ∧ (outOfRange.set .attack 99).get .decay = 10 ∧
      (outOfRange.set .attack 99).set .decay (-1) = (outOfRange.set .decay (-1)).set .attack 99 ∧
      (outOfRange.adjust .pulseGlide (-2147483648)).get .pulseGlide = -4095 ∧
      (outOfRange.adjust .frequency 60000).adjust .frequency 60000 =
        outOfRange.adjust .frequency 120000 := by
  obtain ⟨written, -⟩ := fields_independent outOfRange .attack 99 0
  obtain ⟨-, lowered⟩ := fields_independent outOfRange .pulseGlide 0 (-2147483648)
  obtain ⟨-, raised⟩ := fields_independent outOfRange .frequency 0 60000
  refine ⟨written.clamped, (written.alone.others .decay (by decide)).trans rfl,
    written.commutes .decay (by decide) (-1), lowered.clamped, ?_⟩
  exact raised.adds (by decide) (by decide) 60000 120000 (by decide) (by decide)

end Segment

end SoundEffect
