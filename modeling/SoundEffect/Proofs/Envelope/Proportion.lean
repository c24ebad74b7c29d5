import SoundEffect.Proofs.Envelope.Release
import SoundEffect.Proofs.Segment.Ranges

namespace SoundEffect.Rates

structure TimeTable (times : List UInt64) : Prop where
  full : times.length = 16
  positive : 0 ∉ times
  ascending : times.Pairwise (· ≤ ·)

theorem timeTable_attackTimes : TimeTable attackTimes := by
  constructor <;> decide

theorem timeTable_decayTimes : TimeTable decayTimes := by
  constructor <;> decide

def timeOf (times : List UInt64) (nibble : UInt8) : UInt64 :=
  times.getD (nibble &&& 0x0F).toNat 1

def stepFrom (times : List UInt64) (rates : Rates) (nibble : UInt8) : UInt32 :=
  rates.step (timeOf times nibble)

def share (rates : Rates) (time : UInt64) : Nat :=
  8191 * rates.tickLength.toNat / (4 * time.toNat)

def Unclamped (rates : Rates) (time : UInt64) : Prop :=
  1 ≤ rates.share time ∧ rates.share time ≤ 65535

instance (rates : Rates) (time : UInt64) : Decidable (rates.Unclamped time) :=
  inferInstanceAs (Decidable (_ ∧ _))

variable {times : List UInt64} {rates rates' : Rates} {time time' : UInt64} {nibble nibble' : UInt8}

theorem toNat_step_eq_share (rates : Rates) (time : UInt64) :
    (rates.step time).toNat = max 1 (min (rates.share time) 65535) := by
  rw [toNat_step, toNat_reach, Nat.div_div_eq_div_mul, share]

theorem toNat_step_of_unclamped (free : rates.Unclamped time) :
    (rates.step time).toNat = rates.share time := by
  rw [toNat_step_eq_share, Nat.min_eq_left free.2, Nat.max_eq_right free.1]

theorem step_le_step (h : rates.share time ≤ rates'.share time') :
    rates.step time ≤ rates'.step time' := by
  rw [UInt32.le_iff_toNat_le, toNat_step_eq_share, toNat_step_eq_share]
  omega

theorem share_mono (longer : rates.tickLength ≤ rates'.tickLength) (time : UInt64) :
    rates.share time ≤ rates'.share time :=
  Nat.div_le_div_right (Nat.mul_le_mul_left 8191 (UInt32.le_iff_toNat_le.mp longer))

theorem divisor_pos (positive : time ≠ 0) : 0 < 4 * time.toNat := by
  have something : time.toNat ≠ 0 := fun zero => positive (UInt64.toNat_inj.mp zero)
  omega

theorem share_anti (positive : time ≠ 0) (slower : time ≤ time') (rates : Rates) :
    rates.share time' ≤ rates.share time :=
  Nat.div_le_div_left (Nat.mul_le_mul_left 4 (UInt64.le_iff_toNat_le.mp slower))
    (divisor_pos positive)

theorem mul_div_bounds {k d : Nat} (some : 1 ≤ k) (positive : 0 < d) (n : Nat) :
    k * (n / d) ≤ k * n / d ∧ k * n / d < k * (n / d + 1) := by
  constructor
  · exact Nat.mul_div_le_mul_div_assoc k n d
  · apply Nat.div_lt_of_lt_mul
    calc
      k * n < k * (d * (n / d + 1)) :=
        Nat.mul_lt_mul_of_pos_left (Nat.lt_mul_div_succ n positive) some
      _ = d * (k * (n / d + 1)) := Nat.mul_left_comm k d _

theorem TimeTable.getElem?_eq (table : TimeTable times) (nibble : UInt8) :
    times[(nibble &&& 0x0F).toNat]? = some (timeOf times nibble) := by
  have inside : (nibble &&& 0x0F).toNat < times.length := by
    have low := Segment.toNat_low_nibble_le nibble
    have full := table.full
    omega
  rw [timeOf, List.getD_eq_getElem?_getD, List.getElem?_eq_getElem inside, Option.getD_some]

theorem TimeTable.timeOf_ne_zero (table : TimeTable times) (nibble : UInt8) :
    timeOf times nibble ≠ 0 := by
  intro zero
  have member := List.mem_of_getElem? (table.getElem?_eq nibble)
  exact table.positive (zero ▸ member)

theorem TimeTable.timeOf_le (table : TimeTable times)
    (faster : nibble &&& 0x0F ≤ nibble' &&& 0x0F) : timeOf times nibble ≤ timeOf times nibble' := by
  obtain ⟨here, at_here⟩ := List.getElem?_eq_some_iff.mp (table.getElem?_eq nibble)
  obtain ⟨there, at_there⟩ := List.getElem?_eq_some_iff.mp (table.getElem?_eq nibble')
  rw [← at_here, ← at_there]
  rcases Nat.lt_or_eq_of_le (UInt8.le_iff_toNat_le.mp faster) with before | same
  · exact List.pairwise_iff_getElem.mp table.ascending _ _ here there before
  · simp only [same, UInt64.le_refl]

-- Below, a product or a step that is too wide, a division by nothing and a place beside the table
-- each leave no result. None of them ever happens.

def product? (a b : UInt64) : Option UInt64 :=
  if a.toNat * b.toNat < UInt64.size then some (a * b) else none

def quotient? (a b : UInt64) : Option UInt64 :=
  if b = 0 then none else some (a / b)

def narrow? (a : UInt64) : Option UInt32 :=
  if a.toNat < UInt32.size then some a.toUInt32 else none

def stepFrom? (times : List UInt64) (rates : Rates) (nibble : UInt8) : Option UInt32 := do
  let range ← product? levelMax.toUInt64 rates.tickLength.toUInt64
  let reach ← quotient? range (UInt64.ofNat substeps)
  let time ← times[(nibble &&& 0x0F).toNat]?
  narrow? (max 1 (min (← quotient? reach time) 65535))

theorem stepFrom?_eq (table : TimeTable times) (rates : Rates) (nibble : UInt8) :
    stepFrom? times rates nibble = some (stepFrom times rates nibble) := by
  have fits : levelMax.toUInt64.toNat * rates.tickLength.toUInt64.toNat < UInt64.size := by
    have bounded := rates.tickLength.toNat_lt
    have most : levelMax.toUInt64.toNat = 8191 := rfl
    rw [UInt32.toNat_toUInt64, most, UInt64.size]
    omega
  have range : product? levelMax.toUInt64 rates.tickLength.toUInt64 =
      some (levelMax.toUInt64 * rates.tickLength.toUInt64) := if_pos fits
  have reach : quotient? (levelMax.toUInt64 * rates.tickLength.toUInt64) (UInt64.ofNat substeps) =
      some rates.reach := rfl
  have shared : quotient? rates.reach (timeOf times nibble) =
      some (rates.reach / timeOf times nibble) := if_neg (table.timeOf_ne_zero nibble)
  have narrow : (max 1 (min (rates.reach / timeOf times nibble) 65535)).toNat < UInt32.size := by
    have least : (1 : UInt64).toNat = 1 := rfl
    have most : (65535 : UInt64).toNat = 65535 := rfl
    rw [UInt64.toNat_max, UInt64.toNat_min, least, most, UInt32.size]
    omega
  simp only [stepFrom?, range, reach, table.getElem?_eq, shared, narrow?, narrow, if_true,
    Option.bind_eq_bind, Option.bind_some]
  rfl

structure Proportional (times : List UInt64) (step : Rates → UInt8 → UInt32) : Prop where
  listed : ∀ nibble, times[(nibble &&& 0x0F).toNat]? = some (timeOf times nibble)
  checked : ∀ rates nibble, stepFrom? times rates nibble = some (step rates nibble)
  exact : ∀ rates nibble, (step rates nibble).toNat =
    max 1 (min (8191 * rates.tickLength.toNat / (4 * (timeOf times nibble).toNat)) 65535)
  mono : ∀ rates rates' nibble, rates.tickLength ≤ rates'.tickLength →
    step rates nibble ≤ step rates' nibble
  anti : ∀ rates nibble nibble', nibble &&& 0x0F ≤ nibble' &&& 0x0F →
    step rates nibble' ≤ step rates nibble
  scaled : ∀ rates rates' nibble k, 1 ≤ k →
    rates'.tickLength.toNat = k * rates.tickLength.toNat →
    rates.Unclamped (timeOf times nibble) → rates'.Unclamped (timeOf times nibble) →
    k * (step rates nibble).toNat ≤ (step rates' nibble).toNat ∧
      (step rates' nibble).toNat < k * ((step rates nibble).toNat + 1)

theorem TimeTable.proportional (table : TimeTable times) : Proportional times (stepFrom times) := by
  constructor
  case listed => exact table.getElem?_eq
  case checked => exact stepFrom?_eq table
  case exact => exact fun rates nibble => toNat_step_eq_share rates (timeOf times nibble)
  case mono => exact fun _ _ nibble longer => step_le_step (share_mono longer (timeOf times nibble))
  case anti =>
    intro rates nibble nibble' faster
    exact step_le_step (share_anti (table.timeOf_ne_zero nibble) (table.timeOf_le faster) rates)
  case scaled =>
    intro rates rates' nibble k some longer free free'
    have positive := divisor_pos (table.timeOf_ne_zero nibble)
    rw [stepFrom, stepFrom, toNat_step_of_unclamped free, toNat_step_of_unclamped free', share,
      share, longer, Nat.mul_left_comm 8191 k]
    exact mul_div_bounds some positive _

theorem toNat_timeOf_decayTimes (nibble : UInt8) :
    (timeOf decayTimes nibble).toNat = 3 * (timeOf attackTimes nibble).toNat := by
  have entries : ∀ i < 16, (decayTimes.getD i 1).toNat = 3 * (attackTimes.getD i 1).toNat := by
    decide
  exact entries _ (Nat.lt_succ_of_le (Segment.toNat_low_nibble_le nibble))

theorem share_decayTimes (rates : Rates) (nibble : UInt8) :
    rates.share (timeOf decayTimes nibble) = rates.share (timeOf attackTimes nibble) / 3 := by
  rw [share, share, toNat_timeOf_decayTimes, Nat.div_div_eq_div_mul, Nat.mul_comm 3,
    ← Nat.mul_assoc]

theorem steps_proportional :
    Proportional attackTimes attackStep ∧ Proportional decayTimes decayStep ∧
      ∀ rates nibble, rates.Unclamped (timeOf attackTimes nibble) →
        rates.Unclamped (timeOf decayTimes nibble) →
        (decayStep rates nibble).toNat = (attackStep rates nibble).toNat / 3 := by
  refine ⟨timeTable_attackTimes.proportional, timeTable_decayTimes.proportional, ?_⟩
  intro rates nibble free free'
  change (rates.step (timeOf decayTimes nibble)).toNat =
    (rates.step (timeOf attackTimes nibble)).toNat / 3
  rw [toNat_step_of_unclamped free, toNat_step_of_unclamped free', share_decayTimes]

theorem steps_proportional_standard :
    standard.Unclamped (timeOf attackTimes 5) ∧ standard.Unclamped (timeOf decayTimes 5) ∧
      (⟨60⟩ : Rates).Unclamped (timeOf attackTimes 5) ∧
      (decayStep standard 5).toNat = (attackStep standard 5).toNat / 3 ∧
      3 * (attackStep standard 5).toNat ≤ (attackStep ⟨60⟩ 5).toNat ∧
      (attackStep ⟨60⟩ 5).toNat < 3 * ((attackStep standard 5).toNat + 1) ∧
      attackStep standard 5 ≤ attackStep ⟨60⟩ 5 ∧
      attackStep standard 6 ≤ attackStep standard 5 := by
  have free : standard.Unclamped (timeOf attackTimes 5) := by decide
  have free' : standard.Unclamped (timeOf decayTimes 5) := by decide
  have longer : (⟨60⟩ : Rates).Unclamped (timeOf attackTimes 5) := by decide
  obtain ⟨attack, -, third⟩ := steps_proportional
  obtain ⟨below, above⟩ := attack.scaled standard ⟨60⟩ 5 3 (by decide) rfl free longer
  exact ⟨free, free', longer, third standard 5 free free', below, above,
    attack.mono standard ⟨60⟩ 5 (by decide), attack.anti standard 5 6 (by decide)⟩

end SoundEffect.Rates
