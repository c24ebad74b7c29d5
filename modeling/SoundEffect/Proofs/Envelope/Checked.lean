import SoundEffect.Proofs.Envelope.Steps

namespace SoundEffect.Envelope

def sum? (a b : UInt32) : Option UInt32 :=
  if a.toNat + b.toNat < UInt32.size then some (a + b) else none

def difference? (a b : UInt32) : Option UInt32 :=
  if b ≤ a then some (a - b) else none

def narrow? (a : UInt32) : Option UInt16 :=
  if a.toNat < UInt16.size then some a.toUInt16 else none

def lower? (level : UInt16) (step : UInt32) : Option UInt16 :=
  (difference? level.toUInt32 step).bind narrow?

def rise? (level : UInt16) (step : UInt32) : Option Envelope :=
  (sum? level.toUInt32 step).bind fun next =>
    if levelMax.toUInt32 ≤ next then some ⟨.decay, levelMax⟩
    else (narrow? next).map fun level => ⟨.attack, level⟩

def fallToSustain? (level target : UInt16) (step : UInt32) : Option Envelope :=
  (sum? target.toUInt32 step).bind fun floor =>
    if floor < level.toUInt32 then (lower? level step).map fun level => ⟨.decay, level⟩
    else if target < level then some ⟨.decay, target⟩
    else some ⟨.decay, level⟩

def fallToSilence? (level : UInt16) (step : UInt32) : Option Envelope :=
  if step < level.toUInt32 then (lower? level step).map fun level => ⟨.release, level⟩
  else some silent

def advance? (envelope : Envelope) (voice : Voice) (rates : Rates) : Option Envelope :=
  let now := envelope.followGate voice.control.gate
  match now.phase with
  | .attack => rise? now.level (voice.attackStep rates)
  | .decay => fallToSustain? now.level voice.sustainTarget (voice.decayStep rates)
  | .release => fallToSilence? now.level (voice.releaseStep rates)
  | .off => some now

variable {level target : UInt16} {step : UInt32}

theorem sum?_of_short (level : UInt16) (short : step.toNat ≤ 65535) :
    sum? level.toUInt32 step = some (level.toUInt32 + step) := by
  have small := level.toNat_lt
  have fits : level.toUInt32.toNat + step.toNat < UInt32.size := by
    rw [UInt16.toNat_toUInt32, UInt32.size]
    omega
  rw [sum?, if_pos fits]

theorem lower?_of_lt (below : step < level.toUInt32) :
    lower? level step = some (level.toUInt32 - step).toUInt16 := by
  have le : step ≤ level.toUInt32 := UInt32.le_of_lt below
  have small := level.toNat_lt
  have fits : (level.toUInt32 - step).toNat < UInt16.size := by
    rw [UInt32.toNat_sub_of_le _ _ le, UInt16.toNat_toUInt32, UInt16.size]
    omega
  rw [lower?, difference?, if_pos le, Option.bind_some, narrow?, if_pos fits]

theorem rise?_eq (level : UInt16) (short : step.toNat ≤ 65535) :
    rise? level step = some (rise level step) := by
  rw [rise?, sum?_of_short level short, Option.bind_some, rise]
  split
  · rfl
  · rename_i below
    have most : levelMax.toUInt32.toNat = 8191 := rfl
    have fits : (level.toUInt32 + step).toNat < UInt16.size := by
      rw [UInt32.le_iff_toNat_le, most] at below
      rw [UInt16.size]
      omega
    rw [narrow?, if_pos fits, Option.map_some]

theorem fallToSustain?_eq (level target : UInt16) (short : step.toNat ≤ 65535) :
    fallToSustain? level target step = some (fallToSustain level target step) := by
  rw [fallToSustain?, sum?_of_short target short, Option.bind_some, fallToSustain]
  split
  · rename_i above
    have room : step < level.toUInt32 := by
      have small := target.toNat_lt
      rw [UInt32.lt_iff_toNat_lt, UInt32.toNat_add, UInt16.toNat_toUInt32] at above
      rw [UInt32.lt_iff_toNat_lt]
      omega
    rw [lower?_of_lt room, Option.map_some]
  · split <;> rfl

theorem fallToSilence?_eq (level : UInt16) (step : UInt32) :
    fallToSilence? level step = some (fallToSilence level step) := by
  rw [fallToSilence?, fallToSilence]
  split
  · rename_i below
    rw [lower?_of_lt below, Option.map_some]
  · rfl

theorem advance?_eq (envelope : Envelope) (voice : Voice) (rates : Rates) :
    envelope.advance? voice rates = some (envelope.advance voice rates) := by
  simp only [advance?, advance]
  cases (envelope.followGate voice.control.gate).phase with
  | attack => exact rise?_eq _ (voice.attackStep_bounds rates).2
  | decay => exact fallToSustain?_eq _ _ (voice.decayStep_bounds rates).2
  | release => exact fallToSilence?_eq _ _
  | off => rfl

end SoundEffect.Envelope
