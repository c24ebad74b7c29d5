import SoundEffect.EffectName

namespace SoundEffect

def NameChar (joint c : Char) : Prop :=
  ('0' ≤ c ∧ c ≤ '9') ∨ c = joint ∨ ('a' ≤ c ∧ c ≤ 'z')

instance (joint c : Char) : Decidable (NameChar joint c) :=
  inferInstanceAs (Decidable (_ ∨ _ ∨ _))

theorem effectNameChar?_of_nameChar {c : Char} (plain : NameChar '-' c) :
    effectNameChar? c = some c :=
  if_pos plain

theorem nameChar_toLower {c : Char} (upper : 'A' ≤ c ∧ c ≤ 'Z') : NameChar '-' c.toLower := by
  have letters : ∀ n < 91, 65 ≤ n → NameChar '-' (Char.ofNat n).toLower := by decide
  have low : 65 ≤ c.toNat := UInt32.le_iff_toNat_le.mp upper.1
  have high : c.toNat ≤ 90 := UInt32.le_iff_toNat_le.mp upper.2
  simpa only [Char.ofNat_toNat] using letters c.toNat (Nat.lt_succ_of_le high) low

theorem nameChar_of_effectNameChar? {c d : Char} (kept : effectNameChar? d = some c) :
    NameChar '-' c := by
  rw [effectNameChar?] at kept
  split at kept
  case isTrue plain =>
    obtain rfl : d = c := Option.some.inj kept
    exact plain
  case isFalse =>
    split at kept
    case isTrue upper =>
      obtain rfl : d.toLower = c := Option.some.inj kept
      exact nameChar_toLower upper
    case isFalse => cases kept

theorem nameChar_of_mem_effectName {raw : List Char} {c : Char} (member : c ∈ effectName raw) :
    NameChar '-' c := by
  obtain ⟨d, -, kept⟩ := List.mem_filterMap.mp member
  exact nameChar_of_effectNameChar? kept

theorem nameChar_of_mem_identifier {name : List Char} {c : Char} (member : c ∈ identifier name) :
    NameChar '_' c := by
  obtain ⟨d, among, written⟩ := List.mem_map.mp member
  split at written
  case isTrue =>
    exact .inr (.inl written.symm)
  case isFalse other =>
    obtain rfl : d = c := written
    rcases nameChar_of_mem_effectName among with digit | joint | letter
    · exact .inl digit
    · exact absurd joint other
    · exact .inr (.inr letter)

end SoundEffect
