import SoundEffect.Text.Basic
import SoundEffect.Text.Numeral

namespace SoundEffect.Text

theorem ofUtf8?_utf8 (text : List Char) : ofUtf8? (utf8 text) = some (String.ofList text) := by
  have bytes : (⟨(utf8 text).toArray⟩ : ByteArray) = text.utf8Encode := by
    rw [List.utf8Encode, utf8]
    exact ByteArray.ext (by simp)
  rw [ofUtf8?, bytes, String.fromUTF8?, dif_pos ByteArray.isValidUTF8_utf8Encode]
  rfl

theorem utf8EncodeChar_of_ascii {c : Char} (ascii : c.toNat < 128) :
    String.utf8EncodeChar c = [c.toUInt8] := by
  apply String.utf8EncodeChar_eq_singleton
  rw [Char.utf8Size_eq_one_iff]
  exact UInt32.le_iff_toNat_le.mpr (Nat.le_of_lt_succ ascii)

theorem utf8_of_ascii {text : List Char} (ascii : ∀ c ∈ text, c.toNat < 128) :
    utf8 text = text.map Char.toUInt8 := by
  induction text with
  | nil => rfl
  | cons c rest ih =>
      have first := utf8EncodeChar_of_ascii (ascii c (by simp))
      have others : utf8 rest = rest.map Char.toUInt8 :=
        ih fun d member => ascii d (by simp [member])
      rw [utf8, List.flatMap_cons, first, ← utf8, others]
      rfl

theorem toNat_toUInt8_of_ascii {c : Char} (ascii : c.toNat < 128) : c.toUInt8.toNat = c.toNat := by
  change c.val.toUInt8.toNat = c.val.toNat
  rw [UInt32.toNat_toUInt8]
  exact Nat.mod_eq_of_lt (Nat.lt_trans ascii (by decide))

theorem isDigit_of_mem_decimal {n : Nat} {c : Char} (member : c ∈ decimal n) :
    c.isDigit = true :=
  Nat.isDigit_of_mem_toDigits (by decide) (by decide) member

theorem toNat_of_isDigit {c : Char} (digit : c.isDigit = true) : 48 ≤ c.toNat ∧ c.toNat ≤ 57 := by
  simp only [Char.isDigit, Bool.and_eq_true, decide_eq_true_eq] at digit
  exact ⟨UInt32.le_iff_toNat_le.mp digit.1, UInt32.le_iff_toNat_le.mp digit.2⟩

theorem ascii_of_mem_decimal {n : Nat} {c : Char} (member : c ∈ decimal n) : c.toNat < 128 := by
  have := (toNat_of_isDigit (isDigit_of_mem_decimal member)).2
  omega

theorem head?_decimal {n : Nat} (positive : 0 < n) : (decimal n).head? ≠ some '0' := by
  induction n using Nat.strongRecOn with
  | ind n ih =>
      by_cases small : n < 10
      · have single : ∀ d < 10, 0 < d → [Nat.digitChar d].head? ≠ some '0' := by decide
        rw [decimal, Nat.toDigits_of_lt_base small]
        exact single n small positive
      · have shorter := ih (n / 10) (by omega) (by omega)
        obtain ⟨c, rest, first⟩ := List.exists_cons_of_ne_nil (@Nat.toDigits_ne_nil (n / 10) 10)
        rw [decimal, first] at shorter
        rw [decimal, Nat.toDigits_of_base_le (by decide) (Nat.not_lt.mp small), first]
        exact shorter

theorem foldl_decimal (n : Nat) :
    ((decimal n).map fun c => c.toNat - '0'.toNat).foldl (fun value digit => value * 10 + digit) 0 =
      n := by
  have value := @Nat.ofDigitChars_ten_toDigits n
  rw [Nat.ofDigitChars_eq_foldl] at value
  rw [List.foldl_map, decimal]
  simpa only [Nat.mul_comm] using value

end SoundEffect.Text
