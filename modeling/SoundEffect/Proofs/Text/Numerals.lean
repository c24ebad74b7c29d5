import SoundEffect.Proofs.Text.Ascii
import SoundEffect.Text.Basic

namespace SoundEffect.Text

theorem decimal_ne_nil (n : Nat) : decimal n ≠ [] :=
  List.length_pos_iff.mp (length_decimal_pos n)

theorem natural?_decimal (n : Nat) : natural? (decimal n) = some n := by
  have digits : (decimal n).all Char.isDigit = true :=
    List.all_eq_true.mpr fun _ member => isDigit_of_mem_decimal member
  have something : (decimal n).isEmpty = false :=
    List.isEmpty_eq_false_iff.mpr (decimal_ne_nil n)
  have value := foldl_decimal n
  rw [List.foldl_map] at value
  rw [natural?, digits, something, value]
  rfl

theorem not_mem_decimal {c : Char} (other : c.isDigit = false) (n : Nat) : c ∉ decimal n := by
  intro member
  rw [isDigit_of_mem_decimal member] at other
  cases other

theorem unsigned?_decimal (n : Nat) : unsigned? (decimal n) = some n := by
  unfold unsigned?
  split
  case h_1 digits written =>
    exact absurd (written ▸ List.mem_cons_self) (not_mem_decimal (c := '+') rfl n)
  case h_2 => exact natural?_decimal n

theorem signed?_decimal (n : Nat) : signed? (decimal n) = some (n : Int) := by
  unfold signed?
  split
  case h_1 digits written =>
    exact absurd (written ▸ List.mem_cons_self) (not_mem_decimal (c := '-') rfl n)
  case h_2 =>
    rw [unsigned?_decimal]
    rfl

theorem signed?_integer (i : Int) : signed? (integer i) = some i := by
  rw [integer]
  by_cases negative : i < 0
  · have value : -(i.natAbs : Int) = i := by omega
    rw [if_pos negative, signed?, natural?_decimal]
    exact congrArg some value
  · have value : (i.natAbs : Int) = i := by omega
    rw [if_neg negative, signed?_decimal, value]

theorem not_mem_integer {c : Char} (other : c.isDigit = false) (unsigned : c ≠ '-') (i : Int) :
    c ∉ integer i := by
  rw [integer]
  split
  · rw [List.mem_cons, not_or]
    exact ⟨unsigned, not_mem_decimal other i.natAbs⟩
  · exact not_mem_decimal other i.natAbs

theorem integer_ne_nil (i : Int) : integer i ≠ [] := by
  rw [integer]
  split
  · exact List.cons_ne_nil _ _
  · exact decimal_ne_nil i.natAbs

theorem hexDigits?_hexByte (byte : UInt8) : hexDigits? 0 (hexByte byte) = some byte.toNat := by
  have bytes : ∀ n < 256, hexDigits? 0 (zeroPadded 2 (Nat.toDigits 16 n)) = some n := by
    decide +kernel
  exact bytes byte.toNat byte.toNat_lt

def isWordChar (c : Char) : Bool :=
  c.isAlphanum || c = '-'

def Word (text : List Char) : Prop :=
  ∀ c ∈ text, isWordChar c = true

theorem Word.append {text other : List Char} (h : Word text) (h' : Word other) :
    Word (text ++ other) := by
  intro c member
  rcases List.mem_append.mp member with before | after
  · exact h c before
  · exact h' c after

theorem Word.not_mem {text : List Char} (h : Word text) {c : Char} (other : isWordChar c = false) :
    c ∉ text := by
  intro member
  rw [h c member] at other
  cases other

theorem isWordChar_iff (c : Char) :
    isWordChar c = true ↔
      (((65 ≤ c.toNat ∧ c.toNat ≤ 90) ∨ (97 ≤ c.toNat ∧ c.toNat ≤ 122)) ∨
        (48 ≤ c.toNat ∧ c.toNat ≤ 57)) ∨ c = '-' := by
  delta isWordChar Char.isAlphanum Char.isAlpha Char.isUpper Char.isLower Char.isDigit
  simp only [Bool.or_eq_true, Bool.and_eq_true, decide_eq_true_eq, UInt32.le_iff_toNat_le,
    ge_iff_le]
  rfl

theorem isBlank_of_isWordChar {c : Char} (word : isWordChar c = true) : isBlank c = false := by
  have places : 45 ≤ c.toNat ∧ c.toNat ≤ 122 := by
    rcases (isWordChar_iff c).mp word with ((upper | lower) | digit) | rfl
    · omega
    · omega
    · omega
    · decide
  simp only [isBlank, Bool.or_eq_false_iff, Bool.and_eq_false_iff, decide_eq_false_iff_not]
  omega

theorem Word.solid {text : List Char} (h : Word text) : ∀ c ∈ text, isBlank c = false :=
  fun c member => isBlank_of_isWordChar (h c member)

theorem word_decimal (n : Nat) : Word (decimal n) := by
  intro c member
  rw [isWordChar, Char.isAlphanum, isDigit_of_mem_decimal member, Bool.or_true, Bool.true_or]

theorem word_integer (i : Int) : Word (integer i) := by
  rw [integer]
  split
  · have sign : Word ['-'] := by simp [Word, isWordChar]
    exact sign.append (word_decimal i.natAbs)
  · exact word_decimal i.natAbs

theorem word_hexByte (byte : UInt8) : Word (hexByte byte) := by
  have bytes : ∀ n < 256, (zeroPadded 2 (Nat.toDigits 16 n)).all isWordChar = true := by
    decide +kernel
  exact List.all_eq_true.mp (bytes byte.toNat byte.toNat_lt)

structure Token (text : List Char) : Prop where
  word : Word text
  nonempty : text ≠ []

theorem token_decimal (n : Nat) : Token (decimal n) :=
  ⟨word_decimal n, decimal_ne_nil n⟩

theorem token_integer (i : Int) : Token (integer i) :=
  ⟨word_integer i, integer_ne_nil i⟩

end SoundEffect.Text
