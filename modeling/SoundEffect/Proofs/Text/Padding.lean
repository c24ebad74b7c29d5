import Mathlib.Algebra.Group.Nat.Defs
import SoundEffect.Proofs.Text.Numerals

namespace SoundEffect.Text

theorem length_paddedDecimal {width n : Nat} (room : 0 < width) (fits : n < 10 ^ width) :
    (paddedDecimal width n).length = width := by
  have digits : (decimal n).length ≤ width :=
    (Nat.length_toDigits_le_iff (by decide) room).mpr fits
  rw [paddedDecimal, length_zeroPadded, Nat.max_eq_left digits]

theorem length_signedDecimal {width : Nat} {i : Int} (room : 0 < width)
    (fits : i.natAbs < 10 ^ width) : (signedDecimal (width + 1) i).length = width + 1 := by
  rw [signedDecimal, List.length_cons, Nat.add_sub_cancel]
  exact congrArg (· + 1) (length_paddedDecimal room fits)

theorem natural?_zero_cons {text : List Char} (something : text ≠ []) :
    natural? ('0' :: text) = natural? text := by
  have nonempty : text.isEmpty = false := List.isEmpty_eq_false_iff.mpr something
  have zero : Char.isDigit '0' = true := rfl
  rw [natural?, natural?, List.isEmpty_cons, nonempty, List.all_cons, zero, Bool.true_and,
    List.foldl_cons]
  rfl

theorem natural?_zeros {text : List Char} (something : text ≠ []) (count : Nat) :
    natural? (List.replicate count '0' ++ text) = natural? text := by
  induction count with
  | zero => rfl
  | succ count ih =>
      rw [List.replicate_succ, List.cons_append,
        natural?_zero_cons (List.append_ne_nil_of_right_ne_nil _ something), ih]

theorem natural?_paddedDecimal (width n : Nat) : natural? (paddedDecimal width n) = some n := by
  rw [paddedDecimal, zeroPadded, List.leftpad, natural?_zeros (decimal_ne_nil n),
    natural?_decimal]

theorem signed?_signedDecimal (width : Nat) (i : Int) :
    signed? (signedDecimal width i) = some i := by
  have magnitude := natural?_paddedDecimal (width - 1) i.natAbs
  rw [paddedDecimal] at magnitude
  rw [signedDecimal]
  by_cases negative : i < 0
  · have value : -(i.natAbs : Int) = i := by omega
    rw [if_pos negative, signed?, magnitude]
    exact congrArg some value
  · have value : (i.natAbs : Int) = i := by omega
    rw [if_neg negative]
    change (natural? _).map Int.ofNat = _
    rw [magnitude]
    exact congrArg some value

theorem paddedDecimal_injective (width : Nat) : Function.Injective (paddedDecimal width) := by
  intro n m same
  have read := natural?_paddedDecimal width n
  rw [same, natural?_paddedDecimal] at read
  exact (Option.some.inj read).symm

theorem signedDecimal_injective (width : Nat) : Function.Injective (signedDecimal width) := by
  intro i j same
  have read := signed?_signedDecimal width i
  rw [same, signed?_signedDecimal] at read
  exact (Option.some.inj read).symm

def upperHexDigit (n : Nat) : Char :=
  (Nat.digitChar n).toUpper

theorem upperHexByte_eq (byte : UInt8) :
    upperHexByte byte = [upperHexDigit (byte.toNat / 16), upperHexDigit (byte.toNat % 16)] := by
  have bytes : ∀ n < 256, (zeroPadded 2 (Nat.toDigits 16 n)).map Char.toUpper =
      [upperHexDigit (n / 16), upperHexDigit (n % 16)] := by
    decide +kernel
  exact bytes byte.toNat byte.toNat_lt

theorem upperHexDigit_inj {n m : Nat} (small : n < 16) (small' : m < 16)
    (same : upperHexDigit n = upperHexDigit m) : n = m := by
  have digits : ∀ n < 16, ∀ m < 16, upperHexDigit n = upperHexDigit m → n = m := by decide
  exact digits n small m small' same

end SoundEffect.Text
