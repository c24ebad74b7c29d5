import SoundEffect.Proofs.Json.Reading

namespace SoundEffect.Json

open Text (utf8)

variable {rest : List UInt8}

theorem isDigit_toUInt8 {c : Char} (ascii : c.toNat < 128) :
    isDigit c.toUInt8 = c.isDigit := by
  have value := Text.toNat_toUInt8_of_ascii ascii
  simp only [isDigit, Char.isDigit, UInt8.le_iff_toNat_le, UInt32.le_iff_toNat_le, value]
  rfl

theorem digitValue_toUInt8 {c : Char} (ascii : c.toNat < 128) :
    digitValue c.toUInt8 = c.toNat - '0'.toNat := by
  rw [digitValue, Text.toNat_toUInt8_of_ascii ascii]

def digitList (n : Nat) : List Nat :=
  (Text.decimal n).map fun c => c.toNat - '0'.toNat

theorem utf8_decimal (n : Nat) : utf8 (Text.decimal n) = (Text.decimal n).map Char.toUInt8 :=
  Text.utf8_of_ascii fun _ member => Text.ascii_of_mem_decimal member

theorem isDigit_of_mem_utf8_decimal {n : Nat} :
    ∀ byte ∈ utf8 (Text.decimal n), isDigit byte = true := by
  intro byte member
  rw [utf8_decimal] at member
  obtain ⟨c, among, rfl⟩ := List.mem_map.mp member
  rw [isDigit_toUInt8 (Text.ascii_of_mem_decimal among)]
  exact Text.isDigit_of_mem_decimal among

theorem exists_utf8_decimal (n : Nat) :
    ∃ byte bytes, utf8 (Text.decimal n) = byte :: bytes ∧ isDigit byte = true := by
  have nonempty : utf8 (Text.decimal n) ≠ [] := by
    rw [utf8_decimal, Ne, List.map_eq_nil_iff]
    exact List.length_pos_iff.mp (Text.length_decimal_pos n)
  obtain ⟨byte, bytes, first⟩ := List.exists_cons_of_ne_nil nonempty
  have member : byte ∈ utf8 (Text.decimal n) := by
    rw [first]
    exact List.mem_cons_self
  exact ⟨byte, bytes, first, isDigit_of_mem_utf8_decimal byte member⟩

theorem digits_decimal (n : Nat) (stops : Stops rest) :
    digits (utf8 (Text.decimal n) ++ rest) = .ok (digitList n, rest) := by
  obtain ⟨byte, bytes, first, digit⟩ := exists_utf8_decimal n
  have taken : (utf8 (Text.decimal n) ++ rest).takeWhile isDigit = utf8 (Text.decimal n) := by
    rw [List.takeWhile_append_of_pos isDigit_of_mem_utf8_decimal]
    cases rest with
    | nil => simp
    | cons next rest => simp [(stops next rfl).1]
  have dropped : (utf8 (Text.decimal n) ++ rest).dropWhile isDigit = rest := by
    rw [List.dropWhile_append_of_pos isDigit_of_mem_utf8_decimal]
    cases rest with
    | nil => rfl
    | cons next rest => simp [(stops next rfl).1]
  have values : (utf8 (Text.decimal n)).map digitValue = digitList n := by
    rw [utf8_decimal, List.map_map, digitList]
    exact List.map_congr_left fun c member =>
      digitValue_toUInt8 (Text.ascii_of_mem_decimal member)
  have peeked : peek (utf8 (Text.decimal n) ++ rest) =
      .ok (byte, utf8 (Text.decimal n) ++ rest) := by
    rw [first]
    rfl
  rw [digits, bind_of_ok peeked, if_pos digit]
  simp only [taken, dropped, values]

theorem digitList_cases (n : Nat) : ∀ digit rest, digitList n ≠ 0 :: digit :: rest := by
  intro digit rest leading
  obtain ⟨c, d, tail, written⟩ : ∃ c d tail, Text.decimal n = c :: d :: tail := by
    have size := congrArg List.length leading
    simp only [digitList, List.length_map, List.length_cons] at size
    match h : Text.decimal n, size with
    | c :: d :: tail, _ => exact ⟨c, d, tail, rfl⟩
  have member : c ∈ Text.decimal n := by simp [written]
  have zero : c = '0' := by
    rw [digitList, written, List.map_cons] at leading
    have low := Text.toNat_of_isDigit (Text.isDigit_of_mem_decimal member)
    have first : c.toNat - 48 = 0 := (List.cons.inj leading).1
    exact Char.toNat_inj.mp (show c.toNat = 48 by omega)
  rcases Nat.eq_zero_or_pos n with rfl | positive
  · rw [Text.decimal, Nat.toDigits_zero] at written
    simp at written
  · apply Text.head?_decimal positive
    rw [written, zero]
    rfl

theorem wholePart_decimal (n : Nat) (stops : Stops rest) :
    wholePart (utf8 (Text.decimal n) ++ rest) = .ok (digitList n, rest) := by
  have proper := digitList_cases n
  rw [wholePart, bind_of_ok (digits_decimal n stops)]
  match digitList n, proper with
  | [], _ | [0], _ | [_ + 1], _ | (_ + 1) :: _ :: _, _ => rfl
  | 0 :: digit :: others, proper => exact absurd rfl (proper digit others)

theorem le_foldl_digits (significand : Nat) (digits : List Nat) :
    significand ≤ digits.foldl (fun value digit => value * 10 + digit) significand := by
  induction digits generalizing significand with
  | nil => exact Nat.le_refl _
  | cons digit rest ih => exact Nat.le_trans (by omega) (ih (significand * 10 + digit))

theorem appendDigits_of_fits {significand : Nat} {digits : List Nat}
    (fits : digits.foldl (fun value digit => value * 10 + digit) significand < wordLimit) :
    appendDigits significand digits =
      (digits.foldl (fun value digit => value * 10 + digit) significand, 0) := by
  induction digits generalizing significand with
  | nil => rfl
  | cons digit rest ih =>
      have small := Nat.lt_of_le_of_lt (le_foldl_digits (significand * 10 + digit) rest) fits
      rw [appendDigits, if_pos small, ih fits]
      rfl

theorem appendDigits_digitList {n : Nat} (fits : n < wordLimit) :
    appendDigits 0 (digitList n) = (n, 0) := by
  have value : (digitList n).foldl (fun value digit => value * 10 + digit) 0 = n :=
    Text.foldl_decimal n
  rw [appendDigits_of_fits (value.symm ▸ fits), value]

theorem nextIf_of_stops {test : UInt8 → Bool} (refused : ∀ byte ∈ rest.head?, test byte = false) :
    nextIf test rest = .ok (none, rest) := by
  cases rest with
  | nil => rfl
  | cons byte rest => simp [nextIf, refused byte rfl]

theorem fractionPart_of_stops (stops : Stops rest) : fractionPart rest = .ok (none, rest) := by
  rw [fractionPart, bind_of_ok (nextIf_of_stops fun byte first => by
    simpa using (stops byte first).2.1)]
  rfl

theorem exponentPart_of_stops (stops : Stops rest) : exponentPart rest = .ok (none, rest) := by
  rw [exponentPart, bind_of_ok (nextIf_of_stops fun byte first => by
    simpa using (stops byte first).2.2)]
  rfl

theorem numeral_unsigned (n : Nat) (stops : Stops rest) :
    numeral (utf8 (Text.decimal n) ++ rest) = .ok (⟨false, digitList n, none, none⟩, rest) := by
  obtain ⟨byte, bytes, first, digit⟩ := exists_utf8_decimal n
  have unsigned : nextIf (· = '-'.toUInt8) (utf8 (Text.decimal n) ++ rest) =
      .ok (none, utf8 (Text.decimal n) ++ rest) := by
    apply nextIf_of_stops
    rw [first]
    rintro _ ⟨⟩
    by_cases sign : byte = '-'.toUInt8
    · subst sign
      exact absurd digit (by decide)
    · simp [sign]
  rw [numeral, bind_of_ok unsigned, bind_of_ok (wholePart_decimal n stops),
    bind_of_ok (fractionPart_of_stops stops), bind_of_ok (exponentPart_of_stops stops)]
  rfl

theorem numeral_negative (n : Nat) (stops : Stops rest) :
    numeral ('-'.toUInt8 :: (utf8 (Text.decimal n) ++ rest)) =
      .ok (⟨true, digitList n, none, none⟩, rest) := by
  have signed : nextIf (· = '-'.toUInt8) ('-'.toUInt8 :: (utf8 (Text.decimal n) ++ rest)) =
      .ok (some '-'.toUInt8, utf8 (Text.decimal n) ++ rest) := by
    simp [nextIf]
  rw [numeral, bind_of_ok signed, bind_of_ok (wholePart_decimal n stops),
    bind_of_ok (fractionPart_of_stops stops), bind_of_ok (exponentPart_of_stops stops)]
  rfl

theorem number_integer {i : Int} (low : -9223372036854775808 ≤ i)
    (high : i < 18446744073709551616) (stops : Stops rest) :
    number (utf8 (Text.integer i) ++ rest) = .ok (.integer i, rest) := by
  by_cases negative : i < 0
  · have written : utf8 (Text.integer i) ++ rest =
        '-'.toUInt8 :: (utf8 (Text.decimal i.natAbs) ++ rest) := by
      rw [Text.integer, if_pos negative]
      rfl
    have value : Numeral.integer? ⟨true, digitList i.natAbs, none, none⟩ = some i := by
      have fits : i.natAbs < wordLimit := by rw [wordLimit]; omega
      have proper : ¬ (i.natAbs = 0 ∨ wordLimit < 2 * i.natAbs) := by rw [wordLimit]; omega
      simp only [Numeral.integer?, appendDigits_digitList fits, if_true, if_neg proper,
        Option.some.injEq]
      omega
    rw [written, number, bind_of_ok (numeral_negative i.natAbs stops)]
    simp only [value]
    rfl
  · have written : utf8 (Text.integer i) ++ rest = utf8 (Text.decimal i.natAbs) ++ rest := by
      rw [Text.integer, if_neg negative]
    have value : Numeral.integer? ⟨false, digitList i.natAbs, none, none⟩ = some i := by
      have fits : i.natAbs < wordLimit := by rw [wordLimit]; omega
      simp only [Numeral.integer?, appendDigits_digitList fits, Bool.false_eq_true, if_false,
        Option.some.injEq]
      omega
    rw [written, number, bind_of_ok (numeral_unsigned i.natAbs stops)]
    simp only [value]
    rfl

theorem exists_utf8_integer (i : Int) :
    ∃ byte bytes, utf8 (Text.integer i) = byte :: bytes ∧
      (byte = '-'.toUInt8 || isDigit byte) = true ∧ isBlank byte = false := by
  rw [Text.integer]
  split
  · exact ⟨_, _, rfl, by decide, by decide⟩
  · obtain ⟨byte, bytes, first, digit⟩ := exists_utf8_decimal i.natAbs
    refine ⟨byte, bytes, first, by simp [digit], ?_⟩
    apply Bool.eq_false_iff.mpr
    intro blank
    simp only [isBlank, Bool.or_eq_true, decide_eq_true_eq] at blank
    rcases blank with ((rfl | rfl) | rfl) | rfl <;> exact absurd digit (by decide)

theorem reads_integer (low high : Int) {i : Int} (expected : String)
    (least : -9223372036854775808 ≤ i) (most : i < 18446744073709551616)
    (bounded : low ≤ i ∧ i ≤ high) :
    Reads (integer low high expected) (Text.integer i) i := by
  intro gap rest blank stops
  obtain ⟨byte, bytes, first, numeric, solid⟩ := exists_utf8_integer i
  have seen : ahead (gap ++ (utf8 (Text.integer i) ++ rest)) =
      .ok (byte, utf8 (Text.integer i) ++ rest) := by
    rw [first]
    exact ahead_append blank solid _
  rw [integer, bind_of_ok seen, if_pos numeric, bind_of_ok (number_integer least most stops)]
  simp only [if_pos bounded]
  rfl

theorem reads_uint8 (value : UInt8) : Reads uint8 (Text.integer value.toNat) value := by
  have bounded := value.toNat_lt
  have same : Reads (integer 0 255 "u8") (Text.integer value.toNat) (value.toNat : Int) :=
    reads_integer 0 255 "u8" (by omega) (by omega) (by omega)
  have read := same.map fun i => UInt8.ofNat i.toNat
  rw [uint8]
  simpa only [Int.toNat_natCast, UInt8.ofNat_toNat] using read

theorem reads_uint16 (value : UInt16) : Reads uint16 (Text.integer value.toNat) value := by
  have bounded := value.toNat_lt
  have same : Reads (integer 0 65535 "u16") (Text.integer value.toNat) (value.toNat : Int) :=
    reads_integer 0 65535 "u16" (by omega) (by omega) (by omega)
  have read := same.map fun i => UInt16.ofNat i.toNat
  rw [uint16]
  simpa only [Int.toNat_natCast, UInt16.ofNat_toNat] using read

theorem reads_int16 (value : Int16) : Reads int16 (Text.integer value.toInt) value := by
  have high := value.toInt_lt
  have low := value.le_toInt
  have same : Reads (integer (-32768) 32767 "i16") (Text.integer value.toInt) value.toInt :=
    reads_integer (-32768) 32767 "i16" (by omega) (by omega) (by omega)
  have read := same.map Int16.ofInt
  rw [int16]
  simpa only [Int16.ofInt_toInt] using read

end SoundEffect.Json
