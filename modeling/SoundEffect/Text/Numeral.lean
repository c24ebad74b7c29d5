namespace SoundEffect.Text

def decimal (n : Nat) : List Char :=
  Nat.toDigits 10 n

theorem length_decimal_pos (n : Nat) : 0 < (decimal n).length := by
  have := @Nat.length_toDigits_pos 10 n
  simpa [decimal] using this

def integer (i : Int) : List Char :=
  if i < 0 then '-' :: decimal i.natAbs else decimal i.natAbs

def zeroPadded (width : Nat) (digits : List Char) : List Char :=
  digits.leftpad width '0'

theorem length_zeroPadded (width : Nat) (digits : List Char) :
    (zeroPadded width digits).length = max width digits.length := by
  simp [zeroPadded, List.leftpad]
  omega

def paddedDecimal (width n : Nat) : List Char :=
  zeroPadded width (decimal n)

def signedDecimal (width : Nat) (i : Int) : List Char :=
  (if i < 0 then '-' else '+') :: zeroPadded (width - 1) (decimal i.natAbs)

def hexByte (b : UInt8) : List Char :=
  zeroPadded 2 (Nat.toDigits 16 b.toNat)

def upperHexByte (b : UInt8) : List Char :=
  (hexByte b).map Char.toUpper

def natural? (text : List Char) : Option Nat :=
  if text.isEmpty || !text.all Char.isDigit then none
  else some (text.foldl (fun value c => value * 10 + (c.toNat - '0'.toNat)) 0)

def hexDigit? (c : Char) : Option Nat :=
  if '0' ≤ c ∧ c ≤ '9' then some (c.toNat - '0'.toNat)
  else if 'a' ≤ c ∧ c ≤ 'f' then some (c.toNat - 'a'.toNat + 10)
  else if 'A' ≤ c ∧ c ≤ 'F' then some (c.toNat - 'A'.toNat + 10)
  else none

def hexDigits? (value : Nat) : List Char → Option Nat
  | [] => some value
  | c :: rest =>
      match hexDigit? c with
      | some digit => hexDigits? (value * 16 + digit) rest
      | none => none

def unsigned? : List Char → Option Nat
  | '+' :: digits => natural? digits
  | digits => natural? digits

def signed? : List Char → Option Int
  | '-' :: digits => (natural? digits).map fun magnitude => -magnitude
  | text => (unsigned? text).map Int.ofNat

end SoundEffect.Text
