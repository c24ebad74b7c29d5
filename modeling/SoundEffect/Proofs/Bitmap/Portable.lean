import SoundEffect.Proofs.Bitmap.Strokes
import SoundEffect.Proofs.Text.Numerals

namespace SoundEffect

namespace Portable

open Text (decimal utf8 utf8_append)

structure Picture where
  width : Nat
  height : Nat
  rows : List (List Bool)
  deriving DecidableEq, Repr

def isBlank (byte : UInt8) : Bool :=
  byte = 0x20 || byte = 0x09 || byte = 0x0A || byte = 0x0D

def skip (inComment : Bool) : List UInt8 → List UInt8
  | [] => []
  | byte :: rest =>
      if inComment then skip (byte ≠ 0x0A && byte ≠ 0x0D) rest
      else if byte = 0x23 then skip true rest
      else if isBlank byte then skip false rest
      else byte :: rest

def isDigit (byte : UInt8) : Bool :=
  (Char.ofUInt8 byte).isDigit

def digits? (bytes : List UInt8) : Option (Nat × List UInt8) :=
  (Text.natural? ((bytes.takeWhile isDigit).map Char.ofUInt8)).map (·, bytes.dropWhile isDigit)

def number? : List UInt8 → Option (Nat × List UInt8)
  | [] => none
  | blank :: bytes => if isBlank blank then digits? (skip false bytes) else none

def bits (byte : UInt8) : List Bool :=
  (List.range 8).map fun j => byte.toNat.testBit (7 - j)

def rowBytes (width : Nat) : Nat :=
  width ⌈/⌉ 8

def row (width : Nat) (raster : List UInt8) (y : Nat) : List Bool :=
  (((raster.drop (y * rowBytes width)).take (rowBytes width)).flatMap bits).take width

def rows? (width height : Nat) : List UInt8 → Option (List (List Bool))
  | [] => none
  | blank :: raster =>
      if isBlank blank ∧ raster.length = rowBytes width * height then
        some ((List.range height).map (row width raster))
      else none

def read? (bytes : List UInt8) : Option Picture := do
  let (width, rest) ← number? (← bytes.dropPrefix? [0x50, 0x34])
  let (height, rest) ← number? rest
  return ⟨width, height, ← rows? width height rest⟩

theorem ofUInt8_toUInt8 {c : Char} (ascii : c.toNat < 128) : Char.ofUInt8 c.toUInt8 = c := by
  apply Char.toNat_inj.mp
  change c.toUInt8.toNat = c.toNat
  exact Text.toNat_toUInt8_of_ascii ascii

theorem isDigit_of_mem_utf8_decimal {n : Nat} {byte : UInt8} (member : byte ∈ utf8 (decimal n)) :
    isDigit byte = true := by
  rw [Text.utf8_of_ascii fun _ => Text.ascii_of_mem_decimal] at member
  obtain ⟨c, among, rfl⟩ := List.mem_map.mp member
  rw [isDigit, ofUInt8_toUInt8 (Text.ascii_of_mem_decimal among)]
  exact Text.isDigit_of_mem_decimal among

theorem map_ofUInt8_decimal (n : Nat) : (utf8 (decimal n)).map Char.ofUInt8 = decimal n := by
  rw [Text.utf8_of_ascii fun _ => Text.ascii_of_mem_decimal, List.map_map]
  refine (List.map_congr_left fun c member => ?_).trans (List.map_id _)
  exact ofUInt8_toUInt8 (Text.ascii_of_mem_decimal member)

theorem skip_digit {byte : UInt8} (digit : isDigit byte = true) (rest : List UInt8) :
    skip false (byte :: rest) = byte :: rest := by
  have sharp : byte ≠ 0x23 := fun same => absurd (same ▸ digit) (by decide)
  have solid : isBlank byte = false := by
    apply Bool.eq_false_iff.mpr
    intro blank
    simp only [isBlank, Bool.or_eq_true, decide_eq_true_eq] at blank
    rcases blank with ((rfl | rfl) | rfl) | rfl <;> exact absurd digit (by decide)
  rw [skip, if_neg Bool.false_ne_true, if_neg sharp, solid, if_neg Bool.false_ne_true]

theorem exists_utf8_decimal (n : Nat) :
    ∃ byte bytes, utf8 (decimal n) = byte :: bytes ∧ isDigit byte = true := by
  have something : utf8 (decimal n) ≠ [] := by
    intro nothing
    have empty := map_ofUInt8_decimal n
    rw [nothing, List.map_nil] at empty
    exact List.length_pos_iff.mp (Text.length_decimal_pos n) empty.symm
  obtain ⟨byte, bytes, first⟩ := List.exists_cons_of_ne_nil something
  exact ⟨byte, bytes, first, isDigit_of_mem_utf8_decimal (first ▸ List.mem_cons_self)⟩

theorem number?_decimal {blank next : UInt8} (before : isBlank blank = true)
    (after : isDigit next = false) (n : Nat) (rest : List UInt8) :
    number? (blank :: (utf8 (decimal n) ++ next :: rest)) = some (n, next :: rest) := by
  have digits : ∀ byte ∈ utf8 (decimal n), isDigit byte = true :=
    fun _ => isDigit_of_mem_utf8_decimal
  have stop : ¬ isDigit next = true := by
    rw [after]
    exact Bool.false_ne_true
  have begun : skip false (utf8 (decimal n) ++ next :: rest) =
      utf8 (decimal n) ++ next :: rest := by
    obtain ⟨byte, bytes, first, digit⟩ := exists_utf8_decimal n
    rw [first]
    exact skip_digit digit _
  rw [number?, if_pos before, begun, digits?, List.takeWhile_append_of_pos digits,
    List.dropWhile_append_of_pos digits, List.takeWhile_cons_of_neg stop,
    List.dropWhile_cons_of_neg stop, List.append_nil, map_ofUInt8_decimal, Text.natural?_decimal,
    Option.map_some]

theorem flatMap_bits (bytes : Nat → UInt8) (n : Nat) :
    ((List.range n).map bytes).flatMap bits =
      (List.range (n * 8)).map fun x => (bytes (x / 8)).toNat.testBit (7 - x % 8) := by
  induction n with
  | zero => rfl
  | succ n ih =>
      have last : bits (bytes n) = (List.range 8).map fun j =>
          (bytes ((n * 8 + j) / 8)).toNat.testBit (7 - (n * 8 + j) % 8) := by
        apply List.map_congr_left
        intro j member
        have place : (n * 8 + j) / 8 = n := by
          have := List.mem_range.mp member
          omega
        have bit : (n * 8 + j) % 8 = j := by
          have := List.mem_range.mp member
          omega
        rw [place, bit]
      rw [List.range_succ, List.map_append, List.flatMap_append, ih, Nat.succ_mul, List.range_add,
        List.map_append, List.map_map]
      exact congrArg _ ((List.append_nil _).trans last)

end Portable

namespace Bitmap

open Text (decimal utf8 utf8_append)

variable {bitmap : Bitmap}

def pixels (bitmap : Bitmap) : List (List Bool) :=
  (List.range bitmap.height).map fun y => (List.range bitmap.width).map fun x => bitmap.get x y

theorem utf8_pbmHeader (bitmap : Bitmap) (rest : List UInt8) :
    utf8 bitmap.pbmHeader ++ rest =
      [0x50, 0x34] ++ (0x0A :: (utf8 (decimal bitmap.width) ++
        0x20 :: (utf8 (decimal bitmap.height) ++ 0x0A :: rest))) := by
  delta pbmHeader
  simp only [utf8_append, List.append_assoc]
  rfl

theorem rowBytes_eq_stride (bitmap : Bitmap) : Portable.rowBytes bitmap.width = bitmap.stride := rfl

theorem Filled.row_pixels (h : bitmap.Filled) {y : Nat} (hy : y < bitmap.height) :
    Portable.row bitmap.width bitmap.data.toList y =
      (List.range bitmap.width).map fun x => bitmap.get x y := by
  have row := h.row_eq hy
  have enough : bitmap.width ≤ bitmap.stride * 8 := by
    rw [stride, strideOf]
    omega
  rw [Bitmap.row] at row
  rw [Portable.row, rowBytes_eq_stride, row, Portable.flatMap_bits, ← List.map_take,
    List.take_range, Nat.min_eq_left enough]
  apply List.map_congr_left
  intro x member
  exact (get_eq_testBit (List.mem_range.mp member) hy).symm

theorem Filled.read?_pbm (h : bitmap.Filled) :
    Portable.read? bitmap.pbm = some ⟨bitmap.width, bitmap.height, bitmap.pixels⟩ := by
  have size : bitmap.data.toList.length = Portable.rowBytes bitmap.width * bitmap.height := by
    rw [Array.length_toList, h, rowBytes_eq_stride]
  have rows : (List.range bitmap.height).map (Portable.row bitmap.width bitmap.data.toList) =
      bitmap.pixels :=
    List.map_congr_left fun y member => h.row_pixels (List.mem_range.mp member)
  have line : Portable.isBlank 0x0A = true ∧ Portable.isDigit 0x0A = false := by decide
  have space : Portable.isBlank 0x20 = true ∧ Portable.isDigit 0x20 = false := by decide
  have width := Portable.number?_decimal line.1 space.2 bitmap.width
    (utf8 (decimal bitmap.height) ++ 0x0A :: bitmap.data.toList)
  have height := Portable.number?_decimal space.1 line.2 bitmap.height bitmap.data.toList
  have raster : Portable.rows? bitmap.width bitmap.height (0x0A :: bitmap.data.toList) =
      some bitmap.pixels := by
    rw [Portable.rows?, if_pos ⟨by decide, size⟩, rows]
  have magic : bitmap.pbm.dropPrefix? [0x50, 0x34] = some (0x0A :: (utf8 (decimal bitmap.width) ++
      0x20 :: (utf8 (decimal bitmap.height) ++ 0x0A :: bitmap.data.toList))) := by
    rw [pbm, utf8_pbmHeader]
    rfl
  simp only [Portable.read?, magic, width, height, raster, Option.bind_eq_bind, Option.bind_some,
    Option.pure_def]

example : Portable.read? (drawn 3 2 [.set 1 0 true, .setByte 0 1 0xBF]).pbm =
    some ⟨3, 2, [[false, true, false], [true, false, true]]⟩ := by
  decide +kernel

end Bitmap

end SoundEffect
