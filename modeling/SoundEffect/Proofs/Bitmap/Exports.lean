import SoundEffect.Proofs.Bitmap.Portable
import SoundEffect.Proofs.Text.Listing

namespace SoundEffect.Bitmap

def mark (on : Bool) : Char :=
  if on then '#' else ' '

def mark? : Char → Option Bool
  | '#' => some true
  | ' ' => some false
  | _ => none

def ofAscii? (text : List Char) : Option (List (List Bool)) :=
  (Text.lines? text).bind fun lines => lines.mapM fun line => line.mapM mark?

variable {bitmap other : Bitmap} {width height : Nat}

theorem mark?_mark (on : Bool) : mark? (mark on) = some on := by
  cases on <;> rfl

theorem ascii_eq (bitmap : Bitmap) :
    bitmap.ascii = (bitmap.pixels.map (·.map mark)).flatMap Text.ended := by
  rw [ascii, pixels, List.map_map, List.flatMap_map]
  apply congrArg (List.flatMap · _)
  funext y
  rw [asciiRow, Function.comp_apply, List.map_map]
  rfl

theorem newline_not_mem_marks (row : List Bool) : '\n' ∉ row.map mark := by
  intro member
  obtain ⟨on, -, marked⟩ := List.mem_map.mp member
  cases on <;> exact absurd marked (by decide)

theorem ofAscii?_ascii (bitmap : Bitmap) : ofAscii? bitmap.ascii = some bitmap.pixels := by
  have inside : ∀ line ∈ bitmap.pixels.map (·.map mark), '\n' ∉ line := by
    intro line member
    obtain ⟨row, -, rfl⟩ := List.mem_map.mp member
    exact newline_not_mem_marks row
  have rows : ∀ row : List Bool, (row.map mark).mapM mark? = some row :=
    Text.mapM_written_self mark?_mark
  rw [ofAscii?, ascii_eq, Text.lines?_ended inside, Option.bind_some, Text.mapM_written_self rows]

theorem pixels_eq_iff (sized : bitmap.Sized width height) (sized' : other.Sized width height) :
    bitmap.pixels = other.pixels ↔ ∀ x y, bitmap.get x y = other.get x y := by
  obtain ⟨rfl, rfl, -⟩ := sized
  rw [pixels, pixels, sized'.width, sized'.height, List.map_inj_left]
  constructor
  · intro rows x y
    by_cases inside : x < bitmap.width ∧ y < bitmap.height
    · have row := rows y (List.mem_range.mpr inside.2)
      exact List.map_inj_left.mp row x (List.mem_range.mpr inside.1)
    · have outside : ¬ (x < other.width ∧ y < other.height) := by
        rwa [sized'.width, sized'.height]
      rw [get_of_outside inside, get_of_outside outside]
  · intro same y _
    exact List.map_congr_left fun x _ => same x y

theorem ascii_eq_iff : bitmap.ascii = other.ascii ↔ bitmap.pixels = other.pixels := by
  constructor
  · intro same
    have read := ofAscii?_ascii bitmap
    rw [same, ofAscii?_ascii, Option.some.injEq] at read
    exact read.symm
  · intro same
    rw [ascii_eq, ascii_eq, same]

structure Exported (width height : Nat) (bitmap : Bitmap) : Prop where
  lines : ∃ lines : List (List Char), bitmap.ascii = lines.flatMap Text.ended ∧
    lines.length = height ∧ ∀ line ∈ lines, line.length = width ∧ '\n' ∉ line
  header : bitmap.pbm =
    Text.utf8 ("P4\n".toList ++ Text.decimal width ++ [' '] ++ Text.decimal height ++ ['\n']) ++
      bitmap.data.toList
  raster : bitmap.data.toList.length = width ⌈/⌉ 8 * height
  bitmapRead : Portable.read? bitmap.pbm = some ⟨width, height, bitmap.pixels⟩
  textRead : ofAscii? bitmap.ascii = some bitmap.pixels

theorem Sized.exported (sized : bitmap.Sized width height) : Exported width height bitmap := by
  obtain ⟨rfl, rfl, h⟩ := sized
  constructor
  case lines =>
    refine ⟨bitmap.pixels.map (·.map mark), ascii_eq bitmap, ?_, ?_⟩
    · simp [pixels]
    · intro line member
      obtain ⟨row, among, rfl⟩ := List.mem_map.mp member
      refine ⟨?_, newline_not_mem_marks row⟩
      obtain ⟨y, -, rfl⟩ := List.mem_map.mp among
      simp
  case header => rfl
  case raster =>
    rw [Array.length_toList]
    exact h
  case bitmapRead => exact h.read?_pbm
  case textRead => exact ofAscii?_ascii bitmap

theorem drawn_exports_agree (width height : Nat) (strokes strokes' : List Stroke) :
    Exported width height (drawn width height strokes) ∧
      (drawn width height strokes).pixels =
        (List.range height).map (fun y => (List.range width).map fun x =>
          (drawn width height strokes).get x y) ∧
      ((drawn width height strokes).ascii = (drawn width height strokes').ascii ↔
        ∀ x y, (drawn width height strokes).get x y = (drawn width height strokes').get x y) := by
  have sized := sized_drawn width height strokes
  refine ⟨sized.exported, ?_, ?_⟩
  · rw [pixels, sized.width, sized.height]
  · rw [ascii_eq_iff]
    exact pixels_eq_iff sized (sized_drawn width height strokes')

end SoundEffect.Bitmap
