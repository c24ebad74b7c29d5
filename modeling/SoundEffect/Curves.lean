namespace SoundEffect

/-- The greatest envelope level: five integer bits over eight fractional ones. -/
def levelMax : UInt16 := 8191

def barMax : UInt8 := 31

namespace Curves

/-- How many steps of the level index share each bar height, from height zero on. Height `h` is
`31 * exp (i / 54) / exp (255 / 54)` at index `i`, rounded. -/
def barRuns : List Nat :=
  [33, 59, 28, 18, 13, 11, 9, 8, 7, 6, 5, 5, 4, 5, 3, 4, 3, 4, 3, 2, 3, 3, 2, 3, 2, 2, 2, 2, 2,
    2, 2, 1]

def level : List UInt8 :=
  barRuns.zipIdx.flatMap fun (run, height) => List.replicate run (UInt8.ofNat height)

theorem length_level : level.length = 256 := by
  decide +kernel

/-- The level index that each sustain nibble holds: `54 * log (n * exp (255 / 54) / 15)`, rounded.
-/
def sustain : List UInt8 :=
  [0, 109, 146, 168, 184, 196, 206, 214, 221, 227, 233, 238, 243, 247, 251, 255]

def quarterOctaves (n : Nat) : Nat :=
  (n * n * n * n).log2

def sustainTarget (nibble : UInt8) : UInt16 :=
  (sustain.getD (nibble &&& 0x0F).toNat 0).toUInt16 <<< 5

def levelBar (energy : UInt16) : UInt8 :=
  level.getD ((min energy levelMax) >>> 5).toNat 0

def frequencyBar (frequency : UInt16) : UInt8 :=
  UInt8.ofNat (quarterOctaves (frequency >>> 8).toNat)

end Curves

end SoundEffect
