import SoundEffect.Curves

namespace SoundEffect

/-- Milliseconds of a full attack for each rate nibble. -/
def attackTimes : List UInt64 :=
  [2, 8, 16, 24, 38, 56, 68, 80, 100, 250, 500, 800, 1000, 3000, 5000, 8000]

def decayTimes : List UInt64 :=
  [6, 24, 48, 72, 114, 168, 204, 240, 300, 750, 1500, 2400, 3000, 9000, 15000, 24000]

def substeps : Nat := 4

structure Rates where
  tickLength : UInt32
  deriving DecidableEq, Repr

namespace Rates

def standard : Rates := ⟨20⟩

/-- The whole level range, as far as one sub-step covers it at one millisecond per sweep. -/
def reach (rates : Rates) : UInt64 :=
  levelMax.toUInt64 * rates.tickLength.toUInt64 / UInt64.ofNat substeps

def step (rates : Rates) (milliseconds : UInt64) : UInt32 :=
  (max 1 (min (rates.reach / milliseconds) 65535)).toUInt32

def attackStep (rates : Rates) (nibble : UInt8) : UInt32 :=
  rates.step (attackTimes.getD (nibble &&& 0x0F).toNat 1)

def decayStep (rates : Rates) (nibble : UInt8) : UInt32 :=
  rates.step (decayTimes.getD (nibble &&& 0x0F).toNat 1)

end Rates

end SoundEffect
