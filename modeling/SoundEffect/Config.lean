import SoundEffect.Error
import SoundEffect.Rates

namespace SoundEffect

inductive Fill where
  | textured
  | solid
  deriving DecidableEq, Repr

namespace Fill

def all : List Fill := [textured, solid]

def name : Fill → String
  | textured => "textured"
  | solid => "solid"

end Fill

structure Config where
  columns : Nat
  tickLength : UInt32
  columnsPerFrame : Nat
  fill : Fill
  deriving DecidableEq, Repr

namespace Config

def maxColumns : Nat := 40

def pal : Config := ⟨maxColumns, 20, 3, .textured⟩

def pico8 : Config := { pal with tickLength := 8 }

instance : Inhabited Config := ⟨pal⟩

def ticksPerColumn : Nat := 2

/-- A run stops after this many ticks; sizes end at 64 bits. -/
def maxTicks (config : Config) : Nat :=
  min (config.columns * ticksPerColumn) 18446744073709551615

def validate (config : Config) : Except ConfigFault Unit :=
  if config.columns = 0 ∨ maxColumns < config.columns then .error (.columns config.columns)
  else if config.tickLength = 0 ∨ 1000 < config.tickLength then
    .error (.tickLength config.tickLength.toNat)
  else if config.columnsPerFrame = 0 ∨ config.columns < config.columnsPerFrame then
    .error (.columnsPerFrame config.columns config.columnsPerFrame)
  else .ok ()

end Config

end SoundEffect
