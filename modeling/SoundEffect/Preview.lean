import SoundEffect.BarChart
import SoundEffect.Store

namespace SoundEffect

structure Preview where
  simulator : Simulator
  bitmap : Bitmap
  column : Nat
  revision : Option Nat
  deriving DecidableEq, Repr

namespace Preview

def new (config : Config) : Except ConfigFault Preview :=
  match config.validate with
  | .error fault => .error fault
  | .ok () => .ok ⟨.new config, BarChart.blank config.columns, 0, none⟩

def config (preview : Preview) : Config :=
  preview.simulator.config

def restart (preview : Preview) (program : Program) : Preview :=
  { preview with
    simulator := preview.simulator.reset program
    bitmap := preview.bitmap.clear
    column := 0 }

def isComplete (preview : Preview) : Bool :=
  preview.config.columns ≤ preview.column

def drawColumn (preview : Preview) : Preview :=
  if preview.isComplete then preview
  else
    let states := preview.simulator.run Config.ticksPerColumn
    { preview with
      simulator := states.getLastD preview.simulator
      bitmap := BarChart.drawCell preview.config.fill preview.bitmap preview.column
        (states.flatMap (·.samples))
      column := preview.column + 1 }

def drawColumns : Nat → Preview → Preview
  | 0, preview => preview
  | n + 1, preview => drawColumns n preview.drawColumn

def refresh (preview : Preview) (store : Store) : Preview :=
  if preview.revision = some store.revision then preview
  else { preview.restart store.program with revision := some store.revision }

def frame (preview : Preview) (store : Store) : Bool × Preview :=
  let current := preview.refresh store
  (!current.isComplete && current.config.columnsPerFrame ≠ 0,
    drawColumns current.config.columnsPerFrame current)

def runToEnd (preview : Preview) (program : Program) : Preview :=
  let restarted := preview.restart program
  drawColumns restarted.config.columns restarted

def framesWithin (store : Store) : Nat → Preview → Nat × Preview
  | 0, preview => (0, preview)
  | n + 1, preview =>
      let (drawn, next) := preview.frame store
      if drawn then
        let (count, last) := framesWithin store n next
        (count + 1, last)
      else (0, next)

def frames (preview : Preview) (store : Store) : Nat × Preview :=
  framesWithin store (preview.config.columns + 1) preview

end Preview

end SoundEffect
