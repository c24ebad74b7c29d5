import SoundEffect.Config
import SoundEffect.Json.Record

namespace SoundEffect

def Fill.reader : Json.Reader Fill :=
  Json.oneOf (Fill.all.map fun fill => (fill.name, fill))

namespace Config

def shape : Json.Shape Config where
  name := "struct SimConfig"
  blank := pal
  members :=
    [⟨"columns", true, fun c => .integer c.columns,
        fun c => return { c with columns := ← Json.size }⟩,
      ⟨"tick_ms", true, fun c => .integer c.tickLength.toNat,
        fun c => return { c with tickLength := ← Json.uint32 }⟩,
      ⟨"columns_per_frame", true, fun c => .integer c.columnsPerFrame,
        fun c => return { c with columnsPerFrame := ← Json.size }⟩,
      ⟨"fill", true, fun c => .text c.fill.name.toList,
        fun c => return { c with fill := ← Fill.reader }⟩]

def json (config : Config) : List Char :=
  Json.compactRecord (shape.record config)

def ofJson (text : List UInt8) : Except Json.Fault Config :=
  Json.decode shape.reader text

end Config

end SoundEffect
