import SoundEffect.Log.Event
import SoundEffect.Preview
import SoundEffect.Text.Numeral

namespace SoundEffect

def Interpreter.journey (segments : List Segment) :
    Nat → Interpreter → List (PlayState × Interpreter)
  | 0, _ => []
  | n + 1, now =>
      let reached := (now.tickPassage segments).map (·.1)
      (now.state :: reached.map (·.state)).zip reached ++ journey segments n (now.tick segments).1

namespace Log.Event

def done (message : List Char) : Event :=
  ⟨.info, "sidfx", message, []⟩

def number (n : Nat) : List Char :=
  Text.decimal n

def loaded (path : List Char) (program : Program) : Event :=
  ⟨.debug, "sidfx::storage", "loaded effect program".toList,
    [("path", path), ("segments", number program.length)]⟩

def saved (path : List Char) (program : Program) : Event :=
  ⟨.debug, "sidfx::storage", "saved effect program".toList,
    [("path", path), ("segments", number program.length)]⟩

def edited (store : Store) : Event :=
  ⟨.debug, "sidfx::preview", "program edited".toList, [("revision", number store.revision)]⟩

def previewed (frames : Nat) : Event :=
  ⟨.debug, "sidfx", "preview complete".toList, [("frames", number frames)]⟩

def reset (program : Program) (config : Config) : Event :=
  ⟨.debug, "sidfx::simulator", "simulator reset".toList,
    [("segments", number program.length), ("max_ticks", number config.maxTicks)]⟩

def transition (former : PlayState) (now : Interpreter) : Event :=
  ⟨.trace, "sidfx::interpreter", "interpreter transition".toList,
    [("from", former.name.toList), ("to", now.state.name.toList), ("position", number now.position),
      ("delay", number now.delay.toNat)]⟩

def simulated (program : Program) (config : Config) : List Event :=
  reset program config ::
    (Interpreter.journey program.segments config.maxTicks .initial).map fun (former, now) =>
      transition former now

end Log.Event

end SoundEffect
