import SoundEffect.Simulator
import SoundEffect.Text.Numeral

namespace SoundEffect

namespace TickTrace

def columnNames : List (List Char) :=
  ["tick".toList, "state".toList, "position".toList, "delay".toList, "phase".toList, "level".toList,
    "frequency".toList, "pulse_width".toList, "envelope_bar".toList, "frequency_bar".toList]

def columns (trace : TickTrace) : List (List Char) :=
  [Text.decimal trace.tick,
    trace.state.name.toList,
    Text.decimal trace.position,
    Text.decimal trace.delay.toNat,
    trace.phase.name.toList,
    Text.decimal trace.level.toNat,
    Text.decimal trace.frequency.toNat,
    Text.decimal trace.pulseWidth.toNat,
    Text.decimal trace.envelopeBar.toNat,
    Text.decimal trace.frequencyBar.toNat]

def line (cells : List (List Char)) : List Char :=
  List.intercalate [','] cells ++ ['\n']

end TickTrace

namespace Program

def traces (program : Program) (config : Config) : List TickTrace :=
  (((Simulator.new config).reset program).run config.maxTicks).map Simulator.trace

def traceCsv (program : Program) (config : Config) : Except ConfigFault (Nat × List Char) :=
  match config.validate with
  | .error fault => .error fault
  | .ok () =>
      let rows := program.traces config
      .ok (rows.length,
        TickTrace.line TickTrace.columnNames ++ rows.flatMap fun row => TickTrace.line row.columns)

end Program

end SoundEffect
