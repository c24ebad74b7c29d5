import SoundEffect.Arguments
import SoundEffect.Edit
import SoundEffect.Path
import SoundEffect.Text.Numeral

namespace SoundEffect

inductive Change where
  | insert
  | remove
  | segment (edit : SegmentEdit)
  deriving DecidableEq, Repr

def Change.at (index : Nat) : Change → Edit
  | insert => .insert index
  | remove => .remove index
  | segment edit => .segment index edit

inductive ConfigSource where
  | standard
  | pico8
  | file (path : Path)
  deriving DecidableEq, Repr

inductive Command where
  | create (out : Path)
  | table (file : Path)
  | picture (file : Path) (config : ConfigSource) (bitmap : Option Path)
  | trace (file : Path) (config : ConfigSource) (out : Option Path)
  | array (file : Path) (name : Option (List Char)) (out : Option Path)
  | json (file : Path)
  | convert (file out : Path)
  | edit (file : Path) (index : Nat) (change : Change)
  deriving DecidableEq, Repr

structure Request where
  verbose : Bool
  command : Command
  deriving DecidableEq, Repr

namespace Command

def verboseOption : OptionShape := ⟨"verbose", some 'v', .flag⟩

def helpOption : OptionShape := ⟨"help", some 'h', .refusal .help⟩

def versionOption : OptionShape := ⟨"version", some 'V', .refusal .version⟩

def isPath (text : List Char) : Bool :=
  !text.isEmpty

def size? (text : List Char) : Option Nat :=
  (Text.unsigned? text).filter fun value => value ≤ 18446744073709551615

def int32? (text : List Char) : Option Int32 :=
  ((Text.signed? text).filter fun value => -2147483648 ≤ value ∧ value ≤ 2147483647).map
    Int32.ofInt

def field? (text : List Char) : Option Field :=
  Field.ofText? (String.ofList text)

def waveform? (text : List Char) : Option Waveform :=
  Waveform.ofText? (String.ofList text)

def switch? (text : List Char) : Option Bool :=
  if text = "on".toList then some true
  else if text = "off".toList then some false
  else none

def signature (operands : Nat) (options : List OptionShape) : Signature :=
  ⟨verboseOption :: helpOption :: options, operands⟩

def configOption : OptionShape := ⟨"config", some 'c', .value isPath⟩

def editOptions : List OptionShape :=
  [⟨"segment", some 's', .value fun text => (size? text).isSome⟩,
    ⟨"field", some 'f', .value fun text => (field? text).isSome⟩,
    ⟨"delta", none, .integer fun text => (int32? text).isSome⟩,
    ⟨"set", none, .integer fun text => (int32? text).isSome⟩,
    ⟨"waveform", some 'w', .value fun text => (waveform? text).isSome⟩,
    ⟨"on", none, .flag⟩,
    ⟨"off", none, .flag⟩,
    ⟨"gate", some 'g', .value fun text => (switch? text).isSome⟩,
    ⟨"insert", none, .flag⟩,
    ⟨"remove", none, .flag⟩]

def required {α : Type} : Option α → Except Refusal α
  | some value => .ok value
  | none => .error .usage

def operand (given : Given) (index : Nat) : Except Refusal Path :=
  required given.operands[index]?

def configSource (given : Given) : Except Refusal ConfigSource :=
  match given.value? "config", given.has "pico8" with
  | none, false => .ok .standard
  | none, true => .ok .pico8
  | some path, false => .ok (.file path)
  | some _, true => .error .usage

def changeNames : List String :=
  ["delta", "set", "waveform", "gate", "insert", "remove"]

def fieldOf (given : Given) : Except Refusal Field :=
  required ((given.value? "field").bind field?)

def change (given : Given) : Except Refusal Change :=
  if given.has "on" && given.has "off" then .error .usage
  else
    match changeNames.filter fun name => given.has name || (given.value? name).isSome with
    | ["insert"] => .ok .insert
    | ["remove"] => .ok .remove
    | ["delta"] => do
        let delta ← required ((given.value? "delta").bind int32?)
        return .segment (.adjust (← fieldOf given) delta)
    | ["set"] => do
        let value ← required ((given.value? "set").bind int32?)
        return .segment (.set (← fieldOf given) value)
    | ["waveform"] => do
        let waveform ← required ((given.value? "waveform").bind waveform?)
        return .segment (if given.has "off" then .disable waveform else .enable waveform)
    | ["gate"] => do
        return .segment (.gate (← required ((given.value? "gate").bind switch?)))
    | _ => .error .usage

structure Form where
  name : String
  signature : Signature
  command : Given → Except Refusal Command

def forms : List Form :=
  [⟨"new", signature 1 [], fun given => return .create (← operand given 0)⟩,
    ⟨"show", signature 1 [], fun given => return .table (← operand given 0)⟩,
    ⟨"preview", signature 1 [configOption, ⟨"pico8", none, .flag⟩, ⟨"pbm", none, .value isPath⟩],
      fun given => return .picture (← operand given 0) (← configSource given) (given.value? "pbm")⟩,
    ⟨"trace", signature 1 [configOption, ⟨"csv", none, .value isPath⟩],
      fun given => return .trace (← operand given 0) (← configSource given) (given.value? "csv")⟩,
    ⟨"export",
      signature 1 [⟨"name", some 'n', .value fun _ => true⟩, ⟨"output", some 'o', .value isPath⟩],
      fun given =>
        return .array (← operand given 0) (given.value? "name") (given.value? "output")⟩,
    ⟨"to-json", signature 1 [], fun given => return .json (← operand given 0)⟩,
    ⟨"from-json", signature 2 [],
      fun given => return .convert (← operand given 0) (← operand given 1)⟩,
    ⟨"edit", signature 1 editOptions, fun given => do
      let index ← required ((given.value? "segment").bind size?)
      return .edit (← operand given 0) index (← change given)⟩]

def form? (name : List Char) : Option Form :=
  forms.find? fun form => form.name.toList = name

def commonSignature : Signature := ⟨[verboseOption, helpOption, versionOption], 0⟩

def helpRefusal : List (List Char) → Refusal
  | [] => .help
  | [name] => if (form? name).isSome || name = "help".toList then .help else .usage
  | _ => .usage

def named (given : Given) (name : List Char) (rest : List (List Char)) :
    Except Refusal Request := do
  match form? name with
  | some form =>
      let own ← form.signature.scan (.empty, none) rest
      return ⟨given.has "verbose" || own.has "verbose", ← form.command own⟩
  | none => .error (if name = "help".toList then helpRefusal rest else .usage)

def requestAfter (given : Given) : List (List Char) → Except Refusal Request
  | [] => .error .usage
  | ('-' :: c :: cs) :: rest => do
      requestAfter (← commonSignature.step given c cs).1 rest
  | name :: rest => named given name rest

def request (arguments : List (List Char)) : Except Refusal Request :=
  requestAfter .empty arguments

end Command

end SoundEffect
