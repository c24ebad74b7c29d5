import SoundEffect.Text.Basic

namespace SoundEffect

inductive Refusal where
  | usage
  | help
  | version
  deriving DecidableEq, Repr

inductive OptionKind where
  | flag
  | value (accepts : List Char → Bool)
  | integer (accepts : List Char → Bool)
  | refusal (refusal : Refusal)

structure OptionShape where
  name : String
  letter : Option Char
  kind : OptionKind

structure Signature where
  options : List OptionShape
  operands : Nat

structure Given where
  flags : List String
  values : List (String × List Char)
  operands : List (List Char)
  deriving DecidableEq, Repr, Inhabited

namespace Given

def empty : Given := ⟨[], [], []⟩

def has (given : Given) (name : String) : Bool :=
  given.flags.contains name

def value? (given : Given) (name : String) : Option (List Char) :=
  given.values.lookup name

def addFlag (given : Given) (name : String) : Except Refusal Given :=
  if given.flags.contains name then .error .usage
  else .ok { given with flags := name :: given.flags }

def addValue (given : Given) (name : String) (accepts : List Char → Bool) (text : List Char) :
    Except Refusal Given :=
  if accepts text && (given.values.lookup name).isNone then
    .ok { given with values := (name, text) :: given.values }
  else .error .usage

end Given

structure Awaiting where
  name : String
  accepts : List Char → Bool
  negative : Bool

namespace Awaiting

def takes (awaiting : Awaiting) : List Char → Bool
  | '-' :: c :: rest => awaiting.negative && (c :: rest).all Char.isDigit
  | _ => true

def fill (awaiting : Awaiting) (given : Given) (text : List Char) : Except Refusal Given :=
  if awaiting.takes text then given.addValue awaiting.name awaiting.accepts text
  else .error .usage

end Awaiting

namespace Signature

def named? (signature : Signature) (name : List Char) : Option OptionShape :=
  signature.options.find? fun option => option.name.toList = name

def lettered? (signature : Signature) (letter : Char) : Option OptionShape :=
  signature.options.find? fun option => option.letter = some letter

def lone (given : Given) (option : OptionShape) : Except Refusal (Given × Option Awaiting) :=
  match option.kind with
  | .flag => (given.addFlag option.name).map fun given => (given, none)
  | .value accepts => .ok (given, some ⟨option.name, accepts, false⟩)
  | .integer accepts => .ok (given, some ⟨option.name, accepts, true⟩)
  | .refusal refusal => .error refusal

def attached (given : Given) (option : OptionShape) (text : List Char) :
    Except Refusal (Given × Option Awaiting) :=
  match option.kind with
  | .value accepts | .integer accepts =>
      (given.addValue option.name accepts text).map fun given => (given, none)
  | .flag | .refusal _ => .error .usage

def long (signature : Signature) (given : Given) (text : List Char) :
    Except Refusal (Given × Option Awaiting) :=
  match signature.named? (text.takeWhile (· ≠ '=')), text.dropWhile (· ≠ '=') with
  | none, _ => .error .usage
  | some option, [] => lone given option
  | some option, _ :: value => attached given option value

def letters (signature : Signature) (given : Given) : List Char →
    Except Refusal (Given × Option Awaiting)
  | [] => .ok (given, none)
  | letter :: rest =>
      match signature.lettered? letter with
      | none => .error .usage
      | some option =>
          match option.kind, rest with
          | .value _, '=' :: value | .integer _, '=' :: value => attached given option value
          | .value _, _ :: _ | .integer _, _ :: _ => attached given option rest
          | _, _ => do
              match ← lone given option with
              | (given, none) => letters signature given rest
              | (given, some awaiting) => .ok (given, some awaiting)

def addOperand (signature : Signature) (given : Given) (text : List Char) : Except Refusal Given :=
  if text.isEmpty || signature.operands ≤ given.operands.length then .error .usage
  else .ok { given with operands := given.operands ++ [text] }

def step (signature : Signature) (given : Given) (c : Char) (cs : List Char) :
    Except Refusal (Given × Option Awaiting) :=
  if c = '-' then signature.long given cs else signature.letters given (c :: cs)

def scan (signature : Signature) :
    Given × Option Awaiting → List (List Char) → Except Refusal Given
  | (given, none), [] => .ok given
  | (_, some _), [] => .error .usage
  | (given, some awaiting), text :: rest => do
      signature.scan (← awaiting.fill given text, none) rest
  | (given, none), ['-', '-'] :: rest => rest.foldlM signature.addOperand given
  | (given, none), ('-' :: c :: cs) :: rest => do
      signature.scan (← signature.step given c cs) rest
  | (given, none), operand :: rest => do
      signature.scan (← signature.addOperand given operand, none) rest

end Signature

end SoundEffect
