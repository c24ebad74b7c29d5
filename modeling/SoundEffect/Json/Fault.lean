import SoundEffect.Text.Quoted

namespace SoundEffect.Json

inductive Found where
  | null
  | boolean (value : Bool)
  | integer (value : Int)
  | floatingPoint
  | text (value : String)
  | sequence
  | map
  deriving DecidableEq, Repr

def Found.describe : Found → String
  | null => "null"
  | boolean value => "boolean `" ++ toString value ++ "`"
  | integer value => "integer `" ++ toString value ++ "`"
  | floatingPoint => "floating point"
  | text value => "string " ++ Text.quoted value
  | sequence => "sequence"
  | map => "map"

inductive DataFault where
  | wrongKind (found : Found) (expected : String)
  | outOfRange (value : Int) (expected : String)
  | wrongLength (length : Nat) (expected : String)
  | unknownName (name : String) (known : List String)
  | missing (field : String)
  | duplicate (field : String)
  | emptyFlag
  | invalidHexFlag
  | unrecognizedFlag
  | rejected (reason : String)
  deriving DecidableEq, Repr

def choice (names : List String) : String :=
  let quotedNames := names.map fun name => "`" ++ name ++ "`"
  match quotedNames with
  | [a] => a
  | [a, b] => a ++ " or " ++ b
  | _ => "one of " ++ String.intercalate ", " quotedNames

def DataFault.message : DataFault → String
  | wrongKind found expected => "invalid type: " ++ found.describe ++ ", expected " ++ expected
  | outOfRange value expected =>
      "invalid value: integer `" ++ toString value ++ "`, expected " ++ expected
  | wrongLength length expected =>
      "invalid length " ++ toString length ++ ", expected " ++ expected
  | unknownName name known => "unknown variant `" ++ name ++ "`, expected " ++ choice known
  | missing field => "missing field `" ++ field ++ "`"
  | duplicate field => "duplicate field `" ++ field ++ "`"
  | emptyFlag => "encountered empty flag"
  | invalidHexFlag => "invalid hex flag"
  | unrecognizedFlag => "unrecognized named flag"
  | rejected reason => reason

inductive Fault where
  | malformed
  | truncated
  | data (cause : DataFault)
  deriving DecidableEq, Repr

end SoundEffect.Json
