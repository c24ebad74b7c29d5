import SoundEffect.Json.Fault
import SoundEffect.Text.Numeral

namespace SoundEffect

/-- All kinds that no reader tells from one another are one. -/
inductive IoKind where
  | unexpectedEnd
  | interrupted
  | other
  deriving DecidableEq, Repr

inductive IoFault where
  | notFound
  | notDirectory
  | isDirectory
  | alreadyExists
  | nameTooLong
  | nulInName
  | shortRead
  | custom (kind : IoKind) (text : String)
  deriving DecidableEq, Repr

namespace IoFault

def kind : IoFault → IoKind
  | shortRead => .unexpectedEnd
  | custom kind _ => kind
  | _ => .other

def message : IoFault → String
  | notFound => "No such file or directory (os error 2)"
  | notDirectory => "Not a directory (os error 20)"
  | isDirectory => "Is a directory (os error 21)"
  | alreadyExists => "File exists (os error 17)"
  | nameTooLong => "File name too long (os error 36)"
  | nulInName => "file name contained an unexpected NUL byte"
  | shortRead => "failed to fill whole buffer"
  | custom _ text => text

end IoFault

inductive FilePart where
  | header
  | records
  deriving DecidableEq, Repr

def FilePart.describe : FilePart → String
  | header => "header"
  | records => "segment records"

inductive FormatFault where
  | truncated (part : FilePart)
  | badMagic (byte : UInt8)
  | segmentCount (count : Nat)
  | other (text : String)
  deriving DecidableEq, Repr

def FormatFault.message : FormatFault → String
  | truncated part => "file truncated in " ++ part.describe
  | badMagic byte => "bad magic byte 0x" ++ String.ofList (Text.upperHexByte byte)
  | segmentCount count => "segment count " ++ toString count ++ " outside 1..=15"
  | other text => text

inductive ConfigFault where
  | columns (got : Nat)
  | tickLength (got : Nat)
  | columnsPerFrame (most got : Nat)
  | other (text : String)
  deriving DecidableEq, Repr

def ConfigFault.message : ConfigFault → String
  | columns got => "columns must be 1..=40, got " ++ toString got
  | tickLength got => "tick_ms must be 1..=1000, got " ++ toString got
  | columnsPerFrame most got =>
      "columns_per_frame must be 1..=" ++ toString most ++ ", got " ++ toString got
  | other text => text

inductive ProgramFault where
  | full (capacity : Nat)
  | lastSegment
  | segmentOutOfRange (index length : Nat)
  deriving DecidableEq, Repr

def ProgramFault.message : ProgramFault → String
  | full capacity => "Effect program is full (" ++ toString capacity ++ " segments)"
  | lastSegment => "An effect program needs at least one segment"
  | segmentOutOfRange index length =>
      "Segment " ++ toString index ++ " out of range (program has " ++ toString length ++ ")"

inductive Error where
  | io (fault : IoFault)
  | json (fault : Json.Fault)
  | format (fault : FormatFault)
  | config (fault : ConfigFault)
  | program (fault : ProgramFault)
  | unknownWaveform (text : String)
  | unknownField (text : String)
  | other (text : String)
  deriving DecidableEq, Repr

/-- The wording of a JSON fault of form is left open: the command line shows nothing of it. -/
def Error.message : Error → String
  | io fault => "IO error: " ++ fault.message
  | json (.data cause) => "JSON error: " ++ cause.message
  | json _ => "JSON error:"
  | format fault => "Invalid effect file: " ++ fault.message
  | config fault => "Invalid configuration: " ++ fault.message
  | program fault => fault.message
  | unknownWaveform text => "unknown waveform: " ++ text
  | unknownField text => "unknown segment field: " ++ text
  | other text => text

end SoundEffect
