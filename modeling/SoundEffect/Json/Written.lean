import SoundEffect.Text.Numeral

namespace SoundEffect.Json

inductive Scalar where
  | integer (value : Int)
  | text (value : List Char)
  deriving DecidableEq, Repr

abbrev Record := List (String × Scalar)

def escaped (c : Char) : List Char :=
  if c = '\x22' then "\\\x22".toList
  else if c = '\\' then "\\\\".toList
  else if c = '\x08' then "\\b".toList
  else if c = '\x0c' then "\\f".toList
  else if c = '\n' then "\\n".toList
  else if c = '\r' then "\\r".toList
  else if c = '\t' then "\\t".toList
  else if c.toNat < 0x20 then "\\u00".toList ++ Text.hexByte (UInt8.ofNat c.toNat)
  else [c]

def writtenText (text : List Char) : List Char :=
  ['\x22'] ++ text.flatMap escaped ++ ['\x22']

def Scalar.written : Scalar → List Char
  | integer value => Text.integer value
  | text value => writtenText value

def member (gap : List Char) (entry : String × Scalar) : List Char :=
  writtenText entry.1.toList ++ [':'] ++ gap ++ entry.2.written

def compactRecord (record : Record) : List Char :=
  ['\x7b'] ++ List.intercalate [','] (record.map (member [])) ++ ['\x7d']

def compactList (records : List Record) : List Char :=
  ['['] ++ List.intercalate [','] (records.map compactRecord) ++ [']']

def indentedRecord (record : Record) : List Char :=
  "  \x7b\n".toList ++
    List.intercalate ",\n".toList (record.map fun entry => "    ".toList ++ member [' '] entry) ++
    "\n  \x7d".toList

def indentedList (records : List Record) : List Char :=
  if records.isEmpty then "[]".toList
  else "[\n".toList ++ List.intercalate ",\n".toList (records.map indentedRecord) ++ "\n]".toList

end SoundEffect.Json
