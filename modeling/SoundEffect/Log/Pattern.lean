import SoundEffect.Log.Pattern.Group

namespace SoundEffect.Log.Pattern

def withoutSign : List Char → List Char
  | '+' :: text => text
  | '-' :: text => text
  | text => text

def numberNames : List (List Char) :=
  ["inf".toList, "infinity".toList, "nan".toList]

def isDecimal (text : List Char) : Bool :=
  let whole := text.takeWhile Char.isDigit
  let (fraction, rest) :=
    match text.dropWhile Char.isDigit with
    | '.' :: rest => (rest.takeWhile Char.isDigit, rest.dropWhile Char.isDigit)
    | rest => ([], rest)
  !(whole ++ fraction).isEmpty &&
    match rest with
    | [] => true
    | e :: exponent => (e = 'e' || e = 'E') && (Text.natural? (withoutSign exponent)).isSome

def isNumber (text : List Char) : Bool :=
  let magnitude := withoutSign text
  numberNames.contains (magnitude.map Char.toLower) || isDecimal magnitude

def isValue (text : List Char) : Bool :=
  isNumber text || isWellFormed text

end SoundEffect.Log.Pattern
