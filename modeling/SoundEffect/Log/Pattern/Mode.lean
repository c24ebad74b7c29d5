import SoundEffect.Text.Basic

namespace SoundEffect.Log.Pattern

structure Mode where
  unicode : Bool
  ignoreCase : Bool
  spaced : Bool
  deriving DecidableEq, Repr

def flagLetters : List Char :=
  "imsUuRx".toList

def isFlags (text : List Char) : Bool :=
  text.all (fun c => c = '-' || flagLetters.contains c) && text.eraseDups = text &&
    text.getLast? ≠ some '-'

def flag? (text : List Char) (letter : Char) : Option Bool :=
  if !text.contains letter then none
  else some ((text.takeWhile (· ≠ '-')).contains letter)

namespace Mode

def standard : Mode := ⟨true, false, false⟩

def set (mode : Mode) (flags : List Char) : Mode where
  unicode := (flag? flags 'u').getD mode.unicode
  ignoreCase := (flag? flags 'i').getD mode.ignoreCase
  spaced := (flag? flags 'x').getD mode.spaced

def skipFrom (inComment : Bool) : List Char → List Char
  | [] => []
  | c :: text =>
      if inComment then skipFrom (c ≠ '\n') text
      else if Text.isBlank c then skipFrom false text
      else if c = '#' then skipFrom true text
      else c :: text

def skip (mode : Mode) (text : List Char) : List Char :=
  if mode.spaced then skipFrom false text else text

def firstShown (inComment : Bool) : List Char → Option Char
  | [] => none
  | c :: text =>
      if Text.isBlank c then firstShown inComment text
      else if c = '#' && !inComment then firstShown true text
      else some c

def ahead (mode : Mode) (text : List Char) : Option Char :=
  if mode.spaced then (firstShown false text).or text.head? else text.head?

def run (mode : Mode) (kind : Char → Bool) : Nat → List Char → List Char × List Char
  | n + 1, c :: text =>
      if kind c then
        let (taken, rest) := mode.run kind n (mode.skip text)
        (c :: taken, rest)
      else ([], c :: text)
  | _, text => ([], text)

end Mode

end SoundEffect.Log.Pattern
