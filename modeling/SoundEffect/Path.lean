import SoundEffect.Text.Basic

namespace SoundEffect

abbrev Path := List Char

namespace Path

def steps (path : Path) : List (List Char) :=
  Text.splitOn '/' path

def fileName? (path : Path) : Option (List Char) :=
  match (path.steps.filter fun step => step ≠ [] && step ≠ ['.']).getLast? with
  | some ['.', '.'] => none
  | name => name

def splitName (name : List Char) : List Char × Option (List Char) :=
  let after := (name.reverse.takeWhile (· ≠ '.')).reverse
  let before := name.take (name.length - after.length - 1)
  if before.isEmpty then (name, none) else (before, some after)

def stem (path : Path) : List Char :=
  match path.fileName? with
  | some name => (splitName name).1
  | none => []

def extension? (path : Path) : Option (List Char) :=
  path.fileName?.bind fun name => (splitName name).2

def isJson (path : Path) : Bool :=
  match path.extension? with
  | some extension => extension.map Char.toLower = "json".toList
  | none => false

end Path

end SoundEffect
