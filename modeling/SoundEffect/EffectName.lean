namespace SoundEffect

def effectNameChar? (c : Char) : Option Char :=
  if ('0' ≤ c ∧ c ≤ '9') ∨ c = '-' ∨ ('a' ≤ c ∧ c ≤ 'z') then some c
  else if 'A' ≤ c ∧ c ≤ 'Z' then some c.toLower
  else none

def effectName (raw : List Char) : List Char :=
  (raw.takeWhile (· ≠ '.')).filterMap effectNameChar?

def identifier (name : List Char) : List Char :=
  (effectName name).map fun c => if c = '-' then '_' else c

end SoundEffect
