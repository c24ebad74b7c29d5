import SoundEffect.Error
import SoundEffect.Path

namespace SoundEffect

/-- What a reader says to one request: some bytes, of which none mean the end of the input, or a
fault. -/
inductive Answer where
  | piece (bytes : List UInt8)
  | fault (fault : IoFault)
  deriving DecidableEq, Repr

def Answer.bytes : Answer → List UInt8
  | piece bytes => bytes
  | fault _ => []

/-- The answers to come. After the last of them the input is at its end. -/
structure Source where
  answers : List Answer
  deriving DecidableEq, Repr

namespace Source

def ofBytes (bytes : List UInt8) : Source :=
  ⟨if bytes.isEmpty then [] else [.piece bytes]⟩

def cut (size : Nat) (bytes : List UInt8) : List Answer :=
  if _empty : bytes = [] then []
  else if _zero : size = 0 then [.piece []]
  else .piece (bytes.take size) :: cut size (bytes.drop size)
termination_by bytes.length
decreasing_by
  have := List.length_pos_iff.mpr _empty
  simp only [List.length_drop]
  omega

def remaining (source : Source) : Nat :=
  (source.answers.flatMap Answer.bytes).length

/-- Asks until there are so many bytes, and again after an interruption. An answer that ends the
reading stays where it is. -/
def take : Nat → List Answer → Except IoFault (List UInt8) × Source
  | 0, answers => (.ok [], ⟨answers⟩)
  | _ + 1, [] => (.error .shortRead, ⟨[]⟩)
  | n + 1, .fault fault :: answers =>
      if fault.kind = .interrupted then take (n + 1) answers
      else (.error fault, ⟨.fault fault :: answers⟩)
  | _ + 1, .piece [] :: answers => (.error .shortRead, ⟨.piece [] :: answers⟩)
  | n + 1, .piece (byte :: piece) :: answers =>
      if n + 1 ≤ (byte :: piece).length then
        let rest := (byte :: piece).drop (n + 1)
        (.ok ((byte :: piece).take (n + 1)),
          ⟨if rest.isEmpty then answers else .piece rest :: answers⟩)
      else
        match take (n + 1 - (byte :: piece).length) answers with
        | (.ok bytes, source) => (.ok (byte :: piece ++ bytes), source)
        | (.error fault, source) => (.error fault, source)

def read (source : Source) (count : Nat) : Except IoFault (List UInt8) × Source :=
  take count source.answers

end Source

structure Sink where
  room : Nat
  written : List UInt8
  deriving DecidableEq, Repr

namespace Sink

def new (room : Nat) : Sink := ⟨room, []⟩

def write (sink : Sink) (bytes : List UInt8) : Except IoFault Sink :=
  if bytes.length ≤ sink.room then .ok ⟨sink.room - bytes.length, sink.written ++ bytes⟩
  else .error (.custom .other "writer failed")

end Sink

class Files (m : Type → Type) where
  read : Path → m (Except IoFault (List UInt8))
  write : Path → List UInt8 → m (Except IoFault Unit)

end SoundEffect
