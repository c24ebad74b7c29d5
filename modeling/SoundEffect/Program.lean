import SoundEffect.Segment

namespace SoundEffect

structure Program where
  segments : List Segment
  deriving DecidableEq, Repr

namespace Program

def capacity : Nat := 15

def base : Program := ⟨[.base]⟩

instance : Inhabited Program := ⟨base⟩

def ofSegments (segments : List Segment) : Except ProgramFault Program :=
  if segments.isEmpty then .error .lastSegment
  else if capacity < segments.length then .error (.full capacity)
  else .ok ⟨segments.map Segment.clamped⟩

def length (program : Program) : Nat :=
  program.segments.length

def isFull (program : Program) : Bool :=
  capacity ≤ program.length

def duration (program : Program) : Nat :=
  program.segments.foldr
    (fun segment rest => segment.gateTicks.toNat + segment.releaseTicks.toNat + rest) 0

def segment (program : Program) (index : Nat) : Except ProgramFault Segment :=
  match program.segments[index]? with
  | some segment => .ok segment
  | none => .error (.segmentOutOfRange index program.length)

def insert (program : Program) (index : Nat) : Except ProgramFault Program :=
  if program.length < index then .error (.segmentOutOfRange index program.length)
  else if program.isFull then .error (.full capacity)
  else .ok ⟨program.segments.insertIdx index (program.segments.getD index .base)⟩

def remove (program : Program) (index : Nat) : Except ProgramFault (Segment × Program) :=
  match program.segments[index]? with
  | none => .error (.segmentOutOfRange index program.length)
  | some segment =>
      if program.length = 1 then .error .lastSegment
      else .ok (segment, ⟨program.segments.eraseIdx index⟩)

def modify (program : Program) (index : Nat) (change : Segment → Segment) :
    Except ProgramFault Program :=
  match program.segments[index]? with
  | none => .error (.segmentOutOfRange index program.length)
  | some segment => .ok ⟨program.segments.set index (change segment)⟩

end Program

end SoundEffect
