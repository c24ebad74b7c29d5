import SoundEffect.Program

namespace SoundEffect

inductive SegmentEdit where
  | set (field : Field) (value : Int32)
  | adjust (field : Field) (delta : Int32)
  | enable (waveform : Waveform)
  | disable (waveform : Waveform)
  | gate (on : Bool)
  | clamp
  | assign (segment : Segment)
  deriving DecidableEq, Repr

def SegmentEdit.apply : SegmentEdit → Segment → Segment
  | set field value, segment => segment.set field value
  | adjust field delta, segment => segment.adjust field delta
  | enable waveform, segment => segment.enable waveform
  | disable waveform, segment => segment.disable waveform
  | gate on, segment => segment.setGate on
  | clamp, segment => segment.clamped
  | assign replacement, _ => replacement

inductive Edit where
  | insert (index : Nat)
  | remove (index : Nat)
  | clear
  | segment (index : Nat) (edit : SegmentEdit)
  deriving DecidableEq, Repr

/-- A computation that changes a program and may fail; its changes outlive the failure. -/
abbrev EditM (α : Type) := ExceptT Error (StateM Program) α

namespace EditM

def ofResult {α : Type} (result : Except ProgramFault α) : EditM α :=
  match result with
  | .ok value => pure value
  | .error fault => throw (.program fault)

end EditM

def Edit.run : Edit → EditM (Option Segment)
  | insert index => do
      set (← EditM.ofResult ((← get).insert index))
      return none
  | remove index => do
      let (removed, rest) ← EditM.ofResult ((← get).remove index)
      set rest
      return some removed
  | clear => do
      set Program.base
      return none
  | segment index edit => do
      set (← EditM.ofResult ((← get).modify index edit.apply))
      return none

def Edit.script : List Edit → EditM (List (Option Segment))
  | [] => pure []
  | edit :: rest => do
      let answer ← edit.run
      return answer :: (← script rest)

end SoundEffect
