namespace SoundEffect

inductive ControlLine where
  | gate
  | sync
  | ring
  | test
  | triangle
  | sawtooth
  | rectangle
  | noise
  deriving DecidableEq, Repr

namespace ControlLine

def all : List ControlLine :=
  [gate, sync, ring, test, triangle, sawtooth, rectangle, noise]

def mask : ControlLine → UInt8
  | gate => 0x01
  | sync => 0x02
  | ring => 0x04
  | test => 0x08
  | triangle => 0x10
  | sawtooth => 0x20
  | rectangle => 0x40
  | noise => 0x80

def name : ControlLine → String
  | gate => "GATE"
  | sync => "SYNC"
  | ring => "RING"
  | test => "TEST"
  | triangle => "TRIANGLE"
  | sawtooth => "SAWTOOTH"
  | rectangle => "RECTANGLE"
  | noise => "NOISE"

def ofName? (text : String) : Option ControlLine :=
  all.find? (·.name = text)

end ControlLine

structure Control where
  bits : UInt8
  deriving DecidableEq, Repr, Inhabited

namespace Control

def none : Control := ⟨0⟩

def has (control : Control) (line : ControlLine) : Bool :=
  control.bits &&& line.mask != 0

def gate (control : Control) : Bool :=
  control.has .gate

def raise (control : Control) (line : ControlLine) : Control :=
  ⟨control.bits ||| line.mask⟩

def lower (control : Control) (line : ControlLine) : Control :=
  ⟨control.bits &&& ~~~line.mask⟩

def put (control : Control) (line : ControlLine) (on : Bool) : Control :=
  if on then control.raise line else control.lower line

def union (a b : Control) : Control :=
  ⟨a.bits ||| b.bits⟩

def lines (control : Control) : List ControlLine :=
  ControlLine.all.filter control.has

end Control

end SoundEffect
