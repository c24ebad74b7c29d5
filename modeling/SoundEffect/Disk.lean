import SoundEffect.Stream
import SoundEffect.Text.Basic

namespace SoundEffect

inductive Node where
  | file (bytes : List UInt8)
  | directory
  deriving DecidableEq, Repr

abbrev Place := List (List Char)

/-- What there is besides the top directory, in order of creation, and the place of the working
directory. -/
structure Disk where
  nodes : List (Place × Node)
  home : Place
  deriving DecidableEq, Repr, Inhabited

namespace Disk

def empty (home : Place) : Disk :=
  ⟨(List.range home.length).map fun depth => (home.take (depth + 1), .directory), home⟩

def node? (disk : Disk) (place : Place) : Option Node :=
  if place.isEmpty then some .directory else disk.nodes.lookup place

def put (disk : Disk) (place : Place) (node : Node) : Disk :=
  if (disk.nodes.lookup place).isSome then
    { disk with
      nodes := disk.nodes.map fun entry => if entry.1 = place then (place, node) else entry }
  else { disk with nodes := disk.nodes ++ [(place, node)] }

def nameSize : Nat := 255

/-- The octets of a path with the one that ends it. -/
def pathSize : Nat := 4096

def checkDirectory (disk : Disk) (place : Place) : Except IoFault Unit :=
  match disk.node? place with
  | none => .error .notFound
  | some (.file _) => .error .notDirectory
  | some .directory => .ok ()

def step (disk : Disk) (place : Place) (name : List Char) : Except IoFault Place := do
  disk.checkDirectory place
  if name = [] ∨ name = ['.'] then return place
  else if name = ['.', '.'] then return place.dropLast
  else if nameSize < (Text.utf8 name).length then throw .nameTooLong
  else return place ++ [name]

def start (disk : Disk) (path : Path) : Except IoFault Place :=
  if path.contains '\x00' then .error .nulInName
  else if path.isEmpty then .error .notFound
  else if pathSize ≤ (Text.utf8 path).length then .error .nameTooLong
  else .ok (if path.head? = some '/' then [] else disk.home)

def walk (disk : Disk) (place : Place) (names : List (List Char)) : Except IoFault Place :=
  names.foldlM disk.step place

def resolve (disk : Disk) (path : Path) : Except IoFault Place := do
  disk.walk (← disk.start path) path.steps

def read (disk : Disk) (path : Path) : Except IoFault (List UInt8) := do
  match disk.node? (← disk.resolve path) with
  | some (.file bytes) => .ok bytes
  | some .directory => .error .isDirectory
  | none => .error .notFound

def stepsBack (path : Path) : List (List Char) :=
  path.steps.reverse.dropWhile List.isEmpty

def write (disk : Disk) (path : Path) (bytes : List UInt8) : Except IoFault Disk := do
  let first ← disk.start path
  match stepsBack path with
  | [] => throw .isDirectory
  | name :: parents =>
      let parent ← disk.walk first parents.reverse
      disk.checkDirectory parent
      if path.getLast? = some '/' then throw .isDirectory
      else
        let place ← disk.step parent name
        match disk.node? place with
        | some .directory => throw .isDirectory
        | _ => return disk.put place (.file bytes)

def makeDirectory (disk : Disk) (path : Path) : Except IoFault Disk := do
  let place ← disk.walk (← disk.start path) (stepsBack path).reverse
  match disk.node? place with
  | some _ => .error .alreadyExists
  | none => .ok (disk.put place .directory)

def homeFiles (disk : Disk) : List (List Char × List UInt8) :=
  disk.nodes.filterMap fun
    | (place, .file bytes) =>
        if place.dropLast = disk.home then place.getLast?.map fun name => (name, bytes) else none
    | _ => none

end Disk

instance : Files (StateM Disk) where
  read path := return (← get).read path
  write path bytes := do
    match (← get).write path bytes with
    | .ok disk =>
        set disk
        return .ok ()
    | .error fault => return .error fault

end SoundEffect
