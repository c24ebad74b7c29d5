import SoundEffect.Edit

namespace SoundEffect

structure Store where
  program : Program
  revision : Nat
  deriving DecidableEq, Repr

namespace Store

def new (program : Program) : Store := ⟨program, 0⟩

instance : Inhabited Store := ⟨new .base⟩

def edit {α : Type} (store : Store) (body : EditM α) : Except Error α × Store :=
  match body.run.run store.program with
  | (.ok answer, program) => (.ok answer, ⟨program, store.revision + 1⟩)
  | (.error fault, program) => (.error fault, ⟨program, store.revision⟩)

def replace (store : Store) (program : Program) : Store :=
  ⟨program, store.revision + 1⟩

end Store

end SoundEffect
