import SoundEffect.Config.Json
import SoundEffect.EffectFile
import SoundEffect.Program.Json
import SoundEffect.Stream
import SoundEffect.Text.Basic

namespace SoundEffect

namespace Program

def encodeFor (path : Path) (program : Program) : List UInt8 :=
  if path.isJson then Text.utf8 program.indentedJson else EffectFile.encode program

def decodeFor (path : Path) (bytes : List UInt8) : Except Error Program :=
  if path.isJson then (ofJson bytes).mapError .json else EffectFile.decode bytes

def load {m : Type → Type} [Monad m] [Files m] (path : Path) : m (Except Error Program) := do
  match ← Files.read path with
  | .ok bytes => return decodeFor path bytes
  | .error fault => return .error (.io fault)

def save {m : Type → Type} [Monad m] [Files m] (path : Path) (program : Program) :
    m (Except Error Unit) := do
  return (← Files.write path (program.encodeFor path)).mapError .io

end Program

namespace Config

def ofFile (bytes : List UInt8) : Except Error Config :=
  match ofJson bytes with
  | .error fault => .error (.json fault)
  | .ok config =>
      match config.validate with
      | .error fault => .error (.config fault)
      | .ok () => .ok config

def load {m : Type → Type} [Monad m] [Files m] (path : Path) : m (Except Error Config) := do
  match ← Files.read path with
  | .ok bytes => return ofFile bytes
  | .error fault => return .error (.io fault)

end Config

end SoundEffect
