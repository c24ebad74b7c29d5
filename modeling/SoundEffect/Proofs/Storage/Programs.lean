import SoundEffect.Proofs.Disk.Writing
import SoundEffect.Proofs.EffectFile.Codec
import SoundEffect.Proofs.Program.Json
import SoundEffect.Storage

namespace SoundEffect

open Text (utf8)

variable {disk disk' : Disk} {path : Path} {program : Program} {bytes : List UInt8}

namespace Program

theorem decodeFor_encodeFor (valid : program.Valid) (path : Path) :
    decodeFor path (program.encodeFor path) = .ok program := by
  rw [decodeFor, encodeFor]
  split
  · have read := ofJson_indentedJson valid (show Json.Blank [] from nofun)
    rw [List.append_nil] at read
    rw [read]
    rfl
  · exact EffectFile.decode_encode valid

theorem valid_of_decodeFor (decoded : decodeFor path bytes = .ok program) : program.Valid := by
  rw [decodeFor] at decoded
  split at decoded
  · cases read : ofJson bytes with
    | error fault =>
        rw [read] at decoded
        cases decoded
    | ok held =>
        rw [read] at decoded
        obtain rfl := Except.ok.inj decoded
        exact valid_of_ofJson read
  · exact EffectFile.valid_of_decode decoded

end Program

def Disk.programAt (disk : Disk) (path : Path) : Except Error Program :=
  match disk.read path with
  | .ok bytes => Program.decodeFor path bytes
  | .error fault => .error (.io fault)

namespace Disk

theorem programAt_of_read (content : disk.read path = .ok bytes) :
    disk.programAt path = Program.decodeFor path bytes := by
  rw [programAt, content]

theorem valid_of_programAt (held : disk.programAt path = .ok program) : program.Valid := by
  rw [programAt] at held
  split at held
  · exact Program.valid_of_decodeFor held
  · cases held

theorem programAt_of_write (valid : program.Valid)
    (written : disk.write path (program.encodeFor path) = .ok disk') :
    disk'.programAt path = .ok program := by
  rw [programAt_of_read (read_of_write written), Program.decodeFor_encodeFor valid]

end Disk

theorem Files.read_run (path : Path) (disk : Disk) :
    (Files.read path : StateM Disk _) disk = (disk.read path, disk) := rfl

theorem Files.write_run (written : disk.write path bytes = .ok disk') :
    (Files.write path bytes : StateM Disk _) disk = (.ok (), disk') := by
  simp only [Files.write, bind, StateT.bind, get, getThe, MonadStateOf.get, StateT.get, pure,
    written]
  rfl

namespace Program

theorem load_run (path : Path) (disk : Disk) :
    (load path : StateM Disk _) disk = (disk.programAt path, disk) := by
  simp only [load, bind, StateT.bind, Files.read_run, Disk.programAt]
  cases disk.read path <;> rfl

theorem save_run (written : disk.write path (program.encodeFor path) = .ok disk') :
    (program.save path : StateM Disk _) disk = (.ok (), disk') := by
  simp only [save, bind, StateT.bind, Files.write_run written]
  rfl

end Program

end SoundEffect
