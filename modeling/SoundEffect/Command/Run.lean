import SoundEffect.CArray
import SoundEffect.Command
import SoundEffect.Log.Events
import SoundEffect.Preview
import SoundEffect.Row
import SoundEffect.Session
import SoundEffect.Storage
import SoundEffect.Trace

namespace SoundEffect

def Program.table (program : Program) : List Char :=
  tableHeader.toList ++ ['\n'] ++
    (program.segments.zipIdx.flatMap fun (segment, index) =>
      Text.paddedDecimal 2 index ++ "  ".toList ++ segment.row ++ ['\n']) ++
    Text.decimal program.length ++ " segment(s), ".toList ++ Text.decimal program.duration ++
    " ticks\n".toList

namespace Command

variable {m : Type → Type} [Monad m] [Files m]

def load (file : Path) : Session m Program := do
  let program ← Session.ofResult ("Failed to load ".toList ++ file) (← Program.load (m := m) file)
  Session.report (.loaded file program)
  return program

def save (file : Path) (program : Program) : Session m Unit := do
  Session.ofResult ("Failed to write ".toList ++ file) (← program.save (m := m) file)
  Session.report (.saved file program)

def writeNew (file : Path) (text : List UInt8) : Session m Unit := do
  match ← (Files.write file text : m (Except IoFault Unit)) with
  | .ok () => pure ()
  | .error fault => throw (.creation file fault)

def deliver (out : Option Path) (text : List Char) : Session m Unit :=
  match out with
  | some file => writeNew file (Text.utf8 text)
  | none => Session.print text

def loadConfig : ConfigSource → Session m Config
  | .standard => return .pal
  | .pico8 => return .pico8
  | .file path => do
      Session.ofResult ("Failed to load config ".toList ++ path) (← Config.load (m := m) path)

def simulated {α : Type} (result : Except ConfigFault α) : Session m α :=
  Session.ofResult "Invalid simulation config".toList (result.mapError .config)

def runPicture (file : Path) (source : ConfigSource) (bitmap : Option Path) : Session m Unit := do
  let config ← loadConfig source
  let program ← load file
  let (frames, drawn) := (← simulated (Preview.new config)).frames (.new program)
  Session.reportAll (Log.Event.simulated program config)
  Session.report (.previewed frames)
  Session.print drawn.bitmap.ascii
  match bitmap with
  | some path =>
      writeNew path drawn.bitmap.pbm
      Session.report (.done ("Wrote ".toList ++ path))
  | none => pure ()

def runTrace (file : Path) (source : ConfigSource) (out : Option Path) : Session m Unit := do
  let program ← load file
  let config ← loadConfig source
  let (rows, csv) ← simulated (program.traceCsv config)
  deliver out csv
  Session.reportAll (Log.Event.simulated program config)
  Session.report (.done ("Wrote ".toList ++ Text.decimal rows ++ " trace rows".toList))

def runEdit (file : Path) (index : Nat) (change : Change) : Session m Unit := do
  let store := Store.new (← load file)
  let (answer, edited) := store.edit (change.at index).run
  let _ ← Session.ofResult ("Failed to edit segment ".toList ++ Text.decimal index) answer
  Session.report (.edited edited)
  save file edited.program
  Session.print edited.program.table

def run : Command → Session m Unit
  | create out => do
      save out .base
      Session.report (.done ("Created ".toList ++ out))
  | table file => do Session.print (← load file).table
  | picture file config bitmap => runPicture file config bitmap
  | trace file config out => runTrace file config out
  | array file name out => do
      let program ← load file
      deliver out (program.cArray (name.getD (effectName file.stem)))
  | json file => do Session.print ((← load file).indentedJson ++ ['\n'])
  | convert file out => do
      let program ← load file
      save out program
      Session.report (.done ("Converted ".toList ++ file ++ " -> ".toList ++ out))
  | edit file index change => runEdit file index change

end Command

end SoundEffect
