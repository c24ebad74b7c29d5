import SoundEffect.CommandLine

namespace SoundEffect

/-- A fault is known by the number that the system gives it, or by the negative of that number. -/
def IoFault.ofSystem : IO.Error → IoFault
  | .noFileOrDirectory .. => .notFound
  | .inappropriateType _ code details =>
      if code = 20 ∨ -code = 20 then .notDirectory
      else if code = 21 ∨ -code = 21 then .isDirectory
      else .custom .other details
  | .invalidArgument _ code details =>
      if code = 36 ∨ -code = 36 then .nameTooLong else .custom .other details
  | .interrupted _ _ details => .custom .interrupted details
  | .unexpectedEof => .custom .unexpectedEnd (toString IO.Error.unexpectedEof)
  | fault => .custom .other (toString fault)

instance : Files IO where
  read path := do
    try
      return .ok (← IO.FS.readBinFile (String.ofList path)).toList
    catch fault => return .error (.ofSystem fault)
  write path bytes := do
    try
      IO.FS.writeBinFile (String.ofList path) ⟨bytes.toArray⟩
      return .ok ()
    catch fault => return .error (.ofSystem fault)

def showOutcome (outcome : Outcome) : IO Unit := do
  for line in outcome.log do
    IO.eprintln (String.ofList line)
  IO.print (String.ofList outcome.output)
  IO.eprint (String.ofList outcome.report)

end SoundEffect

def main (arguments : List String) : IO UInt32 := do
  let setting ← IO.getEnv "RUST_LOG"
  let outcome ←
    SoundEffect.CommandLine.run (setting.map String.toList) (arguments.map String.toList)
  SoundEffect.showOutcome outcome
  return UInt32.ofNat outcome.code
