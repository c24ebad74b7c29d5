import SoundEffect.Arguments
import SoundEffect.CArray
import SoundEffect.CommandLine
import SoundEffect.Config.Json
import SoundEffect.Disk
import SoundEffect.EffectFile
import SoundEffect.Log.Event
import SoundEffect.Log.Filter
import SoundEffect.Main
import SoundEffect.Preview
import SoundEffect.Program.Json
import SoundEffect.Proofs.BarChart.Locality
import SoundEffect.Proofs.Bitmap.Addresses
import SoundEffect.Proofs.Bitmap.Exports
import SoundEffect.Proofs.CArray.Reading
import SoundEffect.Proofs.CommandLine.Edits
import SoundEffect.Proofs.EffectFile.Codec
import SoundEffect.Proofs.EffectFile.Grammar
import SoundEffect.Proofs.EffectName.Stability
import SoundEffect.Proofs.Envelope.Checked
import SoundEffect.Proofs.Envelope.History
import SoundEffect.Proofs.Envelope.Loudness
import SoundEffect.Proofs.Envelope.Proportion
import SoundEffect.Proofs.Envelope.Response
import SoundEffect.Proofs.Envelope.Steps
import SoundEffect.Proofs.Interpreter.Glides
import SoundEffect.Proofs.Interpreter.Headroom
import SoundEffect.Proofs.Interpreter.Legato
import SoundEffect.Proofs.Preview.Cutoff
import SoundEffect.Proofs.Preview.Likeness
import SoundEffect.Proofs.Preview.Picture
import SoundEffect.Proofs.Preview.Workbench
import SoundEffect.Proofs.Program.Calls
import SoundEffect.Proofs.Program.Splicing
import SoundEffect.Proofs.Row.Unambiguous
import SoundEffect.Proofs.Segment.Clamping
import SoundEffect.Proofs.Simulator.Composition
import SoundEffect.Proofs.Simulator.Foresight
import SoundEffect.Proofs.Simulator.Gaps
import SoundEffect.Proofs.Simulator.LockStep
import SoundEffect.Proofs.Simulator.Samples
import SoundEffect.Proofs.Simulator.Silence
import SoundEffect.Proofs.Storage.Interchange
import SoundEffect.Proofs.Store.Scripts
import SoundEffect.Proofs.Trace.Complete
import SoundEffect.Row
import SoundEffect.Storage
import SoundEffect.Trace
