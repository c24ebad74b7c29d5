import SoundEffect.Proofs.CommandLine.Running

namespace SoundEffect

open Text (utf8)

inductive Transfer where
  | resaved
  | converted (setting : Option (List Char)) (arguments : List (List Char))
  | printed (setting : Option (List Char)) (arguments : List (List Char))

namespace Transfer

def Leads (file out : Path) : Transfer → Prop
  | resaved => True
  | converted _ arguments =>
      ∃ verbose, Command.request arguments = .ok ⟨verbose, .convert file out⟩
  | printed _ arguments =>
      out.isJson = true ∧ ∃ verbose, Command.request arguments = .ok ⟨verbose, .json file⟩

def carry (file out : Path) : Transfer → StateM Disk Bool
  | resaved => do
      match ← Program.load file with
      | .ok program => return (← program.save out).isOk
      | .error _ => return false
  | converted setting arguments => do
      return (← CommandLine.run setting arguments).code = 0
  | printed setting arguments => do
      let outcome ← CommandLine.run setting arguments
      let written ← Files.write out (utf8 outcome.output)
      return outcome.code = 0 ∧ written.isOk = true

def relay (file : Path) : List (Path × Transfer) → StateM Disk (Option (Except Error Program))
  | [] => return some (← Program.load file)
  | (out, transfer) :: legs => do
      if ← transfer.carry file out then relay out legs else return none

def Connected (file : Path) : List (Path × Transfer) → Prop
  | [] => True
  | (out, transfer) :: legs => transfer.Leads file out ∧ Connected out legs

variable {program : Program} {disk : Disk} {file out : Path}

theorem carry_of_leads {transfer : Transfer} (leads : transfer.Leads file out)
    (held : disk.programAt file = .ok program) (writable : disk.Writable out) :
    ∃ bytes disk', disk.write out bytes = .ok disk' ∧
      transfer.carry file out disk = (true, disk') ∧ disk'.programAt out = .ok program := by
  have valid := Disk.valid_of_programAt held
  have loaded := Program.load_run file disk
  rw [held] at loaded
  cases transfer with
  | resaved =>
      obtain ⟨disk', written⟩ := writable (program.encodeFor out)
      refine ⟨_, disk', written, ?_, Disk.programAt_of_write valid written⟩
      simp only [carry, bind, StateT.bind, loaded, Program.save_run written]
      rfl
  | converted setting arguments =>
      obtain ⟨verbose, requested⟩ := leads
      obtain ⟨disk', written⟩ := writable (program.encodeFor out)
      refine ⟨_, disk', written, ?_, Disk.programAt_of_write valid written⟩
      obtain ⟨events, ran⟩ := Command.run_convert held written default
      simp only [carry, bind, StateT.bind, CommandLine.run_of_request requested ran]
      rfl
  | printed setting arguments =>
      obtain ⟨isJson, verbose, requested⟩ := leads
      obtain ⟨events, ran⟩ := Command.run_json held default
      obtain ⟨disk', written⟩ := writable (utf8 (program.indentedJson ++ ['\n']))
      refine ⟨_, disk', written, ?_, ?_⟩
      · simp only [carry, bind, StateT.bind, CommandLine.run_of_request requested ran]
        have shown : (CommandLine.outcome (CommandLine.filter setting verbose)
            (.ok (), ⟨(default : Transcript).output ++ (program.indentedJson ++ ['\n']),
              events⟩)).output = program.indentedJson ++ ['\n'] := rfl
        rw [shown, Files.write_run written]
        rfl
      · have blank : Json.Blank ['\n'.toUInt8] := List.all_eq_true.mp rfl
        have read := Program.ofJson_indentedJson valid blank
        have newline : utf8 ['\n'] = ['\n'.toUInt8] := rfl
        rw [Disk.programAt_of_read (Disk.read_of_write written), Program.decodeFor, if_pos isJson,
          Text.utf8_append, newline, read]
        rfl

theorem relay_of_connected {legs : List (Path × Transfer)} (connected : Connected file legs)
    (held : disk.programAt file = .ok program) (writable : ∀ leg ∈ legs, disk.Writable leg.1) :
    ∃ left, relay file legs disk = (some (.ok program), left) := by
  induction legs generalizing file disk with
  | nil =>
      have loaded := Program.load_run file disk
      rw [held] at loaded
      refine ⟨disk, ?_⟩
      simp only [relay, bind, StateT.bind, loaded]
      rfl
  | cons leg legs ih =>
      obtain ⟨out, transfer⟩ := leg
      obtain ⟨leads, connected⟩ := connected
      obtain ⟨bytes, disk', written, carried, arrived⟩ :=
        carry_of_leads leads held (writable _ List.mem_cons_self)
      obtain ⟨left, relayed⟩ := ih connected arrived fun leg member =>
        (writable leg (List.mem_cons_of_mem _ member)).of_write written
      refine ⟨left, ?_⟩
      simp only [relay, bind, StateT.bind, carried]
      exact relayed

end Transfer

namespace Program

theorem lossless_interchange :
    (∀ program : Program, program.Valid →
      ofJson (utf8 program.json) = .ok program ∧
        ofJson (utf8 program.indentedJson) = .ok program) ∧
    (∀ (program : Program) (disk : Disk) (file : Path) (legs : List (Path × Transfer)),
      program.Valid → disk.Writable file → (∀ leg ∈ legs, disk.Writable leg.1) →
      Transfer.Connected file legs →
        ∃ saved left, (program.save file : StateM Disk _) disk = (.ok (), saved) ∧
          Transfer.relay file legs saved = (some (.ok program), left)) ∧
    ∀ segment : Segment, Segment.ofJson (utf8 segment.json) = .ok segment := by
  refine ⟨?_, ?_, Segment.ofJson_json⟩
  · intro program valid
    refine ⟨ofJson_json valid, ?_⟩
    have read := ofJson_indentedJson valid (show Json.Blank [] from nofun)
    rwa [List.append_nil] at read
  · intro program disk file legs valid writable others connected
    obtain ⟨saved, written⟩ := writable (program.encodeFor file)
    obtain ⟨left, relayed⟩ := Transfer.relay_of_connected connected
      (Disk.programAt_of_write valid written) fun leg member => (others leg member).of_write written
    exact ⟨saved, left, save_run written, relayed⟩

def sampleLegs : List (Path × Transfer) :=
  [("b.fx".toList,
      .converted none ["from-json".toList, "a.json".toList, "b.fx".toList]),
    ("c.json".toList, .printed none ["-v".toList, "to-json".toList, "b.fx".toList]),
    ("d.fx".toList, .resaved)]

theorem lossless_interchange_sampleLegs :
    base.Valid ∧ ofJson (utf8 base.indentedJson) = .ok base ∧
      (∃ saved left,
        (base.save "a.json".toList : StateM Disk _) (.empty [['w']]) = (.ok (), saved) ∧
        Transfer.relay "a.json".toList sampleLegs saved = (some (.ok base), left)) ∧
      Segment.ofJson (utf8 (default : Segment).json) = .ok default := by
  have connected : Transfer.Connected "a.json".toList sampleLegs :=
    ⟨⟨false, rfl⟩, ⟨by decide, true, rfl⟩, trivial, trivial⟩
  have all : ∀ leg ∈ sampleLegs, (Disk.empty [['w']]).Writable leg.1 := by
    intro leg member
    simp only [sampleLegs, List.mem_cons, List.not_mem_nil, or_false] at member
    rcases member with rfl | rfl | rfl <;>
      exact Disk.Site.writable ⟨by decide, rfl, by decide⟩
  have first : (Disk.empty [['w']]).Writable "a.json".toList :=
    Disk.Site.writable ⟨by decide, rfl, by decide⟩
  obtain ⟨texts, chains, segments⟩ := lossless_interchange
  exact ⟨valid_base, (texts base valid_base).2, chains base _ _ _ valid_base first all connected,
    segments default⟩

end Program

end SoundEffect
