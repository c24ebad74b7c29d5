import SoundEffect.Proofs.CommandLine.Operations
import SoundEffect.Proofs.Disk.Writing

namespace SoundEffect

def Given.Mentions (given : Given) (name : String) : Prop :=
  given.has name = true ∨ (given.value? name).isSome = true

namespace Operation

variable {given : Given} {operation other : Operation}

def option : Operation → String
  | insert => "insert"
  | remove => "remove"
  | adjust _ _ => "delta"
  | set _ _ => "set"
  | enable _ | disable _ => "waveform"
  | gate _ => "gate"

inductive AskedBy (given : Given) : Operation → Prop
  | insert (mentioned : given.Mentions "insert") : AskedBy given .insert
  | remove (mentioned : given.Mentions "remove") : AskedBy given .remove
  | adjust {field : Field} {delta : Int32}
      (named : (given.value? "field").bind Command.field? = some field)
      (amount : (given.value? "delta").bind Command.int32? = some delta) :
      AskedBy given (.adjust field delta)
  | set {field : Field} {value : Int32}
      (named : (given.value? "field").bind Command.field? = some field)
      (amount : (given.value? "set").bind Command.int32? = some value) :
      AskedBy given (.set field value)
  | enable {waveform : Waveform}
      (named : (given.value? "waveform").bind Command.waveform? = some waveform)
      (kept : given.has "off" = false) : AskedBy given (.enable waveform)
  | disable {waveform : Waveform}
      (named : (given.value? "waveform").bind Command.waveform? = some waveform)
      (off : given.has "off" = true) : AskedBy given (.disable waveform)
  | gate {on : Bool} (switched : (given.value? "gate").bind Command.switch? = some on) :
      AskedBy given (.gate on)

theorem AskedBy.mentions (asked : operation.AskedBy given) : given.Mentions operation.option := by
  have of_value {α : Type} {name : String} {read : List Char → Option α} {value : α}
      (found : (given.value? name).bind read = some value) : given.Mentions name := by
    obtain ⟨text, here, -⟩ := Option.bind_eq_some_iff.mp found
    exact .inr (here ▸ rfl)
  cases asked with
  | insert mentioned | remove mentioned => exact mentioned
  | adjust _ amount | set _ amount => exact of_value amount
  | enable named | disable named => exact of_value named
  | gate switched => exact of_value switched

theorem AskedBy.unique (asked : operation.AskedBy given) (asked' : other.AskedBy given)
    (same : other.option = operation.option) : other = operation := by
  cases asked <;> cases asked' <;> simp_all [option]

theorem eq_of_only (only : (Command.changeNames.filter fun name =>
      given.has name || (given.value? name).isSome) = [operation.option])
    (asked : operation.AskedBy given) (asked' : other.AskedBy given) : other = operation := by
  apply asked.unique asked'
  have offered : other.option ∈ Command.changeNames := by
    cases other <;> simp [option, Command.changeNames]
  have member : other.option ∈ Command.changeNames.filter fun name =>
      given.has name || (given.value? name).isSome :=
    List.mem_filter.mpr ⟨offered, Bool.or_eq_true_iff.mpr asked'.mentions⟩
  rwa [only, List.mem_singleton] at member

theorem AskedBy.alone (asked : operation.AskedBy given)
    (only : (Command.changeNames.filter fun name =>
      given.has name || (given.value? name).isSome) = [operation.option]) :
    ∃ chosen : Operation, operation.change = chosen.change ∧ chosen.AskedBy given ∧
      ∀ other : Operation, other.AskedBy given → other = chosen :=
  ⟨operation, rfl, asked, fun _ => eq_of_only only asked⟩

theorem mentions_of_only {name : String} (only : (Command.changeNames.filter fun name =>
      given.has name || (given.value? name).isSome) = [name]) : given.Mentions name := by
  have member : name ∈ Command.changeNames.filter fun name =>
      given.has name || (given.value? name).isSome := only ▸ List.mem_singleton_self name
  exact Bool.or_eq_true_iff.mp (List.mem_filter.mp member).2

end Operation

namespace Command

open Operation

variable {given : Given} {arguments : List (List Char)} {request : Request} {asked : Change}

theorem required_eq_ok_iff {α : Type} {found : Option α} {value : α} :
    required found = .ok value ↔ found = some value := by
  cases found <;> simp [required]

theorem exists_operation_of_change (h : change given = .ok asked) :
    ∃ operation : Operation, asked = operation.change ∧ operation.AskedBy given ∧
      ∀ other : Operation, other.AskedBy given → other = operation := by
  rw [change] at h
  split at h
  · cases h
  · split at h
    · rename_i only
      obtain rfl := Except.ok.inj h
      exact (AskedBy.insert (mentions_of_only only)).alone only
    · rename_i only
      obtain rfl := Except.ok.inj h
      exact (AskedBy.remove (mentions_of_only only)).alone only
    · rename_i only
      obtain ⟨delta, amount, h⟩ := bind_eq_ok_iff.mp h
      obtain ⟨field, named, h⟩ := bind_eq_ok_iff.mp h
      obtain rfl := Except.ok.inj h
      have by_delta :=
        AskedBy.adjust (required_eq_ok_iff.mp named) (required_eq_ok_iff.mp amount)
      exact by_delta.alone only
    · rename_i only
      obtain ⟨value, amount, h⟩ := bind_eq_ok_iff.mp h
      obtain ⟨field, named, h⟩ := bind_eq_ok_iff.mp h
      obtain rfl := Except.ok.inj h
      have by_value := AskedBy.set (required_eq_ok_iff.mp named) (required_eq_ok_iff.mp amount)
      exact by_value.alone only
    · rename_i only
      obtain ⟨waveform, named, h⟩ := bind_eq_ok_iff.mp h
      obtain rfl := Except.ok.inj h
      cases off : given.has "off" with
      | true => exact (AskedBy.disable (required_eq_ok_iff.mp named) off).alone only
      | false => exact (AskedBy.enable (required_eq_ok_iff.mp named) off).alone only
    · rename_i only
      obtain ⟨on, switched, h⟩ := bind_eq_ok_iff.mp h
      obtain rfl := Except.ok.inj h
      exact (AskedBy.gate (required_eq_ok_iff.mp switched)).alone only
    · cases h

structure Calls (arguments : List (List Char)) (form : Form) (own : Given) : Prop where
  member : form ∈ forms
  split : ∃ front rest, arguments = front ++ form.name.toList :: rest ∧
    (∀ argument ∈ front, argument.head? = some '-') ∧
    form.signature.scan (.empty, none) rest = .ok own

theorem exists_calls_of_named {name : List Char} {rest : List (List Char)}
    (h : named given name rest = .ok request) :
    ∃ form own, Calls (name :: rest) form own ∧ form.command own = .ok request.command := by
  rw [named] at h
  split at h
  · rename_i form found
    obtain ⟨own, scanned, h⟩ := bind_eq_ok_iff.mp h
    obtain ⟨command, commanded, h⟩ := bind_eq_ok_iff.mp h
    obtain rfl := Except.ok.inj h
    rw [form?] at found
    have called : form.name.toList = name := by simpa using List.find?_some found
    exact ⟨form, own, ⟨List.mem_of_find?_eq_some found, [], rest, by rw [called]; rfl, nofun,
      scanned⟩, commanded⟩
  · cases h

theorem Calls.behind {form : Form} {own : Given} {cs : List Char}
    (calls : Calls arguments form own) : Calls (('-' :: cs) :: arguments) form own := by
  obtain ⟨front, rest, rfl, options, scanned⟩ := calls.split
  refine ⟨calls.member, ('-' :: cs) :: front, rest, rfl, ?_, scanned⟩
  intro argument member
  rcases List.mem_cons.mp member with rfl | member
  · rfl
  · exact options argument member

theorem exists_calls_of_requestAfter (h : requestAfter given arguments = .ok request) :
    ∃ form own, Calls arguments form own ∧ form.command own = .ok request.command := by
  induction arguments generalizing given with
  | nil => cases h
  | cons argument rest ih =>
      unfold requestAfter at h
      split at h
      · rename_i impossible
        cases impossible
      · rename_i c cs after same
        obtain ⟨rfl, rfl⟩ := List.cons.inj same
        obtain ⟨step, -, h⟩ := bind_eq_ok_iff.mp h
        obtain ⟨form, own, calls, commanded⟩ := ih h
        exact ⟨form, own, calls.behind, commanded⟩
      · rename_i same
        obtain ⟨rfl, rfl⟩ := List.cons.inj same
        exact exists_calls_of_named h

end Command

def Operation.Wanted (operation : Operation) (arguments : List (List Char)) (file : Path)
    (index : Nat) : Prop :=
  ∃ front rest given, arguments = front ++ "edit".toList :: rest ∧
    (∀ argument ∈ front, argument.head? = some '-') ∧
    (Command.signature 1 Command.editOptions).scan (.empty, none) rest = .ok given ∧
    given.operands[0]? = some file ∧
    (given.value? "segment").bind Command.size? = some index ∧
    operation.AskedBy given ∧ ∀ other : Operation, other.AskedBy given → other = operation

theorem Command.exists_operation_of_request {arguments : List (List Char)} {file : Path}
    {index : Nat} {asked : Change} {verbose : Bool}
    (h : Command.request arguments = .ok ⟨verbose, .edit file index asked⟩) :
    ∃ operation : Operation, asked = operation.change ∧ operation.Wanted arguments file index := by
  obtain ⟨form, own, ⟨member, front, rest, split, options, scanned⟩, commanded⟩ :=
    exists_calls_of_requestAfter h
  simp only [forms, List.mem_cons, List.not_mem_nil, or_false] at member
  rcases member with rfl | rfl | rfl | rfl | rfl | rfl | rfl | rfl
  case inr.inr.inr.inr.inr.inr.inr =>
    obtain ⟨wanted, segment, commanded⟩ := bind_eq_ok_iff.mp commanded
    obtain ⟨path, place, commanded⟩ := bind_eq_ok_iff.mp commanded
    obtain ⟨other, changed, commanded⟩ := bind_eq_ok_iff.mp commanded
    cases Except.ok.inj commanded
    obtain ⟨operation, same, by_option, alone⟩ := exists_operation_of_change changed
    exact ⟨operation, same, front, rest, own, split, options, scanned,
      required_eq_ok_iff.mp place, required_eq_ok_iff.mp segment, by_option, alone⟩
  all_goals simp [bind_eq_ok_iff, pure, Except.pure] at commanded

end SoundEffect
