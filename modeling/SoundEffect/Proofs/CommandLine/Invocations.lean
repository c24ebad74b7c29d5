import Mathlib.Data.List.TakeWhile
import SoundEffect.Proofs.CommandLine.Requests
import SoundEffect.Proofs.Text.Numerals

namespace SoundEffect

namespace Command

def optionText (name : String) : List Char :=
  '-' :: '-' :: name.toList

def settingText (name : String) (value : List Char) : List Char :=
  '-' :: '-' :: (name.toList ++ '=' :: value)

end Command

namespace Operation

open Command (optionText settingText)

def options : Operation → List (List Char)
  | insert => [optionText "insert"]
  | remove => [optionText "remove"]
  | adjust field delta =>
      [settingText "field" field.name.toList, settingText "delta" (Text.integer delta.toInt)]
  | set field value =>
      [settingText "field" field.name.toList, settingText "set" (Text.integer value.toInt)]
  | enable waveform => [settingText "waveform" waveform.name.toList, optionText "on"]
  | disable waveform => [settingText "waveform" waveform.name.toList, optionText "off"]
  | gate on => [settingText "gate" (if on then "on".toList else "off".toList)]

def arguments (operation : Operation) (file : Path) (index : Nat) : List (List Char) :=
  "edit".toList :: file :: settingText "segment" (Text.decimal index) :: operation.options

end Operation

namespace Signature

open Command (optionText settingText)

variable {signature : Signature} {given given' : Given} {option : OptionShape}
  {rest : List (List Char)} {text value : List Char} {name : String} {accepts : List Char → Bool}

theorem decide_ne_of_not_mem {stop : Char} (absent : stop ∉ text) :
    ∀ c ∈ text, decide (c ≠ stop) = true := by
  rintro c member
  exact decide_eq_true fun same => absent (same ▸ member)

theorem scan_operand (plain : text.head? ≠ some '-') (nonempty : text ≠ [])
    (room : given.operands.length < signature.operands) :
    signature.scan (given, none) (text :: rest) =
      signature.scan ({ given with operands := given.operands ++ [text] }, none) rest := by
  have added : signature.addOperand given text =
      .ok { given with operands := given.operands ++ [text] } := by
    simp [addOperand, nonempty, room]
  rw [scan, added]
  · rfl
  · rintro rfl
    exact plain rfl
  · rintro c cs rfl
    exact plain rfl

theorem scan_long (read : signature.long given text = .ok (given', none)) (nonempty : text ≠ []) :
    signature.scan (given, none) (('-' :: '-' :: text) :: rest) =
      signature.scan (given', none) rest := by
  have stepped : signature.step given '-' text = .ok (given', none) := read
  rw [scan, stepped]
  · rfl
  · simpa using nonempty

theorem scan_option (found : signature.named? name.toList = some option)
    (kind : option.kind = .flag) (fresh : option.name ∉ given.flags)
    (plain : '=' ∉ name.toList) (nonempty : name.toList ≠ []) :
    signature.scan (given, none) (optionText name :: rest) =
      signature.scan ({ given with flags := option.name :: given.flags }, none) rest := by
  apply scan_long _ nonempty
  have apart := decide_ne_of_not_mem plain
  have whole : name.toList.takeWhile (· ≠ '=') = name.toList :=
    List.takeWhile_eq_self_iff.mpr apart
  have nothing : name.toList.dropWhile (· ≠ '=') = [] := List.dropWhile_eq_nil_iff.mpr apart
  simp only [long, whole, nothing, found, lone, kind, Given.addFlag]
  simp [fresh, Except.map]

theorem scan_setting (found : signature.named? name.toList = some option)
    (kind : option.kind = .value accepts ∨ option.kind = .integer accepts)
    (accepted : accepts value = true) (fresh : given.values.lookup option.name = none)
    (plain : '=' ∉ name.toList) :
    signature.scan (given, none) (settingText name value :: rest) =
      signature.scan ({ given with values := (option.name, value) :: given.values }, none) rest := by
  apply scan_long _ (by simp)
  have apart := decide_ne_of_not_mem plain
  have key : (name.toList ++ '=' :: value).takeWhile (· ≠ '=') = name.toList := by
    rw [List.takeWhile_append_of_pos apart]
    simp
  have tail : (name.toList ++ '=' :: value).dropWhile (· ≠ '=') = '=' :: value := by
    rw [List.dropWhile_append_of_pos apart]
    simp
  have added : given.addValue option.name accepts value =
      .ok { given with values := (option.name, value) :: given.values } := by
    simp [Given.addValue, accepted, fresh]
  simp only [long, key, tail, found, attached]
  rcases kind with kind | kind <;> simp [kind, added, Except.map]

end Signature

namespace Command

variable {given : Given} {rest : List (List Char)} {file : Path} {index : Nat} {asked : Change}

theorem size?_decimal (small : index < 2 ^ 64) : size? (Text.decimal index) = some index := by
  rw [size?, Text.unsigned?_decimal]
  exact Option.filter_eq_some_iff.mpr ⟨rfl, decide_eq_true (by omega)⟩

theorem int32?_integer (value : Int32) : int32? (Text.integer value.toInt) = some value := by
  have low := value.le_toInt
  have high := value.toInt_lt
  have fits : (-2147483648 ≤ value.toInt ∧ value.toInt ≤ 2147483647) := by omega
  rw [int32?, Text.signed?_integer, Option.filter_some, if_pos (decide_eq_true fits),
    Option.map_some, Int32.ofInt_toInt]

theorem field?_name (field : Field) : field? field.name.toList = some field := by
  rw [field?, String.ofList_toList]
  cases field <;> decide +kernel

theorem waveform?_name (waveform : Waveform) :
    waveform? waveform.name.toList = some waveform := by
  rw [waveform?, String.ofList_toList]
  cases waveform <;> decide +kernel

theorem switch?_name (on : Bool) :
    switch? (if on then "on".toList else "off".toList) = some on := by
  cases on <;> decide +kernel

theorem request_of_scan (scanned : (signature 1 editOptions).scan (.empty, none) rest = .ok given)
    (quiet : given.has "verbose" = false)
    (segment : (given.value? "segment").bind size? = some index)
    (place : given.operands[0]? = some file) (changed : change given = .ok asked) :
    request ("edit".toList :: rest) = .ok ⟨false, .edit file index asked⟩ := by
  have found : form? "edit".toList = some ⟨"edit", signature 1 editOptions, fun given => do
      let index ← required ((given.value? "segment").bind size?)
      return .edit (← operand given 0) index (← change given)⟩ := rfl
  have opened : request ("edit".toList :: rest) = named .empty "edit".toList rest := rfl
  have own : (do
      let index ← required ((given.value? "segment").bind size?)
      return Command.edit (← operand given 0) index (← change given) : Except Refusal Command) =
        .ok (.edit file index asked) := by
    rw [operand, segment, place, changed]
    rfl
  rw [opened, named, found]
  refine bind_eq_ok_iff.mpr ⟨given, scanned, bind_eq_ok_iff.mpr ⟨_, own, ?_⟩⟩
  rw [quiet]
  rfl

end Command

namespace Operation

open Command (signature editOptions)

variable {file : Path} {index : Nat}

def values : Operation → List (String × List Char)
  | insert | remove => []
  | adjust field delta => [("delta", Text.integer delta.toInt), ("field", field.name.toList)]
  | set field value => [("set", Text.integer value.toInt), ("field", field.name.toList)]
  | enable waveform | disable waveform => [("waveform", waveform.name.toList)]
  | gate on => [("gate", if on then "on".toList else "off".toList)]

def flags : Operation → List String
  | insert => ["insert"]
  | remove => ["remove"]
  | enable _ => ["on"]
  | disable _ => ["off"]
  | adjust _ _ | set _ _ | gate _ => []

theorem scan_options (operation : Operation) (place : List Char) :
    (signature 1 editOptions).scan (⟨[], [("segment", place)], [file]⟩, none) operation.options =
      .ok ⟨operation.flags, operation.values ++ [("segment", place)], [file]⟩ := by
  cases operation with
  | insert | remove =>
      rw [options, Signature.scan_option rfl rfl (by simp) (by decide) (by decide)]
      rfl
  | adjust field amount | set field amount =>
      rw [options, Signature.scan_setting rfl (.inl rfl) (by simp [Command.field?_name]) rfl
          (by decide),
        Signature.scan_setting rfl (.inr rfl) (by simp [Command.int32?_integer]) rfl (by decide)]
      rfl
  | enable waveform | disable waveform =>
      rw [options, Signature.scan_setting rfl (.inl rfl) (by simp [Command.waveform?_name]) rfl
          (by decide),
        Signature.scan_option rfl rfl (by simp) (by decide) (by decide)]
      rfl
  | gate on =>
      rw [options, Signature.scan_setting rfl (.inl rfl) (by rw [Command.switch?_name]; rfl) rfl
        (by decide)]
      rfl

theorem change_of_options (operation : Operation) (place : List Char) :
    Command.change ⟨operation.flags, operation.values ++ [("segment", place)], [file]⟩ =
      .ok operation.change := by
  have named (field : Field) := Command.required_eq_ok_iff.mpr (Command.field?_name field)
  have amount (value : Int32) := Command.required_eq_ok_iff.mpr (Command.int32?_integer value)
  cases operation with
  | insert | remove => rfl
  | adjust field value | set field value =>
      exact bind_eq_ok_iff.mpr ⟨value, amount value, bind_eq_ok_iff.mpr ⟨field, named field, rfl⟩⟩
  | enable waveform | disable waveform =>
      have shaped := Command.required_eq_ok_iff.mpr (Command.waveform?_name waveform)
      exact bind_eq_ok_iff.mpr ⟨waveform, shaped, rfl⟩
  | gate on =>
      have switched := Command.required_eq_ok_iff.mpr (Command.switch?_name on)
      exact bind_eq_ok_iff.mpr ⟨on, switched, rfl⟩

theorem request_arguments (operation : Operation) (plain : file.head? ≠ some '-')
    (nonempty : file ≠ []) (small : index < 2 ^ 64) :
    Command.request (operation.arguments file index) =
      .ok ⟨false, .edit file index operation.change⟩ := by
  have read := Command.size?_decimal small
  have scanned : (signature 1 editOptions).scan (.empty, none)
      (file :: Command.settingText "segment" (Text.decimal index) :: operation.options) =
        .ok ⟨operation.flags, operation.values ++ [("segment", Text.decimal index)], [file]⟩ := by
    rw [Signature.scan_operand plain nonempty (by decide), Signature.scan_setting rfl (.inl rfl)
      (by simp [read]) rfl (by decide)]
    exact operation.scan_options (Text.decimal index)
  apply Command.request_of_scan scanned
  · cases operation <;> rfl
  · cases operation <;> exact read
  · rfl
  · exact operation.change_of_options (Text.decimal index)

end Operation

end SoundEffect
