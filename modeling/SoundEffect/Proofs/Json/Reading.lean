import SoundEffect.Json.Value
import SoundEffect.Json.Written
import SoundEffect.Proofs.Text.Ascii

namespace SoundEffect.Json

open Text (utf8 utf8_append)

variable {α β : Type} {input rest : List UInt8}

theorem bind_of_ok {reader : Reader α} {next : α → Reader β} {value : α}
    (read : reader input = .ok (value, rest)) : (reader >>= next) input = next value rest := by
  simp only [bind, StateT.bind, Except.bind, read]

def Blank (gap : List UInt8) : Prop :=
  ∀ byte ∈ gap, isBlank byte = true

theorem skipBlanks_append {gap : List UInt8} (blank : Blank gap) {byte : UInt8}
    (solid : isBlank byte = false) (rest : List UInt8) :
    skipBlanks (gap ++ byte :: rest) = .ok ((), byte :: rest) := by
  have skipped : (gap ++ byte :: rest).dropWhile isBlank = byte :: rest := by
    rw [List.dropWhile_append_of_pos blank, List.dropWhile_cons, if_neg (by simp [solid])]
  rw [skipBlanks, skipped]

theorem ahead_append {gap : List UInt8} (blank : Blank gap) {byte : UInt8}
    (solid : isBlank byte = false) (rest : List UInt8) :
    ahead (gap ++ byte :: rest) = .ok (byte, byte :: rest) := by
  rw [ahead, bind_of_ok (skipBlanks_append blank solid rest)]
  rfl

theorem token_append {gap : List UInt8} (blank : Blank gap) {c : Char}
    (solid : isBlank c.toUInt8 = false) (rest : List UInt8) :
    token c (gap ++ c.toUInt8 :: rest) = .ok ((), rest) := by
  have skipped : skipBlanks (c.toUInt8 :: rest) = .ok ((), c.toUInt8 :: rest) :=
    skipBlanks_append (show Blank [] from nofun) solid rest
  have cleared : token c (gap ++ c.toUInt8 :: rest) = token c (c.toUInt8 :: rest) := by
    rw [token, bind_of_ok (skipBlanks_append blank solid rest), bind_of_ok skipped]
  rw [cleared]
  exact token_cons solid rest

def Stops (rest : List UInt8) : Prop :=
  ∀ byte ∈ rest.head?,
    isDigit byte = false ∧ byte ≠ '.'.toUInt8 ∧ byte ≠ 'e'.toUInt8 ∧ byte ≠ 'E'.toUInt8

theorem stops_cons {byte : UInt8} (digit : isDigit byte = false) (point : byte ≠ '.'.toUInt8)
    (small : byte ≠ 'e'.toUInt8) (capital : byte ≠ 'E'.toUInt8) (rest : List UInt8) :
    Stops (byte :: rest) := by
  rintro _ ⟨⟩
  exact ⟨digit, point, small, capital⟩

theorem Blank.stops {gap : List UInt8} (blank : Blank gap) (stops : Stops rest) :
    Stops (gap ++ rest) := by
  cases gap with
  | nil => exact stops
  | cons byte gap =>
      have first := blank byte (by simp)
      simp only [isBlank, Bool.or_eq_true, decide_eq_true_eq] at first
      rcases first with ((rfl | rfl) | rfl) | rfl <;>
        exact stops_cons (by decide) (by decide) (by decide) (by decide) _

def Reads (reader : Reader α) (written : List Char) (value : α) : Prop :=
  ∀ gap rest, Blank gap → Stops rest → reader (gap ++ (utf8 written ++ rest)) = .ok (value, rest)

theorem Reads.map {reader : Reader α} {written : List Char} {value : α}
    (reads : Reads reader written value) (f : α → β) :
    Reads (do return f (← reader)) written (f value) := by
  intro gap rest blank stops
  rw [bind_of_ok (reads gap rest blank stops)]
  rfl

theorem Reads.decode {reader : Reader α} {written : List Char} {value : α}
    (reads : Reads reader written value) {tail : List UInt8} (blank : Blank tail) :
    decode reader (utf8 written ++ tail) = .ok value := by
  have ended : tail.dropWhile isBlank = [] := by
    have := @List.dropWhile_append_of_pos _ isBlank tail [] blank
    simpa using this
  have stops : Stops tail := by
    have := blank.stops (show Stops [] from nofun)
    rwa [List.append_nil] at this
  have read := reads [] tail nofun stops
  rw [List.nil_append] at read
  rw [Json.decode, read]
  simp [ended]

def isPlain (c : Char) : Bool :=
  0x20 ≤ c.toNat && c.toNat < 128 && c ≠ '\x22' && c ≠ '\\'

theorem isPlain_iff {c : Char} :
    isPlain c = true ↔ 0x20 ≤ c.toNat ∧ c.toNat < 128 ∧ c ≠ '\x22' ∧ c ≠ '\\' := by
  simp [isPlain, and_assoc]

def Plain (text : List Char) : Prop :=
  ∀ c ∈ text, isPlain c = true

theorem Plain.utf8_eq {text : List Char} (plain : Plain text) :
    utf8 text = text.map Char.toUInt8 :=
  Text.utf8_of_ascii fun c member => (isPlain_iff.mp (plain c member)).2.1

theorem Plain.flatMap_escaped {text : List Char} (plain : Plain text) :
    text.flatMap escaped = text := by
  induction text with
  | nil => rfl
  | cons c rest ih =>
      obtain ⟨printed, -, quote, backslash⟩ := isPlain_iff.mp (plain c (by simp))
      have steering : ∀ d : Char, d.toNat < 0x20 → c ≠ d := by
        rintro _ low rfl
        omega
      have itself : escaped c = [c] := by
        simp only [escaped, if_neg quote, if_neg backslash, if_neg (steering '\x08' (by decide)),
          if_neg (steering '\x0c' (by decide)), if_neg (steering '\n' (by decide)),
          if_neg (steering '\r' (by decide)), if_neg (steering '\t' (by decide)),
          if_neg (Nat.not_lt.mpr printed)]
      rw [List.flatMap_cons, itself, ih fun d member => plain d (by simp [member])]
      rfl

theorem spellRound_of_plain {c : Char} (plain : isPlain c = true) (escape : Reader (List UInt8))
    (spelled rest : List UInt8) :
    spellRound escape spelled (c.toUInt8 :: rest) = .ok (.again (c.toUInt8 :: spelled), rest) := by
  obtain ⟨printed, ascii, quote, backslash⟩ := isPlain_iff.mp plain
  have value := Text.toNat_toUInt8_of_ascii ascii
  have differs : ∀ d : Char, d.toNat < 128 → c ≠ d → c.toUInt8 ≠ d.toUInt8 := by
    intro d small different same
    apply different
    have := congrArg UInt8.toNat same
    rw [value, Text.toNat_toUInt8_of_ascii small] at this
    exact Char.toNat_inj.mp this
  have not_quote : c.toUInt8 ≠ 0x22 := differs '\x22' (by decide) quote
  have not_low : ¬ c.toUInt8 < 0x20 := by
    rw [UInt8.lt_iff_toNat_lt, value]
    exact Nat.not_lt.mpr printed
  rw [spellRound, bind_of_ok (show next (c.toUInt8 :: rest) = .ok (c.toUInt8, rest) from rfl),
    if_neg not_quote, if_neg (differs '\\' (by decide) backslash), if_neg not_low]
  rfl

theorem rounds_spellRound {text : List Char} (plain : Plain text) (escape : Reader (List UInt8))
    (spelled rest : List UInt8) {bound : List UInt8} (enough : text.length < bound.length) :
    rounds (spellRound escape) bound spelled (text.map Char.toUInt8 ++ 0x22 :: rest) =
      .ok (spelled.reverse ++ text.map Char.toUInt8, rest) := by
  induction text generalizing bound spelled with
  | nil =>
      obtain ⟨byte, bound, rfl⟩ := List.exists_cons_of_length_pos enough
      have closed : spellRound escape spelled (0x22 :: rest) = .ok (.done spelled.reverse, rest) :=
        rfl
      rw [List.map_nil, List.append_nil]
      exact rounds_done closed byte bound
  | cons c text ih =>
      obtain ⟨byte, bound, rfl⟩ := List.exists_cons_of_length_pos (Nat.zero_lt_of_lt enough)
      have first := plain c List.mem_cons_self
      have others : Plain text := fun d member => plain d (by simp [member])
      rw [List.map_cons, List.cons_append,
        rounds_again (spellRound_of_plain first escape spelled _),
        ih others _ (Nat.lt_of_succ_lt_succ enough), List.reverse_cons, List.append_assoc]
      rfl

theorem reads_text {name : List Char} (plain : Plain name) :
    Reads text (writtenText name) (String.ofList name) := by
  intro gap rest blank _
  have bytes : utf8 (writtenText name) ++ rest =
      '\x22'.toUInt8 :: (name.map Char.toUInt8 ++ 0x22 :: rest) := by
    rw [writtenText, plain.flatMap_escaped, utf8_append, utf8_append, plain.utf8_eq,
      List.append_assoc, List.append_assoc]
    rfl
  have spelled : loop (spellRound escape) [] (name.map Char.toUInt8 ++ 0x22 :: rest) =
      .ok (name.map Char.toUInt8, rest) := by
    have enough : name.length < (0 :: (name.map Char.toUInt8 ++ 0x22 :: rest)).length := by
      simp only [List.length_cons, List.length_append, List.length_map]
      omega
    exact rounds_spellRound plain escape [] rest enough
  rw [bytes, text, bind_of_ok (token_append blank (by decide) _), bind_of_ok spelled,
    ← plain.utf8_eq, Text.ofUtf8?_utf8]
  rfl

theorem reads_textOf {name : List Char} (plain : Plain name) (expected : String) :
    Reads (textOf expected) (writtenText name) (String.ofList name) := by
  intro gap rest blank stops
  have seen : ahead (gap ++ (utf8 (writtenText name) ++ rest)) =
      .ok (0x22, utf8 (writtenText name) ++ rest) := by
    rw [writtenText, utf8_append, utf8_append, List.append_assoc, List.append_assoc]
    exact ahead_append blank (by decide) _
  rw [textOf, bind_of_ok seen, if_pos rfl]
  exact reads_text plain [] rest nofun stops

end SoundEffect.Json
