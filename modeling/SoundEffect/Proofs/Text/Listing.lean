import Mathlib.Data.List.Basic
import SoundEffect.Proofs.Text.Numerals
import SoundEffect.Proofs.Text.Parts

namespace SoundEffect.Text

def lines? (text : List Char) : Option (List (List Char)) :=
  let parts := splitOn '\n' text
  if parts.getLast? = some [] then some parts.dropLast else none

def ended (line : List Char) : List Char :=
  line ++ ['\n']

theorem splitOn_ended {lines : List (List Char)} (inside : ∀ line ∈ lines, '\n' ∉ line) :
    splitOn '\n' (lines.flatMap ended) = lines ++ [[]] := by
  induction lines with
  | nil => rfl
  | cons line lines ih =>
      have others := ih fun other member => inside other (List.mem_cons_of_mem line member)
      rw [List.flatMap_cons, ended, List.append_assoc, List.singleton_append, splitOn_append,
        splitOn_of_not_mem (inside line List.mem_cons_self), others]
      rfl

theorem lines?_ended {lines : List (List Char)} (inside : ∀ line ∈ lines, '\n' ∉ line) :
    lines? (lines.flatMap ended) = some lines := by
  simp only [lines?, splitOn_ended inside, List.getLast?_concat, List.dropLast_concat, if_true]

theorem splitOn_append_intercalate {separator : Char} {gap : List Char} (apart : separator ∉ gap)
    {lead : List Char} (before : separator ∉ lead) {first : List Char} {others : List (List Char)}
    (inside : ∀ cell ∈ first :: others, separator ∉ cell) :
    splitOn separator (lead ++ List.intercalate (separator :: gap) (first :: others)) =
      (lead ++ first) :: others.map (gap ++ ·) := by
  have here : separator ∉ lead ++ first := by
    rw [List.mem_append, not_or]
    exact ⟨before, inside first List.mem_cons_self⟩
  induction others generalizing lead first with
  | nil => rw [List.intercalate_singleton, splitOn_of_not_mem here, List.map_nil]
  | cons second others ih =>
      have later : ∀ cell ∈ second :: others, separator ∉ cell :=
        fun cell member => inside cell (List.mem_cons_of_mem first member)
      have next : separator ∉ gap ++ second := by
        rw [List.mem_append, not_or]
        exact ⟨apart, later second List.mem_cons_self⟩
      rw [List.intercalate_cons_cons, List.append_assoc, ← List.append_assoc, List.cons_append,
        splitOn_append, splitOn_of_not_mem here, ih apart later next]
      rfl

theorem splitOn_intercalate {separator : Char} {gap : List Char} (apart : separator ∉ gap)
    {first : List Char} {others : List (List Char)}
    (inside : ∀ cell ∈ first :: others, separator ∉ cell) :
    splitOn separator (List.intercalate (separator :: gap) (first :: others)) =
      first :: others.map (gap ++ ·) :=
  splitOn_append_intercalate apart List.not_mem_nil inside

theorem not_mem_intercalate {c : Char} {gap : List Char} (apart : c ∉ gap)
    {cells : List (List Char)} (inside : ∀ cell ∈ cells, c ∉ cell) :
    c ∉ List.intercalate gap cells := by
  induction cells with
  | nil => exact List.not_mem_nil
  | cons first others ih =>
      have later := ih fun cell member => inside cell (List.mem_cons_of_mem first member)
      have here := inside first List.mem_cons_self
      cases others with
      | nil => rwa [List.intercalate_singleton]
      | cons second others =>
          rw [List.intercalate_cons_cons, List.mem_append, List.mem_append, not_or, not_or]
          exact ⟨⟨here, apart⟩, later⟩

def between? (front back text : List Char) : Option (List Char) :=
  (text.dropPrefix? front).bind (·.dropSuffix? back)

theorem between?_append (front text back : List Char) :
    between? front back (front ++ text ++ back) = some text := by
  have begun : (front ++ (text ++ back)).dropPrefix? front = some (text ++ back) :=
    List.dropPrefix?_append_of_beq _ BEq.rfl
  have finished : (text ++ back).dropSuffix? back = some text :=
    List.dropSuffix?_eq_some_iff.mpr ⟨back, rfl, BEq.rfl⟩
  rw [between?, List.append_assoc, begun, Option.bind_some, finished]

theorem map_trim_splitOn {first : List Char} {others : List (List Char)}
    (tokens : ∀ cell ∈ first :: others, Token cell) :
    (splitOn ',' (List.intercalate [',', ' '] (first :: others))).map trim = first :: others := by
  have inside : ∀ cell ∈ first :: others, ',' ∉ cell :=
    fun cell member => (tokens cell member).word.not_mem rfl
  have bare : ∀ lead : List Char, (∀ c ∈ lead, isBlank c = true) → ∀ cell ∈ first :: others,
      trim (lead ++ cell) = cell := by
    intro lead blank cell member
    have nothing : ∀ c ∈ ([] : List Char), isBlank c = true := nofun
    have padded := trim_padded blank nothing (tokens cell member).word.solid
      (tokens cell member).nonempty
    rwa [List.append_nil] at padded
  have later : ∀ cell ∈ others, (trim ∘ ([' '] ++ ·)) cell = id cell :=
    fun cell member => bare [' '] (by simp [isBlank]) cell (List.mem_cons_of_mem first member)
  rw [splitOn_intercalate (by decide) inside, List.map_cons, List.map_map,
    List.map_congr_left later, List.map_id]
  exact congrArg (· :: others) (bare [] nofun first List.mem_cons_self)

variable {α β γ : Type} {read : β → Option γ} {write : α → β} {value : α → γ}

theorem mapM_written (written : ∀ a, read (write a) = some (value a)) (as : List α) :
    (as.map write).mapM read = some (as.map value) := by
  have each : read ∘ write = fun a => pure (value a) := funext written
  rw [List.mapM_map, each]
  exact List.mapM_pure

theorem mapM_written_self {read : β → Option α} (written : ∀ a, read (write a) = some a)
    (as : List α) : (as.map write).mapM read = some as := by
  rw [mapM_written written, List.map_id']

end SoundEffect.Text
