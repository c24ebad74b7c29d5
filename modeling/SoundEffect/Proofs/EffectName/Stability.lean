import Mathlib.Data.List.Basic
import Mathlib.Data.List.TakeWhile
import SoundEffect.Command.Run
import SoundEffect.Proofs.EffectName.Alphabet

namespace SoundEffect

theorem takeWhile_of_pointless {text : List Char} (pointless : '.' ∉ text) :
    text.takeWhile (· ≠ '.') = text :=
  List.takeWhile_eq_self_iff.mpr fun _ member =>
    decide_eq_true (ne_of_mem_of_not_mem member pointless)

theorem effectName_of_plain {name : List Char} (plain : ∀ c ∈ name, NameChar '-' c) :
    effectName name = name := by
  have pointless : '.' ∉ name := fun point => absurd (plain '.' point) (by decide)
  have kept : name.filterMap effectNameChar? = name.filterMap some :=
    List.filterMap_congr fun c member => effectNameChar?_of_nameChar (plain c member)
  rw [effectName, takeWhile_of_pointless pointless, kept, List.filterMap_some]

theorem effectName_effectName (raw : List Char) : effectName (effectName raw) = effectName raw :=
  effectName_of_plain fun _ => nameChar_of_mem_effectName

theorem effectName_append {front : List Char} (pointless : '.' ∉ front) (raw : List Char) :
    effectName (front ++ raw) = effectName front ++ effectName raw := by
  have before : ∀ c ∈ front, decide (c ≠ '.') = true :=
    List.takeWhile_eq_self_iff.mp (takeWhile_of_pointless pointless)
  rw [effectName, List.takeWhile_append_of_pos before, List.filterMap_append, effectName,
    takeWhile_of_pointless pointless, effectName]

theorem effectName_congr {raw other : List Char}
    (same : raw.takeWhile (· ≠ '.') = other.takeWhile (· ≠ '.')) :
    effectName raw = effectName other := by
  rw [effectName, same, effectName]

structure Unheard (change : Char → Char) : Prop where
  kept : ∀ c, effectNameChar? (change c) = effectNameChar? c
  point : ∀ c, change c = '.' ↔ c = '.'

theorem Unheard.effectName_map {change : Char → Char} (unheard : Unheard change)
    (raw : List Char) : effectName (raw.map change) = effectName raw := by
  have stops : (fun c => decide (c ≠ '.')) ∘ change = fun c => decide (c ≠ '.') :=
    funext fun c => decide_eq_decide.mpr (not_congr (unheard.point c))
  have kept : effectNameChar? ∘ change = effectNameChar? := funext unheard.kept
  rw [effectName, List.takeWhile_map, stops, List.filterMap_map, kept, effectName]

theorem unheard_of_ascii {change : Char → Char} (wide : ∀ c, 128 ≤ c.toNat → change c = c)
    (ascii : ∀ n < 128, effectNameChar? (change (Char.ofNat n)) = effectNameChar? (Char.ofNat n) ∧
      (change (Char.ofNat n) = '.' ↔ Char.ofNat n = '.')) : Unheard change := by
  have all (c : Char) : effectNameChar? (change c) = effectNameChar? c ∧
      (change c = '.' ↔ c = '.') := by
    by_cases small : c.toNat < 128
    · simpa only [Char.ofNat_toNat] using ascii c.toNat small
    · rw [wide c (Nat.not_lt.mp small)]
      exact ⟨rfl, Iff.rfl⟩
  exact ⟨fun c => (all c).1, fun c => (all c).2⟩

theorem unheard_toLower : Unheard Char.toLower := by
  refine unheard_of_ascii (fun c wide => dif_neg fun upper => ?_) (by decide)
  have : c.toNat ≤ 90 := UInt32.le_iff_toNat_le.mp upper.2
  omega

theorem unheard_toUpper : Unheard Char.toUpper := by
  refine unheard_of_ascii (fun c wide => dif_neg fun lower => ?_) (by decide)
  have : c.toNat ≤ 122 := UInt32.le_iff_toNat_le.mp lower.2
  omega

theorem effectName_of_toLower {raw other : List Char}
    (same : other.map Char.toLower = raw.map Char.toLower) : effectName other = effectName raw := by
  rw [← unheard_toLower.effectName_map other, same, unheard_toLower.effectName_map raw]

theorem length_identifier (name : List Char) :
    (identifier name).length = (effectName name).length :=
  List.length_map _

theorem identifier_effectName (name : List Char) :
    identifier (effectName name) = identifier name := by
  rw [identifier, effectName_effectName, identifier]

theorem cArray_effectName (program : Program) (name : List Char) :
    program.cArray (effectName name) = program.cArray name := by
  have opening : CArray.openingLine (effectName name) = CArray.openingLine name := by
    -- only unfolded: an equation of these texts would be computed character by character
    delta CArray.openingLine
    rw [identifier_effectName]
  rw [Program.cArray, opening, Program.cArray]

theorem run_array_stem {m : Type → Type} [Monad m] [Files m] (file : Path) (out : Option Path) :
    Command.run (m := m) (.array file none out) =
      Command.run (m := m) (.array file (some file.stem) out) := by
  simp only [Command.run, Option.getD_none, Option.getD_some, cArray_effectName]

structure StableName (raw : List Char) : Prop where
  plain : ∀ c ∈ effectName raw, NameChar '-' c
  stem : ∀ other, other.takeWhile (· ≠ '.') = raw.takeWhile (· ≠ '.') →
    effectName other = effectName raw
  lower : effectName (raw.map Char.toLower) = effectName raw
  upper : effectName (raw.map Char.toUpper) = effectName raw
  capitals : ∀ other, other.map Char.toLower = raw.map Char.toLower →
    effectName other = effectName raw
  appended : ∀ front, '.' ∉ front → effectName (front ++ raw) = effectName front ++ effectName raw
  settled : effectName (effectName raw) = effectName raw

structure StableIdentifier (raw : List Char) : Prop where
  plain : ∀ c ∈ identifier raw, NameChar '_' c
  length : (identifier raw).length = (effectName raw).length
  settled : identifier (effectName raw) = identifier raw
  exported : ∀ program : Program, program.cArray (effectName raw) = program.cArray raw
  lent : ∀ {m : Type → Type} [Monad m] [Files m] (file : Path) (out : Option Path),
    file.stem = raw →
      Command.run (m := m) (.array file none out) =
        Command.run (m := m) (.array file (some raw) out)

theorem names_plain_and_stable (raw : List Char) : StableName raw ∧ StableIdentifier raw := by
  refine ⟨⟨fun _ => nameChar_of_mem_effectName, fun _ => effectName_congr,
    unheard_toLower.effectName_map raw, unheard_toUpper.effectName_map raw,
    fun _ => effectName_of_toLower, fun _ pointless => effectName_append pointless raw,
    effectName_effectName raw⟩,
    ⟨fun _ => nameChar_of_mem_identifier, length_identifier raw, identifier_effectName raw,
      fun program => cArray_effectName program raw, fun file out lent => ?_⟩⟩
  rw [run_array_stem, lent]

theorem names_plain_and_stable_boom :
    effectName "BOOM_big!.sfx".toList = effectName "BOOM_big!.v2".toList ∧
      effectName "boom_BIG!.V2".toList = effectName "BOOM_big!.v2".toList ∧
      effectName ("Größe-".toList ++ "BOOM_big!.v2".toList) =
        "gre-".toList ++ "boombig".toList ∧
      ∀ program : Program,
        program.cArray "boombig".toList = program.cArray "BOOM_big!.v2".toList := by
  obtain ⟨name, identifier⟩ := names_plain_and_stable "BOOM_big!.v2".toList
  have boom : effectName "BOOM_big!.v2".toList = "boombig".toList := by decide
  refine ⟨name.stem _ (by decide), name.capitals _ (by decide), ?_, fun program => ?_⟩
  · rw [name.appended _ (by decide), boom]
    decide
  · rw [← boom, identifier.exported program]

end SoundEffect
