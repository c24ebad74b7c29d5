import SoundEffect.Text.Basic

namespace SoundEffect.Text

theorem splitOn_append (separator : Char) (text rest : List Char) :
    splitOn separator (text ++ separator :: rest) =
      splitOn separator text ++ splitOn separator rest := by
  induction text with
  | nil => simp [splitOn]
  | cons c text ih =>
      obtain ⟨part, parts, split⟩ := List.exists_cons_of_ne_nil (splitOn_ne_nil separator text)
      rw [List.cons_append, splitOn, splitOn, ih]
      by_cases same : c = separator
      · rw [if_pos same, if_pos same, List.cons_append]
      · rw [if_neg same, if_neg same, split]
        rfl

theorem splitOn_of_not_mem {separator : Char} {part : List Char} (inside : separator ∉ part) :
    splitOn separator part = [part] := by
  induction part with
  | nil => rfl
  | cons c rest ih =>
      have other : c ≠ separator := fun same => inside (by simp [same])
      rw [splitOn, if_neg other, ih fun member => inside (by simp [member])]

theorem getLast?_splitOn {separator : Char} {text : List Char} (nonempty : text ≠ [])
    (ended : text.getLast? ≠ some separator) : (splitOn separator text).getLast? ≠ some [] := by
  induction text with
  | nil => exact absurd rfl nonempty
  | cons c rest ih =>
      rcases rest with _ | ⟨d, rest⟩
      · have other : c ≠ separator := fun same => ended (congrArg some same)
        simp [splitOn, other]
      · have later := ih (List.cons_ne_nil _ _) ended
        obtain ⟨part, parts, split⟩ :=
          List.exists_cons_of_ne_nil (splitOn_ne_nil separator (d :: rest))
        rw [splitOn]
        rw [split] at later ⊢
        by_cases same : c = separator
        · rw [if_pos same]
          exact later
        · rw [if_neg same]
          cases parts with
          | nil => simp
          | cons second parts => exact later

theorem trimLeft_append {lead : List Char} (blank : ∀ c ∈ lead, isBlank c = true)
    (text : List Char) : trimLeft (lead ++ text) = trimLeft text :=
  List.dropWhile_append_of_pos blank

theorem trimLeft_cons {c : Char} (solid : isBlank c = false) (rest : List Char) :
    trimLeft (c :: rest) = c :: rest := by
  rw [trimLeft, List.dropWhile_cons, if_neg (by simp [solid])]

theorem trim_padded {lead text tail : List Char} (before : ∀ c ∈ lead, isBlank c = true)
    (after : ∀ c ∈ tail, isBlank c = true) (solid : ∀ c ∈ text, isBlank c = false)
    (nonempty : text ≠ []) : trim (lead ++ text ++ tail) = text := by
  have begun : trimLeft (lead ++ text ++ tail) = text ++ tail := by
    obtain ⟨c, rest, rfl⟩ := List.exists_cons_of_ne_nil nonempty
    rw [List.append_assoc, trimLeft_append before, List.cons_append,
      trimLeft_cons (solid c (by simp))]
  have ended : trimLeft (text ++ tail).reverse = text.reverse := by
    have after' : ∀ c ∈ tail.reverse, isBlank c = true := fun c member =>
      after c (List.mem_reverse.mp member)
    obtain ⟨c, rest, last⟩ :=
      List.exists_cons_of_ne_nil (show text.reverse ≠ [] by simpa using nonempty)
    have member : c ∈ text := by
      rw [← List.mem_reverse, last]
      exact List.mem_cons_self
    rw [List.reverse_append, trimLeft_append after', last, trimLeft_cons (solid c member)]
  rw [trim, begun, ended, List.reverse_reverse]

theorem trim_cons_ne_nil {c : Char} (solid : isBlank c = false) (rest : List Char) :
    trim (c :: rest) ≠ [] := by
  have kept : ∀ text : List Char, trimLeft (text ++ [c]) ≠ [] := by
    intro text
    induction text with
    | nil =>
        rw [List.nil_append, trimLeft_cons solid]
        exact List.cons_ne_nil _ _
    | cons d text ih =>
        cases blank : isBlank d with
        | true => rwa [List.cons_append, trimLeft, List.dropWhile_cons, if_pos blank]
        | false =>
            rw [List.cons_append, trimLeft_cons blank]
            exact List.cons_ne_nil _ _
  rw [trim, trimLeft_cons solid, List.reverse_cons, Ne, List.reverse_eq_nil_iff]
  exact kept rest.reverse

end SoundEffect.Text
