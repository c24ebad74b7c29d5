import SoundEffect.Json.Record
import SoundEffect.Proofs.Json.Layout

namespace SoundEffect.Json

open Text (utf8 utf8_append)

variable {α : Type} {layout : Layout} {rest : List UInt8}

namespace Layout

theorem ahead_comma (layout : Layout) (rest : List UInt8) :
    ahead (layout.front false ++ rest) = .ok (','.toUInt8, layout.front false ++ rest) :=
  ahead_cons (by decide) _

theorem token_comma (layout : Layout) (rest : List UInt8) :
    token ',' (layout.front false ++ rest) = .ok ((), utf8 layout.lead ++ rest) :=
  token_cons (by decide) _

theorem anotherKey_front (blank : layout.IsBlank) (isFirst : Bool) (rest : List UInt8) :
    Shape.anotherKey isFirst (layout.front isFirst ++ 0x22 :: rest) = .ok (true, 0x22 :: rest) := by
  have quote : ahead (utf8 layout.lead ++ 0x22 :: rest) = .ok (0x22, 0x22 :: rest) :=
    ahead_append blank.lead (by decide) rest
  cases isFirst with
  | true =>
      have again : ahead (0x22 :: rest) = .ok (0x22, 0x22 :: rest) := ahead_cons (by decide) rest
      have first : layout.front true = utf8 layout.lead := rfl
      rw [Shape.anotherKey, first, bind_of_ok quote, if_neg (by decide)]
      simp only [if_true]
      rw [bind_of_ok again]
      rfl
  | false =>
      rw [Shape.anotherKey, bind_of_ok (ahead_comma layout _), if_neg (by decide)]
      simp only [Bool.false_eq_true, if_false]
      rw [bind_of_ok (token_comma layout _), bind_of_ok quote]
      rfl

theorem anotherKey_close (blank : layout.IsBlank) (isFirst : Bool) (rest : List UInt8) :
    Shape.anotherKey isFirst (utf8 layout.close ++ '\x7d'.toUInt8 :: rest) =
      .ok (false, '\x7d'.toUInt8 :: rest) := by
  rw [Shape.anotherKey, bind_of_ok (ahead_append blank.close (by decide) rest), if_pos rfl]
  rfl

theorem anotherElement_front (blank : layout.IsBlank) (isFirst : Bool) {byte : UInt8}
    (solid : isBlank byte = false) (inside : byte ≠ ']'.toUInt8) (rest : List UInt8) :
    anotherElement isFirst (layout.front isFirst ++ byte :: rest) = .ok (true, byte :: rest) := by
  have seen : ahead (utf8 layout.lead ++ byte :: rest) = .ok (byte, byte :: rest) :=
    ahead_append blank.lead solid rest
  cases isFirst with
  | true =>
      have first : layout.front true = utf8 layout.lead := rfl
      rw [anotherElement, first, bind_of_ok seen, if_neg inside]
      rfl
  | false =>
      rw [anotherElement, bind_of_ok (ahead_comma layout _), if_neg (by decide),
        if_neg Bool.false_ne_true, bind_of_ok (token_comma layout _), bind_of_ok seen,
        if_neg inside]
      rfl

theorem anotherElement_close (blank : layout.IsBlank) (isFirst : Bool) (rest : List UInt8) :
    anotherElement isFirst (utf8 layout.close ++ ']'.toUInt8 :: rest) =
      .ok (false, ']'.toUInt8 :: rest) := by
  rw [anotherElement, bind_of_ok (ahead_append blank.close (by decide) rest), if_pos rfl]
  rfl

end Layout

namespace Shape

variable {shape : Shape α}

inductive Fills (value : α) : List (Member α) → α → α → Prop
  | nil (draft : α) : Fills value [] draft draft
  | cons {member members} {draft next final : α}
      (reads : Reads (member.read draft) (member.write value).written next)
      (fills : Fills value members next final) : Fills value (member :: members) draft final

structure Distinct (shape : Shape α) : Prop where
  nodup : (shape.members.map (·.name)).Nodup
  plain : ∀ member ∈ shape.members, Plain member.name.toList

theorem member?_of_nodup {before after : List (Member α)} {member : Member α}
    (members : shape.members = before ++ member :: after)
    (fresh : member.name ∉ before.map (·.name)) : shape.member? member.name = some member := by
  have others : before.find? (·.name = member.name) = none := by
    rw [List.find?_eq_none]
    intro other among same
    apply fresh
    rw [List.mem_map]
    exact ⟨other, among, by simpa using same⟩
  rw [member?, members, List.find?_append, others]
  simp

theorem finish_of_all {draft : Draft α} (all : ∀ member ∈ shape.members, member.name ∈ draft.read)
    (input : List UInt8) : shape.finish draft input = .ok (draft.value, input) := by
  have complete : shape.missing? draft = none := by
    rw [missing?, List.find?_eq_none]
    intro member among
    simp [all member among]
  rw [finish, complete]
  rfl

theorem memberRound_item (blank : layout.IsBlank) {member : Member α}
    {value next : α} {draft : Draft α} (known : shape.member? member.name = some member)
    (fresh : member.name ∉ draft.read) (plain : Plain member.name.toList)
    (reads : Reads (member.read draft.value) (member.write value).written next)
    (isFirst : Bool) (stops : Stops rest) :
    shape.memberRound (isFirst, draft)
        (layout.front isFirst ++
          (utf8 (Json.member layout.gap (member.name, member.write value)) ++ rest)) =
      .ok (.again (false, ⟨next, member.name :: draft.read⟩), rest) := by
  have written : utf8 (Json.member layout.gap (member.name, member.write value)) ++ rest =
      utf8 (writtenText member.name.toList) ++
        (':'.toUInt8 :: (utf8 layout.gap ++ (utf8 (member.write value).written ++ rest))) := by
    rw [Json.member, utf8_append, utf8_append, utf8_append, List.append_assoc, List.append_assoc,
      List.append_assoc]
    rfl
  obtain ⟨after, opened⟩ : ∃ after, utf8 (writtenText member.name.toList) ++
      (':'.toUInt8 :: (utf8 layout.gap ++ (utf8 (member.write value).written ++ rest))) =
        0x22 :: after := ⟨_, rfl⟩
  have name := reads_text plain []
    (':'.toUInt8 :: (utf8 layout.gap ++ (utf8 (member.write value).written ++ rest))) nofun
    (stops_cons (by decide) (by decide) (by decide) (by decide) _)
  rw [List.nil_append, String.ofList_toList] at name
  have another := Layout.anotherKey_front blank isFirst after
  rw [← opened] at another
  rw [memberRound, written, bind_of_ok another, if_pos rfl, bind_of_ok name]
  simp only [known]
  rw [if_neg (by simpa using fresh), bind_of_ok (token_cons (by decide) _),
    bind_of_ok (reads _ _ blank.gap stops)]
  rfl

def memberTexts (gap : List Char) (value : α) (members : List (Member α)) : List (List Char) :=
  members.map fun member => Json.member gap (member.name, member.write value)

theorem rounds_memberRound (blank : layout.IsBlank) (distinct : shape.Distinct) {value final : α}
    {before after : List (Member α)} (members : shape.members = before ++ after) {draft : Draft α}
    (read : draft.read = (before.map (·.name)).reverse)
    (fills : Fills value after draft.value final)
    {bound : List UInt8} (enough : after.length < bound.length) (isFirst : Bool) :
    rounds shape.memberRound bound (isFirst, draft)
        (layout.remainder '\x7d' rest isFirst (memberTexts layout.gap value after)) =
      .ok (final, '\x7d'.toUInt8 :: rest) := by
  -- The induction is on the members to come; those before them are what the draft has read.
  induction after generalizing before draft isFirst bound with
  | nil =>
      obtain ⟨byte, bound, rfl⟩ := List.exists_cons_of_length_pos (Nat.zero_lt_of_lt enough)
      cases fills
      have all : ∀ member ∈ shape.members, member.name ∈ draft.read := by
        intro member among
        rw [members, List.append_nil] at among
        rw [read, List.mem_reverse]
        exact List.mem_map_of_mem among
      have closed : shape.memberRound (isFirst, draft)
          (utf8 layout.close ++ '\x7d'.toUInt8 :: rest) =
            .ok (.done draft.value, '\x7d'.toUInt8 :: rest) := by
        rw [memberRound, bind_of_ok (Layout.anotherKey_close blank isFirst rest),
          if_neg Bool.false_ne_true, bind_of_ok (finish_of_all all _)]
        rfl
      rw [memberTexts, List.map_nil, Layout.remainder_nil]
      exact rounds_done closed byte bound
  | cons member after ih =>
      obtain ⟨byte, bound, rfl⟩ := List.exists_cons_of_length_pos (Nat.zero_lt_of_lt enough)
      cases fills with
      | cons reads fills =>
          have nodup := distinct.nodup
          rw [members, List.map_append, List.map_cons] at nodup
          have fresh : member.name ∉ before.map (·.name) := by
            intro among
            exact (List.nodup_append.mp nodup).2.2 _ among _ List.mem_cons_self rfl
          have unread : member.name ∉ draft.read := by
            rwa [read, List.mem_reverse]
          have stops : Stops (layout.remainder '\x7d' rest false
              (memberTexts layout.gap value after)) :=
            Layout.stops_remainder blank
              (stops_cons (by decide) (by decide) (by decide) (by decide) _) _
          have round := memberRound_item blank (member?_of_nodup members fresh) unread
            (distinct.plain member (by simp [members])) reads isFirst stops
          rw [memberTexts, List.map_cons, Layout.remainder_cons, ← memberTexts, rounds_again round]
          apply ih _ _ fills (Nat.lt_of_succ_lt_succ enough)
          · exact before ++ [member]
          · rw [members, List.append_assoc]
            rfl
          · rw [List.map_append, List.reverse_append, ← read]
            rfl

theorem reads_recordText (blank : layout.IsBlank) (distinct : shape.Distinct) {value : α}
    (fills : Fills value shape.members shape.blank value) :
    Reads shape.reader (layout.recordText (shape.record value)) value := by
  intro gap rest spaces _
  have written : utf8 (layout.recordText (shape.record value)) ++ rest =
      '\x7b'.toUInt8 ::
        layout.remainder '\x7d' rest true (memberTexts layout.gap value shape.members) := by
    rw [Layout.utf8_recordText, record, List.map_map]
    rfl
  have solid : ∀ text ∈ memberTexts layout.gap value shape.members, text ≠ [] := by
    intro text among
    obtain ⟨member, -, rfl⟩ := List.mem_map.mp among
    exact List.cons_ne_nil _ _
  have enough := @Layout.length_lt_remainder layout '\x7d' rest true _ solid
  rw [memberTexts, List.length_map, ← memberTexts] at enough
  have looped : loop shape.memberRound (true, ⟨shape.blank, []⟩)
      (layout.remainder '\x7d' rest true (memberTexts layout.gap value shape.members)) =
        .ok (value, '\x7d'.toUInt8 :: rest) := by
    rw [loop]
    apply rounds_memberRound blank distinct (List.nil_append _).symm rfl fills
    exact Nat.lt_succ_of_lt enough
  rw [reader, written, bind_of_ok (ahead_append spaces (by decide) _), if_pos rfl, ofMap,
    bind_of_ok (token_cons (by decide) _), bind_of_ok looped,
    bind_of_ok (token_cons (by decide) _)]
  rfl

end Shape

theorem rounds_elementRound (blank : layout.IsBlank) {element : Reader α} {write : α → List Char}
    {after : List α} (reads : ∀ value ∈ after, Reads element (write value) value)
    (opened : ∀ value ∈ after, ∃ text, write value = '\x7b' :: text) (elements : List α)
    {bound : List UInt8} (enough : after.length < bound.length) :
    rounds (elementRound element) bound elements
        (layout.remainder ']' rest elements.isEmpty (after.map write)) =
      .ok (elements.reverse ++ after, ']'.toUInt8 :: rest) := by
  induction after generalizing elements bound with
  | nil =>
      obtain ⟨byte, bound, rfl⟩ := List.exists_cons_of_length_pos enough
      have closed : elementRound element elements (utf8 layout.close ++ ']'.toUInt8 :: rest) =
          .ok (.done elements.reverse, ']'.toUInt8 :: rest) := by
        rw [elementRound, bind_of_ok (Layout.anotherElement_close blank _ rest)]
        rfl
      rw [List.map_nil, Layout.remainder_nil, List.append_nil]
      exact rounds_done closed byte bound
  | cons value after ih =>
      obtain ⟨byte, bound, rfl⟩ := List.exists_cons_of_length_pos (Nat.zero_lt_of_lt enough)
      have stops : Stops (layout.remainder ']' rest false (after.map write)) :=
        Layout.stops_remainder blank
          (stops_cons (by decide) (by decide) (by decide) (by decide) _) _
      have read := reads value List.mem_cons_self [] _ nofun stops
      rw [List.nil_append] at read
      obtain ⟨text, first⟩ := opened value List.mem_cons_self
      obtain ⟨tail, octets⟩ : ∃ tail, utf8 (write value) ++
          layout.remainder ']' rest false (after.map write) = '\x7b'.toUInt8 :: tail := by
        rw [first]
        exact ⟨_, rfl⟩
      have another := Layout.anotherElement_front blank elements.isEmpty
        (show isBlank '\x7b'.toUInt8 = false by decide) (by decide) tail
      rw [← octets] at another
      have round : elementRound element elements
          (layout.remainder ']' rest elements.isEmpty ((value :: after).map write)) =
            .ok (.again (value :: elements),
              layout.remainder ']' rest (value :: elements).isEmpty (after.map write)) := by
        rw [List.map_cons, Layout.remainder_cons, elementRound, bind_of_ok another, if_pos rfl,
          bind_of_ok read]
        rfl
      have others := ih (fun other member => reads other (by simp [member]))
        (fun other member => opened other (by simp [member])) (value :: elements)
        (Nat.lt_of_succ_lt_succ enough)
      rw [rounds_again round, others, List.reverse_cons, List.append_assoc]
      rfl

theorem reads_listText (blank : layout.IsBlank) {element : Reader α} {write : α → List Char}
    {values : List α} (reads : ∀ value ∈ values, Reads element (write value) value)
    (opened : ∀ value ∈ values, ∃ text, write value = '\x7b' :: text) :
    Reads (sequenceOf element) (layout.listText (values.map write)) values := by
  intro gap rest spaces _
  have solid : ∀ text ∈ values.map write, text ≠ [] := by
    intro text among
    obtain ⟨value, member, rfl⟩ := List.mem_map.mp among
    obtain ⟨text, first⟩ := opened value member
    exact first ▸ List.cons_ne_nil _ _
  have enough := @Layout.length_lt_remainder layout ']' rest true _ solid
  rw [List.length_map] at enough
  have looped : loop (elementRound element) []
      (layout.remainder ']' rest true (values.map write)) =
        .ok (values, ']'.toUInt8 :: rest) := by
    rw [loop]
    apply rounds_elementRound blank reads opened []
    exact Nat.lt_succ_of_lt enough
  rw [Layout.utf8_listText, sequenceOf, bind_of_ok (ahead_append spaces (by decide) _), if_pos rfl,
    bind_of_ok (token_cons (by decide) _), bind_of_ok looped,
    bind_of_ok (token_cons (by decide) _)]
  rfl

end SoundEffect.Json
