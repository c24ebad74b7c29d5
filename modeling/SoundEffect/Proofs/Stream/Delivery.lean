import SoundEffect.Stream

namespace SoundEffect

inductive Ending where
  | endOfInput
  | fault (cause : IoFault)
  deriving DecidableEq, Repr

def Ending.cause : Ending → IoFault
  | endOfInput => .shortRead
  | fault cause => cause

def Answer.goesOn : Answer → Bool
  | piece bytes => !bytes.isEmpty
  | fault cause => cause.kind = .interrupted

namespace Source

variable {answer : Answer} {answers : List Answer} {count : Nat}

/-- The first empty piece is the end of the input, whatever comes after it. -/
def delivered (source : Source) : List UInt8 :=
  (source.answers.takeWhile Answer.goesOn).flatMap Answer.bytes

def closing (source : Source) : Ending :=
  match source.answers.dropWhile Answer.goesOn with
  | .fault cause :: _ => .fault cause
  | _ => .endOfInput

theorem delivered_cons (on : answer.goesOn = true) :
    (⟨answer :: answers⟩ : Source).delivered =
      answer.bytes ++ (⟨answers⟩ : Source).delivered := by
  simp [delivered, on]

theorem closing_cons (on : answer.goesOn = true) :
    (⟨answer :: answers⟩ : Source).closing = (⟨answers⟩ : Source).closing := by
  simp [closing, on]

theorem delivered_of_stop (stop : answer.goesOn = false) :
    (⟨answer :: answers⟩ : Source).delivered = [] := by
  simp [delivered, stop]

theorem closing_of_stop (stop : answer.goesOn = false) :
    (⟨answer :: answers⟩ : Source).closing =
      match answer with
      | .fault cause => .fault cause
      | .piece _ => .endOfInput := by
  cases answer <;> simp [closing, stop]

theorem delivered_ofBytes (bytes : List UInt8) : (ofBytes bytes).delivered = bytes := by
  cases bytes <;> simp [ofBytes, delivered, Answer.goesOn, Answer.bytes]

structure Leaves (source : Source) (count : Nat) (rest : Source) : Prop where
  delivered : rest.delivered = source.delivered.drop count
  closing : rest.closing = source.closing

theorem Leaves.trans {source middle rest : Source} {m n : Nat} (first : source.Leaves m middle)
    (second : middle.Leaves n rest) : source.Leaves (m + n) rest := by
  constructor
  · rw [second.delivered, first.delivered, List.drop_drop]
  · rw [second.closing, first.closing]

theorem Leaves.after_answer {rest : Source} (on : answer.goesOn = true)
    (leaves : Leaves ⟨answers⟩ count rest) :
    Leaves ⟨answer :: answers⟩ (answer.bytes.length + count) rest := by
  constructor
  · rw [leaves.delivered, delivered_cons on, List.drop_append, Nat.add_sub_cancel_left,
      List.drop_of_length_le (Nat.le_add_right _ _), List.nil_append]
  · rw [leaves.closing, closing_cons on]

theorem Leaves.after_piece {piece : List UInt8} {rest : Source} (full : piece ≠ [])
    (outside : ¬ count ≤ piece.length)
    (leaves : Leaves ⟨answers⟩
      (min (count - piece.length) (⟨answers⟩ : Source).delivered.length) rest) :
    Leaves ⟨.piece piece :: answers⟩
      (min count (piece ++ (⟨answers⟩ : Source).delivered).length) rest := by
  have on : (Answer.piece piece).goesOn = true := by simp [Answer.goesOn, full]
  have total : min count (piece ++ (⟨answers⟩ : Source).delivered).length =
      piece.length + min (count - piece.length) (⟨answers⟩ : Source).delivered.length := by
    rw [List.length_append]
    omega
  rw [total]
  exact leaves.after_answer on

theorem leaves_unread {piece : List UInt8} (nonempty : piece ≠ []) (inside : count ≤ piece.length) :
    Leaves ⟨.piece piece :: answers⟩ count
      ⟨if (piece.drop count).isEmpty then answers else .piece (piece.drop count) :: answers⟩ := by
  have on {bytes : List UInt8} (full : bytes ≠ []) : (Answer.piece bytes).goesOn = true := by
    simp [Answer.goesOn, full]
  have left : (⟨.piece piece :: answers⟩ : Source).delivered.drop count =
      piece.drop count ++ (⟨answers⟩ : Source).delivered := by
    rw [delivered_cons (on nonempty)]
    exact List.drop_append_of_le_length inside
  cases rest : piece.drop count with
  | nil =>
      rw [rest, List.nil_append] at left
      exact ⟨left.symm, (closing_cons (on nonempty)).symm⟩
  | cons byte bytes =>
      rw [rest] at left
      have full := on (List.cons_ne_nil byte bytes)
      exact ⟨(delivered_cons full).trans left.symm,
        (closing_cons full).trans (closing_cons (on nonempty)).symm⟩

theorem le_length_append_iff {left right : List UInt8} (outside : ¬ count ≤ left.length) :
    count ≤ (left ++ right).length ↔ count - left.length ≤ right.length := by
  rw [List.length_append]
  omega

def Serves (count : Nat) (answers : List Answer) : Prop :=
  ∃ rest, take count answers =
      (if count ≤ (⟨answers⟩ : Source).delivered.length then
        .ok ((⟨answers⟩ : Source).delivered.take count)
      else .error (⟨answers⟩ : Source).closing.cause, rest) ∧
    Leaves ⟨answers⟩ (min count (⟨answers⟩ : Source).delivered.length) rest

theorem serves_zero (answers : List Answer) : Serves 0 answers := by
  rw [Serves, take, if_pos (Nat.zero_le _), List.take_zero, Nat.zero_min]
  exact ⟨_, rfl, rfl, rfl⟩

theorem serves_of_stop (stop : answer.goesOn = false)
    (ends : take (count + 1) (answer :: answers) =
      (.error (⟨answer :: answers⟩ : Source).closing.cause, ⟨answer :: answers⟩)) :
    Serves (count + 1) (answer :: answers) := by
  rw [Serves, ends, delivered_of_stop stop, List.length_nil, Nat.min_zero,
    if_neg (Nat.not_succ_le_zero count)]
  exact ⟨_, rfl, rfl, rfl⟩

theorem serves_interrupted {fault : IoFault} (interrupted : fault.kind = .interrupted)
    (served : Serves (count + 1) answers) : Serves (count + 1) (.fault fault :: answers) := by
  have on : (Answer.fault fault).goesOn = true := decide_eq_true interrupted
  obtain ⟨rest, read, leaves⟩ := served
  have after := leaves.after_answer on
  refine ⟨rest, ?_, ?_⟩
  · rw [take, if_pos interrupted, read, delivered_cons on, closing_cons on]
    rfl
  · rw [delivered_cons on]
    simpa [Answer.bytes] using after

theorem serves_piece_of_le {byte : UInt8} {piece : List UInt8}
    (inside : count + 1 ≤ (byte :: piece).length) :
    Serves (count + 1) (.piece (byte :: piece) :: answers) := by
  have on : (Answer.piece (byte :: piece)).goesOn = true := rfl
  have enough : count + 1 ≤ (byte :: piece ++ (⟨answers⟩ : Source).delivered).length :=
    Nat.le_trans inside (List.length_append ▸ Nat.le_add_right _ _)
  rw [Serves, delivered_cons on, Answer.bytes, if_pos enough, Nat.min_eq_left enough,
    List.take_append_of_le_length inside, take, if_pos inside]
  exact ⟨_, rfl, leaves_unread (List.cons_ne_nil byte piece) inside⟩

theorem serves_piece_of_not_le {byte : UInt8} {piece : List UInt8}
    (outside : ¬ count + 1 ≤ (byte :: piece).length)
    (served : Serves (count + 1 - (byte :: piece).length) answers) :
    Serves (count + 1) (.piece (byte :: piece) :: answers) := by
  have on : (Answer.piece (byte :: piece)).goesOn = true := rfl
  have enough_iff : count + 1 ≤ (byte :: piece ++ (⟨answers⟩ : Source).delivered).length ↔
      count + 1 - (byte :: piece).length ≤ (⟨answers⟩ : Source).delivered.length :=
    le_length_append_iff outside
  obtain ⟨rest, read, leaves⟩ := served
  refine ⟨rest, ?_, ?_⟩
  · rw [take, if_neg outside, read, delivered_cons on, closing_cons on, Answer.bytes]
    by_cases left : count + 1 - (byte :: piece).length ≤ (⟨answers⟩ : Source).delivered.length
    · rw [if_pos left, if_pos (enough_iff.mpr left), List.take_append,
        List.take_of_length_le (Nat.le_of_not_le outside)]
    · rw [if_neg left, if_neg (mt enough_iff.mp left)]
  · rw [delivered_cons on]
    exact leaves.after_piece (List.cons_ne_nil byte piece) outside

theorem take_serves (count : Nat) (answers : List Answer) : Serves count answers := by
  fun_induction take count answers with
  | case1 answers => exact serves_zero answers
  | case2 n => exact ⟨_, rfl, rfl, rfl⟩
  | case3 n fault answers interrupted ih => exact serves_interrupted interrupted ih
  | case4 n fault answers final =>
      have stop : (Answer.fault fault).goesOn = false := decide_eq_false final
      exact serves_of_stop stop (by rw [take, if_neg final, closing_of_stop stop]; rfl)
  | case5 n answers => exact serves_of_stop rfl rfl
  | case6 n byte piece answers inside => exact serves_piece_of_le inside
  | case7 n byte piece answers outside _ _ _ ih => exact serves_piece_of_not_le outside ih
  | case8 n byte piece answers outside _ _ _ ih => exact serves_piece_of_not_le outside ih

theorem read_of_le (source : Source) (enough : count ≤ source.delivered.length) :
    ∃ rest, source.read count = (.ok (source.delivered.take count), rest) ∧
      Leaves source count rest := by
  obtain ⟨rest, read, leaves⟩ := take_serves count source.answers
  rw [if_pos enough] at read
  rw [Nat.min_eq_left enough] at leaves
  exact ⟨rest, read, leaves⟩

theorem read_of_lt (source : Source) (short : source.delivered.length < count) :
    ∃ rest, source.read count = (.error source.closing.cause, rest) ∧
      Leaves source source.delivered.length rest := by
  obtain ⟨rest, read, leaves⟩ := take_serves count source.answers
  rw [if_neg (Nat.not_le.mpr short)] at read
  rw [Nat.min_eq_right (Nat.le_of_lt short)] at leaves
  exact ⟨rest, read, leaves⟩

end Source

end SoundEffect
