import SoundEffect.Json.Fault

namespace SoundEffect.Json

abbrev Reader := StateT (List UInt8) (Except Fault)

def isBlank (byte : UInt8) : Bool :=
  byte = 0x20 || byte = 0x09 || byte = 0x0A || byte = 0x0D

def peek : Reader UInt8
  | [] => .error .truncated
  | byte :: rest => .ok (byte, byte :: rest)

def next : Reader UInt8
  | [] => .error .truncated
  | byte :: rest => .ok (byte, rest)

def skipBlanks : Reader Unit
  | text => .ok ((), text.dropWhile isBlank)

def ahead : Reader UInt8 := do
  skipBlanks
  peek

theorem ahead_cons {byte : UInt8} (h : isBlank byte = false) (rest : List UInt8) :
    ahead (byte :: rest) = .ok (byte, byte :: rest) := by
  simp [ahead, skipBlanks, peek, h, bind, StateT.bind, Except.bind]

def nextIf (test : UInt8 → Bool) : Reader (Option UInt8)
  | [] => .ok (none, [])
  | byte :: rest => if test byte then .ok (some byte, rest) else .ok (none, byte :: rest)

def word : List Char → Reader Unit
  | [] => pure ()
  | c :: rest => do
      if (← next) = c.toUInt8 then word rest else throw .malformed

def token (c : Char) : Reader Unit := do
  skipBlanks
  word [c]

theorem token_cons {c : Char} (h : isBlank c.toUInt8 = false) (rest : List UInt8) :
    token c (c.toUInt8 :: rest) = .ok ((), rest) := by
  have blanks : skipBlanks (c.toUInt8 :: rest) = .ok ((), c.toUInt8 :: rest) := by
    simp [skipBlanks, h]
  have found : word [c] (c.toUInt8 :: rest) = .ok ((), rest) := by
    simp only [word, next, bind, StateT.bind, Except.bind, if_true]
    rfl
  simp only [token, bind, StateT.bind, Except.bind, blanks, found]

inductive Round (σ α : Type) where
  | again (state : σ)
  | done (result : α)

def rounds {σ α : Type} (round : σ → Reader (Round σ α)) : List UInt8 → σ → Reader α
  | [], _, _ => .error .truncated
  | _ :: bound, state, text =>
      match round state text with
      | .error fault => .error fault
      | .ok (.done result, rest) => .ok (result, rest)
      | .ok (.again state, rest) => rounds round bound state rest

theorem rounds_again {σ α : Type} {round : σ → Reader (Round σ α)} {state state' : σ}
    {text rest : List UInt8} (h : round state text = .ok (.again state', rest)) (byte : UInt8)
    (bound : List UInt8) :
    rounds round (byte :: bound) state text = rounds round bound state' rest := by
  simp [rounds, h]

theorem rounds_done {σ α : Type} {round : σ → Reader (Round σ α)} {state : σ} {result : α}
    {text rest : List UInt8} (h : round state text = .ok (.done result, rest)) (byte : UInt8)
    (bound : List UInt8) :
    rounds round (byte :: bound) state text = .ok (result, rest) := by
  simp [rounds, h]

/-- Goes round until there is a result. A round that is not the last takes at least one byte, so the
text itself bounds their number. -/
def loop {σ α : Type} (round : σ → Reader (Round σ α)) (state : σ) : Reader α :=
  fun text => rounds round (0 :: text) state text

def decode {α : Type} (reader : Reader α) (text : List UInt8) : Except Fault α :=
  match reader text with
  | .error fault => .error fault
  | .ok (value, rest) => if (rest.dropWhile isBlank).isEmpty then .ok value else .error .malformed

end SoundEffect.Json
