import Mathlib.Data.List.Forall2
import SoundEffect.Proofs.Interpreter.Gate
import SoundEffect.Proofs.Simulator.Alongside

namespace SoundEffect

structure Segment.Alike (segment other : Segment) : Prop where
  frequency : other.frequency = segment.frequency
  freqGlide : other.freqGlide = segment.freqGlide
  gated : other.gated = segment.gated
  attackDecay : other.attackDecay = segment.attackDecay
  sustainRelease : other.sustainRelease = segment.sustainRelease
  releaseTicks : other.releaseTicks = segment.releaseTicks
  gateTicks : segment.gated = true → other.gateTicks = segment.gateTicks

namespace Voice

variable {voice voice' : Voice} {segment segment' : Segment}

theorem alike_load (alike : segment.Alike segment') : (load segment).Alike (load segment') :=
  ⟨alike.gated, alike.attackDecay, alike.sustainRelease, alike.frequency⟩

theorem Alike.glide (h : voice.Alike voice') (alike : segment.Alike segment') :
    (voice.glide segment).Alike (voice'.glide segment') := by
  refine ⟨h.gate, h.attackDecay, h.sustainRelease, ?_⟩
  simp only [Voice.glide, h.frequency, alike.freqGlide]

theorem Alike.cleared (h : voice.Alike voice') : voice.cleared.Alike voice'.cleared :=
  ⟨rfl, rfl, rfl, h.frequency⟩

theorem Alike.lowered (h : voice.Alike voice') (control control' : Control) :
    ({ voice with control := control.lower .gate } : Voice).Alike
      { voice' with control := control'.lower .gate } := by
  refine ⟨?_, h.attackDecay, h.sustainRelease, h.frequency⟩
  simp only [Control.gate_lower_gate]

end Voice

namespace Interpreter

variable {segments others : List Segment} {now other : Interpreter}

theorem getElem?_alike (h : List.Forall₂ Segment.Alike segments others) (i : Nat) :
    Option.Rel Segment.Alike segments[i]? others[i]? := by
  induction h generalizing i with
  | nil => exact .none
  | cons alike _ ih =>
      cases i with
      | zero => exact .some alike
      | succ i => exact ih i

theorem restartsEnvelope_alike {segment segment' following following' : Segment}
    (alike : segment.Alike segment') (next : following.Alike following') :
    restartsEnvelope segment' following' = restartsEnvelope segment following := by
  unfold restartsEnvelope Segment.sustain
  rw [alike.sustainRelease, next.attackDecay, next.gated, next.sustainRelease]

theorem stateAfterRelease_alike (h : List.Forall₂ Segment.Alike segments others)
    (position : Nat) :
    stateAfterRelease others position = stateAfterRelease segments position := by
  have next := getElem?_alike h position
  simp only [stateAfterRelease]
  generalize segments[position]? = here at next ⊢
  generalize others[position]? = here' at next ⊢
  cases next with
  | none => rfl
  | some alike => simp only [alike.gated]

structure Alike (now other : Interpreter) : Prop where
  state : other.state = now.state
  position : other.position = now.position
  delay : other.delay = now.delay
  voice : now.voice.Alike other.voice

theorem Alike.transition (h : List.Forall₂ Segment.Alike segments others)
    (related : now.Alike other) :
    (now.transition segments).1.Alike (other.transition others).1 ∧
      (other.transition others).2 = (now.transition segments).2 := by
  obtain ⟨state, position, delay, voice⟩ := now
  obtain ⟨state', position', delay', voice'⟩ := other
  obtain ⟨rfl, rfl, rfl, heard⟩ := related
  have here := getElem?_alike h position'
  have next := getElem?_alike h (position' + 1)
  cases state' with
  | idle => exact ⟨⟨rfl, rfl, rfl, heard⟩, rfl⟩
  | resetZero => exact ⟨⟨rfl, rfl, rfl, heard.cleared⟩, rfl⟩
  | ready =>
      simp only [Interpreter.transition]
      generalize segments[position']? = current at here ⊢
      generalize others[position']? = current' at here ⊢
      cases here with
      | none => exact ⟨⟨rfl, rfl, rfl, heard⟩, rfl⟩
      | @some segment segment' alike =>
          have loaded := Voice.alike_load alike
          cases gated : segment.gated with
          | true =>
              simp only [alike.gated, gated, if_true]
              exact ⟨⟨rfl, rfl, alike.gateTicks gated, loaded⟩, trivial⟩
          | false =>
              simp only [alike.gated, gated, Bool.false_eq_true, if_false]
              exact ⟨⟨rfl, rfl, alike.releaseTicks, loaded⟩, trivial⟩
  | playing =>
      simp only [Interpreter.transition]
      generalize segments[position']? = current at here ⊢
      generalize others[position']? = current' at here ⊢
      cases here with
      | none => exact ⟨⟨rfl, rfl, rfl, heard⟩, rfl⟩
      | @some segment segment' alike =>
          by_cases held : segment.releaseTicks = 0
          · simp only [alike.releaseTicks, held, ne_eq, not_true, if_false]
            generalize segments[position' + 1]? = following at next ⊢
            generalize others[position' + 1]? = following' at next ⊢
            cases next with
            | none => exact ⟨⟨rfl, rfl, rfl, heard⟩, rfl⟩
            | some alike' =>
                refine ⟨⟨rfl, rfl, rfl, heard⟩, ?_⟩
                simp only [restartsEnvelope_alike alike alike']
          · simp only [alike.releaseTicks, held, ne_eq, not_false_eq_true, if_true]
            exact ⟨⟨rfl, rfl, rfl, heard.lowered _ _⟩, trivial⟩
  | waiting => exact ⟨⟨stateAfterRelease_alike h _, rfl, rfl, heard⟩, rfl⟩

theorem Alike.countDown (h : List.Forall₂ Segment.Alike segments others)
    (related : now.Alike other) :
    (now.countDown segments).Alike (other.countDown others) := by
  have here := getElem?_alike h now.position
  refine ⟨by simpa using related.state, by simpa using related.position,
    UInt8.toNat_inj.mp ?_, ?_⟩
  · rw [toNat_countDown_delay, toNat_countDown_delay, related.delay]
  · simp only [Interpreter.countDown, related.position, related.delay]
    generalize segments[now.position]? = current at here ⊢
    generalize others[now.position]? = current' at here ⊢
    cases here with
    | none => exact related.voice
    | some alike =>
        simp only
        generalize (if now.delay = 0 then 0 else now.delay - 1) = left
        split
        · exact related.voice.glide alike
        · exact related.voice

theorem alongside_of_alike (h : List.Forall₂ Segment.Alike segments others) :
    Alongside segments others Alike where
  delay related := related.delay
  transition _ related := related.transition h

theorem alike_after (h : List.Forall₂ Segment.Alike segments others) (t : Nat) :
    (after segments t).Alike (after others t) := by
  induction t with
  | zero => exact ⟨rfl, rfl, rfl, .refl _⟩
  | succ t ih => exact ((alongside_of_alike h).tick (ih.countDown h)).1

theorem signalAfter_alike (h : List.Forall₂ Segment.Alike segments others) (t : Nat) :
    signalAfter others t = signalAfter segments t :=
  ((alongside_of_alike h).tick ((alike_after h t).countDown h)).2

end Interpreter

end SoundEffect
