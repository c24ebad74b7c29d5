import SoundEffect.Proofs.Preview.Following

namespace SoundEffect

inductive Action where
  | frame
  | edit (edit : Edit)
  | replace (program : Program)
  deriving DecidableEq, Repr

structure Workbench where
  store : Store
  preview : Preview
  frames : Nat
  deriving DecidableEq, Repr

namespace Workbench

def begin (program : Program) (preview : Preview) : Workbench :=
  ⟨.new program, preview, 0⟩

def act (bench : Workbench) : Action → Workbench
  | .frame =>
      { bench with
        preview := (bench.preview.frame bench.store).2
        frames := bench.frames + 1 }
  | .edit edit =>
      match bench.store.edit edit.run with
      | (.ok _, store) => { bench with store := store, frames := 0 }
      | (.error _, store) => { bench with store := store }
  | .replace program => { bench with store := bench.store.replace program, frames := 0 }

def acts (bench : Workbench) (history : List Action) : Workbench :=
  history.foldl act bench

def Follows (config : Config) (bench : Workbench) : Prop :=
  bench.preview.Follows config bench.store bench.frames

variable {config : Config} {bench : Workbench} {fresh : Preview}

theorem Follows.act (valid : config.validate = .ok ()) (h : bench.Follows config)
    (action : Action) : (bench.act action).Follows config := by
  cases action with
  | frame => exact Preview.Follows.frame valid h
  | replace program => exact Preview.Follows.changed h rfl
  | edit edit =>
      simp only [Workbench.act]
      split
      · rename_i run
        exact Preview.Follows.changed h (Store.revision_edit_ok run)
      · rename_i run
        rw [Store.edit_error run]
        exact h

theorem Follows.acts (valid : config.validate = .ok ()) (h : bench.Follows config)
    (history : List Action) : (bench.acts history).Follows config := by
  induction history generalizing bench with
  | nil => exact h
  | cons action history ih => exact ih (h.act valid action)

theorem acts_replicate_frame (n : Nat) (bench : Workbench) :
    (bench.acts (List.replicate n .frame)).store = bench.store ∧
      (bench.acts (List.replicate n .frame)).frames = bench.frames + n := by
  induction n generalizing bench with
  | zero => exact ⟨rfl, rfl⟩
  | succ n ih =>
      obtain ⟨store, frames⟩ := ih (bench.act .frame)
      rw [List.replicate_succ, acts, List.foldl_cons]
      refine ⟨store, frames.trans ?_⟩
      simp only [act]
      omega

def next (bench : Workbench) : Bool × Preview :=
  bench.preview.frame bench.store

def due (config : Config) (bench : Workbench) : Nat :=
  min config.columns ((bench.frames + 1) * config.columnsPerFrame)

structure Incremental (config : Config) (fresh : Preview) (bench : Workbench) : Prop where
  simulator : bench.next.2.simulator =
    (Preview.drawColumns (bench.due config) (fresh.restart bench.store.program)).simulator
  bitmap : bench.next.2.bitmap =
    (Preview.drawColumns (bench.due config) (fresh.restart bench.store.program)).bitmap
  column : bench.next.2.column =
    (Preview.drawColumns (bench.due config) (fresh.restart bench.store.program)).column
  reached : bench.next.2.column = bench.due config
  drawn : bench.next.1 = true ↔
    bench.frames + 1 = 1 ∨ bench.frames * config.columnsPerFrame < config.columns

structure Completes (config : Config) (fresh : Preview) (bench : Workbench) : Prop where
  drawn : ∀ n, (bench.acts (List.replicate n .frame)).next.1 = true ↔
    bench.frames + n < config.framesToFill
  bitmap : ∀ n, config.framesToFill ≤ bench.frames + n + 1 →
    (bench.acts (List.replicate n .frame)).next.2.bitmap =
      (fresh.runToEnd bench.store.program).bitmap
  counted : (bench.preview.frames bench.store).1 = config.framesToFill - bench.frames
  finished : (bench.preview.frames bench.store).2.bitmap =
    (fresh.runToEnd bench.store.program).bitmap

theorem Follows.incremental (valid : config.validate = .ok ()) (h : bench.Follows config)
    (fits : fresh.Fits config) : bench.Incremental config fresh := by
  obtain ⟨⟨filled, -⟩, -, -⟩ := Config.bounds_of_validate valid
  have restarted := fits.restart bench.store.program
  have column := restarted.column_drawColumns (Nat.zero_le _) (bench.due config)
  rw [Preview.column_restart, Nat.zero_add, due, Nat.min_eq_right (Nat.min_le_left _ _)] at column
  have shown := Preview.Follows.frame_eq valid h fits
  rw [← restarted.drawColumns_min rfl] at shown
  refine ⟨?_, ?_, ?_, ?_, ?_⟩
  · rw [next, shown]
    rfl
  · rw [next, shown]
    rfl
  · rw [next, shown]
    rfl
  · rw [next, shown]
    exact column
  · rw [next, Preview.Follows.drawn_iff valid h]
    refine ⟨.inr, ?_⟩
    rintro (first | left)
    · rw [Nat.succ.inj first, Nat.zero_mul]
      exact filled
    · exact left

theorem Follows.completes (valid : config.validate = .ok ()) (h : bench.Follows config)
    (fits : fresh.Fits config) : bench.Completes config fresh := by
  obtain ⟨-, positive, -⟩ := Config.bounds_of_validate valid
  have bounded := Config.framesToFill_le positive
  have all := Preview.Follows.framesWithin_eq valid h fits
    (Nat.le_trans bounded (Nat.le_add_left _ bench.frames))
  rw [← h.fits.configured] at all
  refine ⟨fun n => ?_, fun n full => ?_, ?_, ?_⟩
  · obtain ⟨-, frames⟩ := bench.acts_replicate_frame n
    rw [next, Preview.Follows.drawn_iff valid (h.acts valid _), frames,
      Config.lt_framesToFill_iff positive]
  · obtain ⟨store, frames⟩ := bench.acts_replicate_frame n
    have due := mt (Config.lt_framesToFill_iff positive).mpr (Nat.not_lt.mpr full)
    rw [next, Preview.Follows.frame_of_due valid (h.acts valid _) fits (by
      rw [frames]
      exact Nat.not_lt.mp due), store]
    rfl
  · rw [Preview.frames, all, h.fits.configured]
  · rw [Preview.frames, all]
    rfl

theorem acts_incremental (valid : config.validate = .ok ()) :
    ∃ fresh, Preview.new config = .ok fresh ∧
      ∀ program history,
        ((begin program fresh).acts history).Incremental config fresh ∧
          ((begin program fresh).acts history).Completes config fresh := by
  obtain ⟨fresh, made⟩ := Preview.exists_new valid
  refine ⟨fresh, made, fun program history => ?_⟩
  have begun : (begin program fresh).Follows config := Preview.Follows.of_new program made
  have follows := begun.acts valid history
  have fits := Preview.fits_of_new made
  exact ⟨follows.incremental valid fits, follows.completes valid fits⟩

def interrupted : List Action :=
  [.frame, .edit (.insert 0), .frame, .edit (.remove 9), .frame]

theorem acts_incremental_interrupted :
    Config.pal.validate = .ok () ∧
      ∃ fresh, Preview.new .pal = .ok fresh ∧
        ((begin .base fresh).acts interrupted).store.program.length = 2 ∧
        ((begin .base fresh).acts interrupted).frames = 2 ∧
        ((begin .base fresh).acts interrupted).Incremental .pal fresh ∧
        ((begin .base fresh).acts interrupted).Completes .pal fresh := by
  have valid : Config.pal.validate = .ok () := by decide
  obtain ⟨fresh, made, shown⟩ := acts_incremental valid
  exact ⟨valid, fresh, made, rfl, rfl, shown .base interrupted⟩

end Workbench

end SoundEffect
