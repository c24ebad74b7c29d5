import SoundEffect.Proofs.Preview.Columns
import SoundEffect.Proofs.Store.Edits

namespace SoundEffect

namespace Config

variable {config : Config}

def framesToFill (config : Config) : Nat :=
  (config.columns + config.columnsPerFrame - 1) / config.columnsPerFrame

theorem lt_framesToFill_iff (positive : 0 < config.columnsPerFrame) {n : Nat} :
    n < config.framesToFill ↔ n * config.columnsPerFrame < config.columns := by
  rw [framesToFill, ← Nat.succ_le_iff, Nat.le_div_iff_mul_le positive, Nat.succ_mul]
  omega

theorem framesToFill_le (positive : 0 < config.columnsPerFrame) :
    config.framesToFill ≤ config.columns := by
  have full : ¬ config.columns * config.columnsPerFrame < config.columns :=
    Nat.not_lt.mpr (Nat.le_mul_of_pos_right _ positive)
  exact Nat.not_lt.mp (mt (lt_framesToFill_iff positive).mp full)

end Config

namespace Preview

variable {config : Config} {preview fresh : Preview} {store next : Store} {frames : Nat}

theorem refresh_of_stale (h : preview.revision ≠ some store.revision) :
    preview.refresh store = (preview.restart store.program).stamped (some store.revision) := by
  rw [refresh, if_neg h, stamped]

theorem refresh_of_current (h : preview.revision = some store.revision) :
    preview.refresh store = preview := by
  rw [refresh, if_pos h]

theorem frame_eq (preview : Preview) (store : Store) :
    preview.frame store =
      (!(preview.refresh store).isComplete && (preview.refresh store).config.columnsPerFrame ≠ 0,
        drawColumns (preview.refresh store).config.columnsPerFrame (preview.refresh store)) := rfl

theorem frame_of_current (h : preview.revision = some store.revision)
    (same : next.revision = store.revision) : preview.frame next = preview.frame store := by
  have current : preview.revision = some next.revision := by rw [h, same]
  rw [frame_eq, frame_eq, refresh_of_current h, refresh_of_current current]

theorem frame_of_stale (h : preview.revision ≠ some store.revision) :
    (preview.frame store).2 =
      (drawColumns preview.config.columnsPerFrame (preview.restart store.program)).stamped
        (some store.revision) := by
  rw [frame_eq, refresh_of_stale h, drawColumns_stamped]
  rfl

/-- The preview has drawn a number of frames since the program of the store last changed: what its
next frame starts from are the columns of these frames, drawn by any preview after a restart. -/
structure Follows (config : Config) (store : Store) (frames : Nat) (preview : Preview) : Prop where
  fits : preview.Fits config
  past : ∀ revision, preview.revision = some revision → revision ≤ store.revision
  refreshed : ∀ fresh : Preview, fresh.Fits config →
    preview.refresh store =
      (drawColumns (frames * config.columnsPerFrame) (fresh.restart store.program)).stamped
        (some store.revision)

namespace Follows

theorem of_stale (fits : preview.Fits config)
    (past : ∀ revision, preview.revision = some revision → revision < store.revision) :
    preview.Follows config store 0 where
  fits := fits
  past revision drawn := Nat.le_of_lt (past revision drawn)
  refreshed fresh fits' := by
    have stale : preview.revision ≠ some store.revision :=
      fun drawn => Nat.lt_irrefl _ (past _ drawn)
    rw [refresh_of_stale stale, fits.restart_eq fits', Nat.zero_mul, drawColumns]
    rfl

theorem of_new (program : Program) (h : new config = .ok preview) :
    preview.Follows config (.new program) 0 := by
  refine of_stale (fits_of_new h) fun revision drawn => ?_
  simp only [new] at h
  split at h
  · cases h
  · cases h
    cases drawn

theorem changed (h : preview.Follows config store frames)
    (newer : next.revision = store.revision + 1) : preview.Follows config next 0 :=
  of_stale h.fits fun revision drawn => by
    have := h.past revision drawn
    omega

variable (valid : config.validate = .ok ()) (h : preview.Follows config store frames)
include valid h

theorem frame_eq (fits : fresh.Fits config) :
    preview.frame store =
      (decide (frames * config.columnsPerFrame < config.columns),
        (drawColumns ((frames + 1) * config.columnsPerFrame) (fresh.restart store.program)).stamped
          (some store.revision)) := by
  obtain ⟨-, positive, -⟩ := Config.bounds_of_validate valid
  have restarted := fits.restart store.program
  have begun := (restarted.drawColumns (frames * config.columnsPerFrame)).stamped
    (some store.revision)
  have column := restarted.column_drawColumns (Nat.zero_le _) (frames * config.columnsPerFrame)
  rw [column_restart, Nat.zero_add] at column
  rw [Preview.frame_eq, h.refreshed fresh fits, begun.configured, drawColumns_stamped,
    ← drawColumns_add, ← Nat.succ_mul]
  congr 1
  rw [Bool.eq_iff_iff, Bool.and_eq_true, Bool.not_eq_true', ← Bool.not_eq_true,
    begun.isComplete_iff, column_stamped, column, decide_eq_true_iff, decide_eq_true_iff]
  omega

theorem frame : (preview.frame store).2.Follows config store (frames + 1) := by
  have current (fresh : Preview) (fits : fresh.Fits config) :=
    congrArg Prod.snd (h.frame_eq valid fits)
  have drawn := (h.fits.restart store.program).drawColumns ((frames + 1) * config.columnsPerFrame)
  have revision : (preview.frame store).2.revision = some store.revision := by
    rw [current preview h.fits, revision_stamped]
  refine ⟨?_, ?_, ?_⟩
  · rw [current preview h.fits]
    exact drawn.stamped _
  · intro revision' same
    rw [revision, Option.some.injEq] at same
    exact Nat.le_of_eq same.symm
  · intro fresh fits
    rw [refresh_of_current revision, current fresh fits]

theorem drawn_iff :
    (preview.frame store).1 = true ↔ frames * config.columnsPerFrame < config.columns := by
  rw [h.frame_eq valid h.fits, decide_eq_true_iff]

theorem frame_of_due (fits : fresh.Fits config)
    (due : config.columns ≤ (frames + 1) * config.columnsPerFrame) :
    (preview.frame store).2 = (fresh.runToEnd store.program).stamped (some store.revision) := by
  have restarted := fits.restart store.program
  rw [h.frame_eq valid fits, ← restarted.drawColumns_min rfl, Nat.min_eq_left due, runToEnd,
    restarted.configured]

theorem framesWithin_of_full (fits : fresh.Fits config) (full : config.framesToFill ≤ frames)
    (fuel : Nat) :
    framesWithin store (fuel + 1) preview =
      (config.framesToFill - frames,
        (fresh.runToEnd store.program).stamped (some store.revision)) := by
  obtain ⟨-, positive, -⟩ := Config.bounds_of_validate valid
  have done := mt (Config.lt_framesToFill_iff positive).mpr (Nat.not_lt.mpr full)
  have last := h.frame_of_due valid fits (by
    rw [Nat.succ_mul]
    omega)
  simp only [framesWithin, mt (h.drawn_iff valid).mp done, Bool.false_eq_true, if_false, last,
    Nat.sub_eq_zero_of_le full]

theorem framesWithin_eq (fits : fresh.Fits config) {fuel : Nat}
    (enough : config.framesToFill ≤ frames + fuel) :
    framesWithin store (fuel + 1) preview =
      (config.framesToFill - frames,
        (fresh.runToEnd store.program).stamped (some store.revision)) := by
  obtain ⟨-, positive, -⟩ := Config.bounds_of_validate valid
  induction fuel generalizing frames preview with
  | zero => exact h.framesWithin_of_full valid fits enough 0
  | succ fuel ih =>
      rcases Nat.lt_or_ge frames config.framesToFill with left | full
      · have drawn := (h.drawn_iff valid).mpr ((Config.lt_framesToFill_iff positive).mp left)
        have rest := ih (h.frame valid) (by omega)
        rw [framesWithin]
        simp only [drawn, if_true, rest]
        congr 1
        omega
      · exact h.framesWithin_of_full valid fits full (fuel + 1)

end Follows

end Preview

end SoundEffect
