import SoundEffect.Preview
import SoundEffect.Proofs.BarChart.Cells
import SoundEffect.Proofs.Simulator.Substeps

namespace SoundEffect

theorem Config.bounds_of_validate {config : Config} (h : config.validate = .ok ()) :
    (0 < config.columns ∧ config.columns ≤ maxColumns) ∧
      0 < config.columnsPerFrame ∧ config.columnsPerFrame ≤ config.columns := by
  simp only [validate] at h
  split at h
  · cases h
  · split at h
    · cases h
    · split at h
      · cases h
      · omega

namespace Preview

variable {config : Config} {preview : Preview}

theorem exists_new (valid : config.validate = .ok ()) : ∃ fresh, new config = .ok fresh := by
  rw [new, valid]
  exact ⟨_, rfl⟩

@[simp] theorem column_restart (preview : Preview) (program : Program) :
    (preview.restart program).column = 0 := rfl

theorem drawColumn_of_complete (h : preview.isComplete = true) : preview.drawColumn = preview := by
  rw [drawColumn, if_pos h]

theorem drawColumn_of_incomplete (h : preview.isComplete = false) :
    preview.drawColumn =
      { preview with
        simulator := preview.simulator.tick.tick
        bitmap := BarChart.drawCell preview.config.fill preview.bitmap preview.column
          (preview.simulator.tick.samples ++ preview.simulator.tick.tick.samples)
        column := preview.column + 1 } := by
  rw [drawColumn, if_neg (by simp [h])]
  simp [Simulator.run, Config.ticksPerColumn]

theorem drawColumns_add (m n : Nat) (preview : Preview) :
    drawColumns (m + n) preview = drawColumns n (drawColumns m preview) := by
  induction m generalizing preview with
  | zero => rw [Nat.zero_add, drawColumns]
  | succ m ih => rw [Nat.succ_add, drawColumns, ih, drawColumns]

theorem drawColumns_succ (n : Nat) (preview : Preview) :
    drawColumns (n + 1) preview = (drawColumns n preview).drawColumn :=
  drawColumns_add n 1 preview

theorem drawColumns_of_complete (h : preview.isComplete = true) (n : Nat) :
    drawColumns n preview = preview := by
  induction n with
  | zero => rfl
  | succ n ih => rw [drawColumns, drawColumn_of_complete h, ih]

def stamped (preview : Preview) (revision : Option Nat) : Preview :=
  { preview with revision := revision }

@[simp] theorem column_stamped (preview : Preview) (revision : Option Nat) :
    (preview.stamped revision).column = preview.column := rfl

@[simp] theorem revision_stamped (preview : Preview) (revision : Option Nat) :
    (preview.stamped revision).revision = revision := rfl

theorem drawColumn_stamped (preview : Preview) (revision : Option Nat) :
    (preview.stamped revision).drawColumn = preview.drawColumn.stamped revision := by
  cases complete : preview.isComplete with
  | true =>
      rw [drawColumn_of_complete complete]
      exact drawColumn_of_complete complete
  | false =>
      rw [drawColumn_of_incomplete complete]
      exact drawColumn_of_incomplete complete

theorem drawColumns_stamped (n : Nat) (preview : Preview) (revision : Option Nat) :
    drawColumns n (preview.stamped revision) = (drawColumns n preview).stamped revision := by
  induction n generalizing preview with
  | zero => rfl
  | succ n ih => rw [drawColumns, drawColumn_stamped, ih, drawColumns]

structure Fits (config : Config) (preview : Preview) : Prop where
  configured : preview.config = config
  width : preview.bitmap.width = config.columns * BarChart.cellWidth
  height : preview.bitmap.height = BarChart.panelHeight * 2
  filled : preview.bitmap.Filled

theorem fits_of_new (h : new config = .ok preview) : preview.Fits config := by
  simp only [new] at h
  split at h
  · cases h
  · cases h
    exact ⟨rfl, rfl, rfl, Bitmap.filled_blank _ _⟩

namespace Fits

theorem stamped (h : preview.Fits config) (revision : Option Nat) :
    (preview.stamped revision).Fits config :=
  ⟨h.configured, h.width, h.height, h.filled⟩

theorem restart (h : preview.Fits config) (program : Program) :
    (preview.restart program).Fits config :=
  ⟨h.configured, h.width, h.height, Bitmap.filled_blank _ _⟩

theorem drawColumn (h : preview.Fits config) : preview.drawColumn.Fits config := by
  cases complete : preview.isComplete with
  | true => rwa [drawColumn_of_complete complete]
  | false =>
      rw [drawColumn_of_incomplete complete]
      obtain ⟨width, height, filled, -⟩ := BarChart.drawCell_spec preview.config.fill preview.column
        (preview.simulator.tick.samples ++ preview.simulator.tick.tick.samples) h.filled
      exact ⟨by simpa [Preview.config] using h.configured, width.trans h.width,
        height.trans h.height, filled⟩

theorem drawColumns (h : preview.Fits config) (n : Nat) :
    (Preview.drawColumns n preview).Fits config := by
  induction n generalizing preview with
  | zero => exact h
  | succ n ih => exact ih h.drawColumn

theorem restart_eq {used : Preview} (h : used.Fits config) (h' : preview.Fits config)
    (program : Program) :
    used.restart program = (preview.restart program).stamped used.revision := by
  have configured : used.simulator.config = preview.simulator.config :=
    h.configured.trans h'.configured.symm
  have width : used.bitmap.width = preview.bitmap.width := h.width.trans h'.width.symm
  have height : used.bitmap.height = preview.bitmap.height := h.height.trans h'.height.symm
  simp only [Preview.restart, Preview.stamped, Simulator.reset, Bitmap.clear, configured, width,
    height]

theorem isComplete_iff (h : preview.Fits config) :
    preview.isComplete = true ↔ config.columns ≤ preview.column := by
  rw [isComplete, h.configured, decide_eq_true_iff]

theorem column_drawColumns (h : preview.Fits config) (begun : preview.column ≤ config.columns)
    (n : Nat) :
    (Preview.drawColumns n preview).column = min config.columns (preview.column + n) := by
  induction n with
  | zero => exact (Nat.min_eq_right begun).symm
  | succ n ih =>
      rw [drawColumns_succ]
      cases complete : (Preview.drawColumns n preview).isComplete with
      | true =>
          have full := (h.drawColumns n).isComplete_iff.mp complete
          rw [drawColumn_of_complete complete]
          omega
      | false =>
          have room := mt (h.drawColumns n).isComplete_iff.mpr (by simp [complete])
          rw [drawColumn_of_incomplete complete]
          simp only
          omega

theorem drawColumns_min (h : preview.Fits config) (begun : preview.column = 0) (n : Nat) :
    Preview.drawColumns (min config.columns n) preview = Preview.drawColumns n preview := by
  rcases Nat.le_total n config.columns with short | long
  · rw [Nat.min_eq_right short]
  · have column := h.column_drawColumns (begun ▸ Nat.zero_le _) config.columns
    have full := (h.drawColumns config.columns).isComplete_iff.mpr (by omega)
    obtain ⟨rest, rfl⟩ := Nat.exists_eq_add_of_le long
    rw [Nat.min_eq_left long, drawColumns_add, drawColumns_of_complete full]

end Fits

inductive DrawsOut : Preview → Nat → Preview → Prop
  | complete {now : Preview} : now.isComplete = true → DrawsOut now 0 now
  | draw {now last : Preview} {cells : Nat} : now.isComplete = false →
      DrawsOut now.drawColumn cells last → DrawsOut now (cells + 1) last

theorem DrawsOut.unique {now last last' : Preview} {cells cells' : Nat}
    (h : DrawsOut now cells last) (h' : DrawsOut now cells' last') :
    cells' = cells ∧ last' = last := by
  induction h generalizing cells' with
  | complete done =>
      cases h' with
      | complete => exact ⟨rfl, rfl⟩
      | draw incomplete => rw [done] at incomplete; cases incomplete
  | draw incomplete _ ih =>
      cases h' with
      | complete done => rw [done] at incomplete; cases incomplete
      | draw _ rest =>
          obtain ⟨rfl, same⟩ := ih rest
          exact ⟨rfl, same⟩

theorem Fits.drawsOut (h : preview.Fits config) {cells : Nat}
    (left : preview.column + cells = config.columns) :
    DrawsOut preview cells (Preview.drawColumns cells preview) := by
  -- each cell moves the column on by one, and the width stays
  induction cells generalizing preview with
  | zero => exact .complete (h.isComplete_iff.mpr (Nat.le_of_eq left.symm))
  | succ cells ih =>
      have incomplete : preview.isComplete = false := by
        rw [← Bool.not_eq_true, h.isComplete_iff]
        omega
      have moved : preview.drawColumn.column = preview.column + 1 := by
        rw [drawColumn_of_incomplete incomplete]
      exact .draw incomplete (ih h.drawColumn (by omega))

end Preview

end SoundEffect
