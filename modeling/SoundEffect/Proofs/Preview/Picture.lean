import SoundEffect.Proofs.Preview.Columns
import SoundEffect.Proofs.Simulator.Samples

namespace SoundEffect

theorem Config.maxTicks_of_validate {config : Config} (valid : config.validate = .ok ()) :
    config.maxTicks = 2 * config.columns := by
  obtain ⟨⟨-, bounded⟩, -⟩ := bounds_of_validate valid
  simp only [maxColumns] at bounded
  simp only [maxTicks, ticksPerColumn]
  omega

namespace Preview

open BarChart

variable {config : Config} {preview : Preview} {segments : List Segment}

def cellSamples (config : Config) (segments : List Segment) (cell : Nat) : List Sample :=
  (Simulator.tick^[2 * cell + 1] (.start config segments)).samples ++
    (Simulator.tick^[2 * cell + 2] (.start config segments)).samples

variable (config segments) in
theorem length_samples {t : Nat} (executed : t < config.maxTicks) :
    (Simulator.tick^[t + 1] (.start config segments)).samples.length = 4 :=
  (Simulator.samples_iterate config segments executed).1

theorem getElem?_cellSamples {x : Nat} (executed : x / 4 < config.maxTicks) :
    (cellSamples config segments (x / 8))[x % 8]? =
      (Simulator.tick^[x / 4 + 1] (.start config segments)).samples[x % 4]? := by
  have before : 2 * (x / 8) ≤ x / 4 := by omega
  have first := length_samples config segments (Nat.lt_of_le_of_lt before executed)
  rw [cellSamples]
  rcases Nat.lt_or_ge (x % 8) 4 with early | late
  · have tick : x / 4 = 2 * (x / 8) := by omega
    have sample : x % 4 = x % 8 := by omega
    rw [List.getElem?_append_left (by omega), tick, sample]
  · have tick : x / 4 = 2 * (x / 8) + 1 := by omega
    have sample : x % 4 = x % 8 - 4 := by omega
    rw [List.getElem?_append_right (by omega), first, tick, sample]

theorem length_cellSamples {cell : Nat} (executed : 2 * cell + 1 < config.maxTicks) :
    (cellSamples config segments cell).length = 8 := by
  rw [cellSamples, List.length_append, length_samples config segments (Nat.lt_of_succ_lt executed),
    length_samples config segments executed]

structure Drawn (config : Config) (segments : List Segment) (cells : Nat) (preview : Preview) :
    Prop where
  fits : preview.Fits config
  column : preview.column = cells
  simulator : preview.simulator = Simulator.tick^[2 * cells] (.start config segments)
  bytes : ∀ cell y, cell < cells → y < panelHeight + panelHeight →
    preview.bitmap.byteAt cell y = cellByte config.fill (cellSamples config segments cell) y

theorem Fits.stride_eq (h : preview.Fits config) : preview.bitmap.stride = config.columns := by
  rw [Bitmap.stride, h.width, Bitmap.strideOf, cellWidth]
  omega

theorem drawn_restart (h : preview.Fits config) (program : Program) :
    Drawn config program.segments 0 (preview.restart program) where
  fits := h.restart program
  column := rfl
  simulator := congrArg (Simulator.start · program.segments) h.configured
  bytes _ _ none := absurd none (Nat.not_lt_zero _)

theorem Drawn.drawColumn {cells : Nat} (h : Drawn config segments cells preview)
    (room : cells < config.columns) :
    Drawn config segments (cells + 1) preview.drawColumn := by
  have incomplete : preview.isComplete = false := by
    rw [← Bool.not_eq_true, h.fits.isComplete_iff, h.column]
    exact Nat.not_le.mpr room
  have once : preview.simulator.tick =
      Simulator.tick^[2 * cells + 1] (.start config segments) := by
    rw [h.simulator, Function.iterate_succ_apply']
  have twice : preview.simulator.tick.tick =
      Simulator.tick^[2 * cells + 2] (.start config segments) := by
    rw [once, ← Function.iterate_succ_apply' Simulator.tick]
  have fits := h.fits.drawColumn
  have stride := h.fits.stride_eq
  obtain ⟨-, -, -, bytes⟩ := drawCell_spec config.fill cells (cellSamples config segments cells)
    h.fits.filled
  rw [drawColumn_of_incomplete incomplete, twice, once, h.fits.configured, h.column] at fits ⊢
  refine ⟨fits, rfl, rfl, fun cell y hc hy => ?_⟩
  have shown := bytes cell y (stride ▸ Nat.lt_of_le_of_lt (Nat.le_of_lt_succ hc) room)
    (h.fits.height ▸ hy)
  rcases Nat.lt_succ_iff_lt_or_eq.mp hc with before | rfl
  · rw [if_neg (fun here => Nat.ne_of_lt before here.1), h.bytes cell y before hy] at shown
    exact shown
  · rw [if_pos ⟨rfl, hy⟩] at shown
    exact shown

theorem drawn_drawColumns (h : preview.Fits config) (program : Program) {cells : Nat}
    (room : cells ≤ config.columns) :
    Drawn config program.segments cells (drawColumns cells (preview.restart program)) := by
  induction cells with
  | zero => exact drawn_restart h program
  | succ cells ih =>
      rw [drawColumns_succ]
      exact (ih (Nat.le_of_succ_le room)).drawColumn room

theorem Fits.runToEnd_eq (h : preview.Fits config) (program : Program) :
    preview.runToEnd program = Preview.drawColumns config.columns (preview.restart program) := by
  rw [runToEnd, (h.restart program).configured]

structure Pictured (config : Config) (program : Program) (preview : Preview) : Prop where
  width : preview.bitmap.width = 8 * config.columns
  height : preview.bitmap.height = 64
  simulator : preview.simulator =
    Simulator.tick^[2 * config.columns] ((Simulator.new config).reset program)
  ticks : preview.simulator.ticks = 2 * config.columns
  finished : preview.simulator.isFinished = true
  shown : ∀ x < 8 * config.columns, ∃ sample,
    (Simulator.tick^[x / 4 + 1] ((Simulator.new config).reset program)).samples[x % 4]? =
        some sample ∧
      sample.envelope.toNat ≤ 31 ∧ sample.frequency.toNat ≤ 31 ∧
      ∀ y < 32,
        preview.bitmap.get x y =
            (decide (31 - sample.envelope.toNat ≤ y) ^^ inverts config.fill x y) ∧
          preview.bitmap.get x (32 + y) =
            (decide (31 - sample.frequency.toNat ≤ y) ^^ inverts config.fill x (32 + y))

theorem exists_sample {x : Nat} (executed : x / 4 < config.maxTicks) :
    ∃ sample,
      (Simulator.tick^[x / 4 + 1] (.start config segments)).samples[x % 4]? = some sample ∧
        sample.envelope.toNat ≤ 31 ∧ sample.frequency.toNat ≤ 31 := by
  obtain ⟨four, bounded⟩ := Simulator.samples_iterate config segments executed
  have inside : x % 4 <
      (Simulator.tick^[x / 4 + 1] (.start config segments)).samples.length := by
    rw [four]
    exact Nat.mod_lt x (by decide)
  have sample := List.getElem?_eq_getElem inside
  exact ⟨_, sample, bounded _ (List.mem_of_getElem? sample)⟩

theorem Drawn.get_eq (h : Drawn config segments config.columns preview) {x y : Nat}
    (hx : x < 8 * config.columns) (hy : y < panelHeight + panelHeight) :
    preview.bitmap.get x y =
      (cellByte config.fill (cellSamples config segments (x / 8)) y).toNat.testBit (7 - x % 8) := by
  have width := h.fits.width
  rw [cellWidth] at width
  rw [Bitmap.get_eq_testBit (by omega) (h.fits.height ▸ hy), h.bytes (x / 8) y (by omega) hy]

theorem Drawn.pictured (valid : config.validate = .ok ()) {program : Program}
    (h : Drawn config program.segments config.columns preview) :
    Pictured config program preview := by
  have bound := Config.maxTicks_of_validate valid
  obtain ⟨configured, -, ticks, -⟩ :=
    Simulator.iterate_tick_start config program.segments (Nat.le_of_eq bound.symm)
  refine ⟨h.fits.width.trans (Nat.mul_comm _ _), h.fits.height, h.simulator,
    by rw [h.simulator, ticks], ?_, fun x hx => ?_⟩
  · rw [h.simulator, Simulator.isFinished, configured, ticks, bound, decide_eq_true_iff]
  · have executed : x / 4 < config.maxTicks := by omega
    obtain ⟨sample, drawn, envelope, frequency⟩ :=
      @exists_sample config program.segments x executed
    have eight := @length_cellSamples config program.segments (x / 8) (by omega)
    have here := (getElem?_cellSamples executed).trans drawn
    refine ⟨sample, drawn, envelope, frequency, fun y hy => ⟨?_, ?_⟩⟩
    · rw [h.get_eq hx (Nat.lt_add_right _ hy), testBit_cellByte_upper eight here hy,
        Nat.min_eq_left envelope]
    · have lower := h.get_eq hx (Nat.add_lt_add_left hy panelHeight)
      rw [testBit_cellByte_lower eight here hy, Nat.min_eq_left frequency] at lower
      exact lower

theorem Fits.drawsOut_iff (h : preview.Fits config) (program : Program) (cells : Nat)
    (last : Preview) :
    DrawsOut (preview.restart program) cells last ↔
      cells = config.columns ∧ last = preview.runToEnd program := by
  have ran := (h.restart program).drawsOut (Nat.zero_add config.columns)
  rw [← h.runToEnd_eq] at ran
  constructor
  · exact ran.unique
  · rintro ⟨rfl, rfl⟩
    exact ran

theorem runToEnd_pictured (valid : config.validate = .ok ()) :
    ∃ fresh, new config = .ok fresh ∧ fresh.Fits config ∧
      ∀ used : Preview, used.Fits config → ∀ program,
        (∀ cells last, DrawsOut (used.restart program) cells last ↔
          cells = config.columns ∧ last = used.runToEnd program) ∧
        Pictured config program (used.runToEnd program) := by
  obtain ⟨fresh, made⟩ := exists_new valid
  refine ⟨fresh, made, fits_of_new made, fun used fits program => ⟨fits.drawsOut_iff program, ?_⟩⟩
  rw [fits.runToEnd_eq]
  exact (drawn_drawColumns fits program (Nat.le_refl _)).pictured valid

theorem runToEnd_pictured_base :
    Config.pal.validate = .ok () ∧
      ∃ fresh, new .pal = .ok fresh ∧
        DrawsOut (fresh.restart .base) Config.pal.columns (fresh.runToEnd .base) ∧
        Pictured .pal .base (fresh.runToEnd .base) := by
  have valid : Config.pal.validate = .ok () := by decide
  obtain ⟨fresh, made, fits, pictured⟩ := runToEnd_pictured valid
  obtain ⟨ends, shown⟩ := pictured fresh fits .base
  exact ⟨valid, fresh, made, (ends _ _).mpr ⟨rfl, rfl⟩, shown⟩

end Preview

end SoundEffect
