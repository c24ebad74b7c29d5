import SoundEffect.Proofs.Preview.Picture
import SoundEffect.Proofs.Simulator.Horizon

namespace SoundEffect.Preview

open BarChart

variable {config wider : Config} {program : Program} {segments : List Segment} {preview : Preview}

theorem cellSamples_configured (paced : wider.tickLength = config.tickLength) (program : Program)
    {cell : Nat} (executed : 2 * cell + 2 ≤ config.maxTicks)
    (executed' : 2 * cell + 2 ≤ wider.maxTicks) :
    cellSamples wider program.segments cell = cellSamples config program.segments cell := by
  have same {t : Nat} (early : t ≤ 2 * cell + 2) :
      (Simulator.after wider program t).samples = (Simulator.after config program t).samples := by
    rw [Simulator.after_configured paced program (Nat.le_trans early executed)
      (Nat.le_trans early executed'), Simulator.samples_configured]
  exact congrArg₂ (· ++ ·) (same (Nat.le_succ _)) (same (Nat.le_refl _))

theorem Drawn.row_eq (h : Drawn config segments config.columns preview) {y : Nat}
    (hy : y < panelHeight + panelHeight) :
    preview.bitmap.row y = (List.range config.columns).map fun cell =>
      cellByte config.fill (cellSamples config segments cell) y := by
  rw [h.fits.filled.row_eq (h.fits.height ▸ hy), h.fits.stride_eq]
  apply List.map_congr_left
  intro cell member
  exact h.bytes cell y (List.mem_range.mp member) hy

theorem Drawn.row_eq_nil (h : Drawn config segments config.columns preview) {y : Nat}
    (hy : panelHeight + panelHeight ≤ y) : preview.bitmap.row y = [] :=
  h.fits.filled.row_eq_nil (h.fits.height ▸ hy)

theorem Drawn.take_row {wide : Preview} (valid : config.validate = .ok ())
    (valid' : wider.validate = .ok ()) (paced : wider.tickLength = config.tickLength)
    (narrower : config.columns ≤ wider.columns) (filled : wider.fill = config.fill)
    (h : Drawn config program.segments config.columns preview)
    (h' : Drawn wider program.segments wider.columns wide) (y : Nat) :
    (wide.bitmap.row y).take config.columns = preview.bitmap.row y := by
  have bound := Config.maxTicks_of_validate valid
  have bound' := Config.maxTicks_of_validate valid'
  rcases Nat.lt_or_ge y (panelHeight + panelHeight) with inside | below
  · rw [h.row_eq inside, h'.row_eq inside, ← List.map_take, List.take_range,
      Nat.min_eq_left narrower]
    apply List.map_congr_left
    intro cell member
    have room : cell < config.columns := List.mem_range.mp member
    rw [filled, cellSamples_configured paced program (by omega) (by omega)]
  · rw [h.row_eq_nil below, h'.row_eq_nil below, List.take_nil]

theorem columns_only_cut_off (valid : config.validate = .ok ()) (valid' : wider.validate = .ok ())
    (paced : wider.tickLength = config.tickLength) (narrower : config.columns ≤ wider.columns)
    (program : Program) :
    (∀ t ≤ 2 * config.columns,
        (Simulator.after wider program t).trace = (Simulator.after config program t).trace) ∧
      (program.traces config).length = 2 * config.columns ∧
      (program.traces wider).take (2 * config.columns) = program.traces config ∧
      (∃ rows text rows' text', program.traceCsv config = .ok (rows, text) ∧
        program.traceCsv wider = .ok (rows', text') ∧ text <+: text') ∧
      (wider.fill = config.fill →
        ∃ fresh wide, new config = .ok fresh ∧ new wider = .ok wide ∧
          fresh.Fits config ∧ wide.Fits wider ∧
          ∀ used used' : Preview, used.Fits config → used'.Fits wider → ∀ y,
            ((used'.runToEnd program).bitmap.row y).take config.columns =
              (used.runToEnd program).bitmap.row y) := by
  have bound := Config.maxTicks_of_validate valid
  have bound' := Config.maxTicks_of_validate valid'
  have within : config.maxTicks ≤ wider.maxTicks := by omega
  refine ⟨?_, ?_, ?_, Program.traceCsv_prefix paced within program valid valid', ?_⟩
  · intro t executed
    rw [Simulator.after_configured paced program (by omega) (by omega), Simulator.trace_configured]
  · rw [Program.traces_eq_map, List.length_map, List.length_range, bound]
  · rw [← bound]
    exact Program.take_traces paced within program
  · intro filled
    obtain ⟨fresh, made⟩ := exists_new valid
    obtain ⟨wide, made'⟩ := exists_new valid'
    refine ⟨fresh, wide, made, made', fits_of_new made, fits_of_new made', ?_⟩
    intro used used' fits fits' y
    rw [fits.runToEnd_eq, fits'.runToEnd_eq]
    exact Drawn.take_row valid valid' paced narrower filled
      (drawn_drawColumns fits program (Nat.le_refl _))
      (drawn_drawColumns fits' program (Nat.le_refl _)) y

def glimpse : Config := ⟨3, 20, 1, .textured⟩

theorem columns_only_cut_off_glimpse :
    glimpse.validate = .ok () ∧ Config.pal.validate = .ok () ∧
      Config.pal.tickLength = glimpse.tickLength ∧ glimpse.columns ≤ Config.pal.columns ∧
      Config.pal.fill = glimpse.fill ∧
      (Simulator.after .pal .base 6).trace = (Simulator.after glimpse .base 6).trace ∧
      (Simulator.after .pal .base 7).trace ≠ (Simulator.after glimpse .base 7).trace ∧
      (Program.base.traces .pal).take 6 = Program.base.traces glimpse ∧
      ∃ fresh wide, new glimpse = .ok fresh ∧ new .pal = .ok wide ∧
        ∀ y, ((wide.runToEnd .base).bitmap.row y).take 3 = (fresh.runToEnd .base).bitmap.row y := by
  have valid : glimpse.validate = .ok () := by decide
  have valid' : Config.pal.validate = .ok () := by decide
  obtain ⟨traces, -, rows, -, pictures⟩ :=
    columns_only_cut_off valid valid' rfl (by decide) .base
  obtain ⟨fresh, wide, made, made', fits, fits', begins⟩ := pictures rfl
  exact ⟨valid, valid', rfl, by decide, rfl, traces 6 (by decide), by decide +kernel, rows,
    fresh, wide, made, made', begins fresh wide fits fits'⟩

end SoundEffect.Preview
