import Nmux.Client.SurfaceChecks

/-! The content of a pane's frames as a client decodes it, and the surface a client builds from the
snapshot. `PaneState.clientSurface` is that surface written out; a snapshot is accepted exactly when
the pane is `Publishable`, and then it is what the client holds. -/
namespace Nmux

open Client
open Lib (overwrite overwrite_eq_target)
open Lib.Check

def PaneState.snapshotContent (pane : PaneState) : SurfaceUpdate := decodedSnapshot pane.snapshotTable

def PaneState.patchContent (pane : PaneState) (baseVersion : UInt64) : SurfaceUpdate :=
  decodedPatch (pane.patchTable baseVersion)

/-! ### Rows of a frame -/

/-- The row update a client decodes for a row. -/
def PaneSurface.rowContent (surface : PaneSurface) (row : Nat) : SurfaceRowUpdate :=
  decodedSurfaceRow (surface.buildRowUpdate row)

/-- The rows of a client that holds this surface: one for each line, empty ones up to the declared
row count. -/
def PaneSurface.clientRows (surface : PaneSurface) : List ClientRow :=
  (List.range surface.rows.toNat).map fun row =>
    if row < surface.lines.length then (surface.rowContent row).clientRow else .empty

@[simp] theorem PaneSurface.clientRows_length (surface : PaneSurface) :
    surface.clientRows.length = surface.rows.toNat := by
  simp [clientRows]

theorem PaneSurface.clientRows_getElem? (surface : PaneSurface) {row : Nat}
    (h : row < surface.rows.toNat) :
    surface.clientRows[row]? = some
      (if row < surface.lines.length then (surface.rowContent row).clientRow else .empty) := by
  simp [clientRows, h]

@[simp] theorem PaneSurface.rowContent_row (surface : PaneSurface) (row : Nat) :
    (surface.rowContent row).row = UInt32.ofNat row := rfl

@[simp] theorem PaneSurface.rowContent_semanticPrompt (surface : PaneSurface) (row : Nat) :
    (surface.rowContent row).semanticPrompt = surface.semanticPrompts[row]?.getD .none := rfl

/-- The runs a client decodes are the row's runs without their hyperlink ids. -/
theorem PaneSurface.rowContent_runs (surface : PaneSurface) (row : Nat) :
    (surface.rowContent row).runs =
      (surface.rowRuns[row]?.getD [.plain (surface.lines[row]?.getD "")]).map
        fun run => { run with hyperlinkId := 0 } := by
  simp [rowContent, decodedSurfaceRow, buildRowUpdate, buildRow, decodedCellRun, buildCellRun]

/-- A row depends on the surface only through the five row vectors at its index. -/
theorem PaneSurface.rowContent_congr {a b : PaneSurface} {row : Nat}
    (hline : a.lines[row]? = b.lines[row]?) (hruns : a.rowRuns[row]? = b.rowRuns[row]?)
    (hprompt : a.semanticPrompts[row]? = b.semanticPrompts[row]?)
    (hdirty : a.dirtyRows[row]? = b.dirtyRows[row]?)
    (hkitty : a.kittyPlaceholders[row]? = b.kittyPlaceholders[row]?) :
    a.rowContent row = b.rowContent row := by
  simp only [rowContent, buildRowUpdate, buildRow, rowMetadata, hline, hruns, hprompt, hdirty, hkitty]

/-! ### The snapshot -/

theorem PaneState.snapshotContent_rowUpdates (pane : PaneState) :
    pane.snapshotContent.rowUpdates =
      (List.range pane.surfaceLines.length).map pane.paneSurface.rowContent := by
  refine List.ext_getElem? fun row => ?_
  by_cases h : row < pane.surfaceLines.length
  · simp [snapshotContent, decodedSnapshot, snapshotTable, PaneSurface.snapshotTable, paneSurface,
      PaneSurface.rowContent, PaneSurface.buildRowUpdate, h]
  · simp [snapshotContent, decodedSnapshot, snapshotTable, PaneSurface.snapshotTable, paneSurface, h]

/-- What a client must find in a snapshot of the pane to accept it. -/
structure PaneState.Publishable (pane : PaneState) : Prop where
  surfaceKnown : pane.surface.known = true
  cursorKnown : pane.cursor.shape.known = true
  trackingKnown : pane.modes.mouseTrackingMode.known = true
  formatKnown : pane.modes.mouseFormat.known = true
  rowsFit : pane.surfaceLines.length ≤ pane.rows.toNat
  stylesKnown : ∀ runs ∈ pane.paneSurface.rowRuns, ∀ run ∈ runs,
    run.styleId.toNat < max pane.styles.length 1

/-- The colors a snapshot carries: the whole palette, no difference. -/
def TerminalColors.summary (colors : TerminalColors) : TerminalColorSummary :=
  decodedTerminalColors (buildTerminalColors colors none true)

/-- The surface a client holds after a snapshot of the pane. -/
def PaneState.clientSurface (pane : PaneState) : ClientPaneSurface where
  paneId := pane.id
  version := pane.surfaceVersion
  cols := pane.cols
  rows := pane.rows
  surface := pane.surface
  cursor := some pane.cursor
  modes := pane.modes
  title := pane.terminalTitle
  workingDirectory := pane.terminalWorkingDirectory
  colors := pane.colors.summary
  styles := if pane.styles.isEmpty then defaultStyleSummaries else pane.styles
  hyperlinks := []
  rowData := pane.paneSurface.clientRows

theorem PaneSurface.mem_rowContent_runs_hyperlinkId (surface : PaneSurface) (row : Nat)
    {run : CellRunSummary} (h : run ∈ (surface.rowContent row).runs) : run.hyperlinkId = 0 := by
  rw [rowContent_runs] at h
  obtain ⟨run, -, rfl⟩ := List.mem_map.mp h
  rfl

/-- The runs of row `i` of the snapshot are style-checked exactly as the pane's own runs. -/
theorem PaneState.snapshot_styles_known (pane : PaneState) (bound : Nat) :
    (∀ row ∈ pane.snapshotContent.rowUpdates, ∀ run ∈ row.runs, run.styleId.toNat < bound) ↔
      ∀ runs ∈ pane.paneSurface.rowRuns, ∀ run ∈ runs, run.styleId.toNat < bound := by
  have hlen : pane.paneSurface.rowRuns.length = pane.surfaceLines.length := by simp [paneSurface]
  rw [snapshotContent_rowUpdates]
  simp only [List.forall_mem_map, List.mem_range]
  constructor
  · intro h runs hruns run hrun
    obtain ⟨row, hrow, rfl⟩ := List.getElem_of_mem hruns
    refine h row (hlen ▸ hrow) { run with hyperlinkId := 0 } ?_
    rw [PaneSurface.rowContent_runs, List.getElem?_eq_getElem hrow]
    exact List.mem_map_of_mem hrun
  · intro h row hrow run hrun
    rw [← hlen] at hrow
    rw [PaneSurface.rowContent_runs, List.getElem?_eq_getElem hrow] at hrun
    obtain ⟨sent, hsent, rfl⟩ := List.mem_map.mp hrun
    exact h _ (List.getElem_mem hrow) sent hsent

/-- Rows sent under their own index stay inside the declared rows exactly if there are not too
many of them; the index of the first row too many does not wrap around. -/
theorem range_rows_inside {len : Nat} (rows : UInt32) :
    (∀ row < len, (UInt32.ofNat row).toNat < rows.toNat) ↔ len ≤ rows.toNat := by
  constructor
  · intro h
    by_contra hlt
    have := h rows.toNat (by omega)
    simp at this
  · intro h row hrow
    have := rows.toNat_lt
    rw [UInt32.toNat_ofNat_of_lt' (by simp [UInt32.size]; omega)]
    omega

theorem ofNat_range_nodup {len : Nat} (h : len ≤ 2 ^ 32) :
    ((List.range len).map UInt32.ofNat).Nodup := by
  refine List.Nodup.map_on (fun i hi j hj hij => ?_) List.nodup_range
  have hi' : i < UInt32.size := by simp [UInt32.size] at *; omega
  have hj' : j < UInt32.size := by simp [UInt32.size] at *; omega
  rw [← UInt32.toNat_ofNat_of_lt' hi', ← UInt32.toNat_ofNat_of_lt' hj', hij]

theorem PaneState.snapshot_indices_valid (pane : PaneState) :
    validateRowUpdateIndices pane.snapshotContent.rowUpdates pane.rows.toNat = .ok () ↔
      pane.surfaceLines.length ≤ pane.rows.toNat := by
  rw [validateRowUpdateIndices_eq_ok, snapshotContent_rowUpdates]
  simp only [List.forall_mem_map, List.mem_range, PaneSurface.rowContent_row, List.map_map,
    range_rows_inside, and_iff_left_iff_imp]
  intro h
  have := pane.rows.toNat_lt
  exact ofNat_range_nodup (by omega)

/-- Writing the rows of the snapshot over empty rows gives the rows of the client surface. -/
theorem PaneState.snapshot_rows (pane : PaneState)
    (h : pane.surfaceLines.length ≤ pane.rows.toNat) :
    applyRows pane.rows (List.replicate pane.rows.toNat .empty) pane.snapshotContent.rowUpdates =
      .ok pane.paneSurface.clientRows := by
  have hmax := pane.rows.toNat_lt
  have hindex {row : Nat} (hrow : row < pane.surfaceLines.length) :
      (UInt32.ofNat row).toNat = row :=
    UInt32.toNat_ofNat_of_lt' (by simp [UInt32.size]; omega)
  have hinside := validateRowUpdateIndices_eq_ok.mp (pane.snapshot_indices_valid.mpr h)
  rw [applyRows_eq_overwrite (by simpa using hinside.1)]
  refine congrArg Except.ok (overwrite_eq_target (by simp; rfl) ?_ fun row => ?_)
  · rw [snapshotContent_rowUpdates]
    simp only [List.map_map, List.forall_mem_map, List.mem_range, Function.comp_apply,
      PaneSurface.rowContent_row]
    intro row hrow
    rw [hindex hrow, PaneSurface.clientRows_getElem? _ (by simpa [paneSurface] using by omega)]
    simp [paneSurface, hrow]
  · by_cases hrow : row < pane.surfaceLines.length
    · refine .inr ?_
      rw [snapshotContent_rowUpdates]
      simp only [List.map_map, List.mem_map, List.mem_range, Function.comp_apply,
        PaneSurface.rowContent_row]
      exact ⟨row, hrow, hindex hrow⟩
    · refine .inl ?_
      by_cases hlt : row < pane.rows.toNat
      · rw [PaneSurface.clientRows_getElem? _ hlt]
        simp [paneSurface, hlt, hrow]
      · rw [List.getElem?_eq_none (by simpa using hlt),
          List.getElem?_eq_none (by simpa [paneSurface] using hlt)]

/-- **A snapshot is accepted exactly when the pane is publishable.** The client then holds the
pane's client surface. -/
theorem PaneState.fromSnapshot_eq_ok (pane : PaneState) {surface : ClientPaneSurface} :
    ClientPaneSurface.fromSnapshot pane.snapshotContent = .ok surface ↔
      pane.Publishable ∧ surface = pane.clientSurface := by
  have hscope : validatePaletteDiffScope .snapshot none pane.snapshotContent.colors = .ok () := rfl
  have hcols : pane.snapshotContent.cols = some pane.cols := rfl
  have hrows : pane.snapshotContent.rows = some pane.rows := rfl
  have hsurface : pane.snapshotContent.surface = some pane.surface := rfl
  have hcursor : pane.snapshotContent.cursor = some pane.cursor := rfl
  have hmodes : pane.snapshotContent.modes = pane.modes := rfl
  have hstyles : pane.snapshotContent.styles = pane.styles := rfl
  have htable : validateHyperlinkTable pane.snapshotContent.hyperlinks = .ok () := rfl
  have hlinks : validateRowUpdateHyperlinkIds pane.snapshotContent.rowUpdates
      pane.snapshotContent.hyperlinks = .ok () := by
    refine validateRowUpdateHyperlinkIds_of_zero ?_
    rw [snapshotContent_rowUpdates]
    simp only [List.forall_mem_map]
    exact fun row _ run hrun => PaneSurface.mem_rowContent_runs_hyperlinkId _ row hrun
  have hcount : max (if pane.styles.isEmpty then defaultStyleSummaries else pane.styles).length 1 =
      max pane.styles.length 1 := by
    cases pane.styles <;> simp [defaultStyleSummaries]
  simp only [ClientPaneSurface.fromSnapshot, hscope, hcols, hrows, hsurface, hcursor, hmodes, hstyles,
    htable, hlinks, ok_bind, Option.elim_some, Option.getD_some, check_bind_eq_ok,
    validateSurfaceKind_eq_ok, validateCursorSummary_some, validateTerminalModeSummary_eq_ok,
    snapshot_indices_valid, validateRowUpdateStyleIds_eq_ok, hcount, snapshot_styles_known]
  constructor
  · rintro ⟨hkind, hshape, ⟨htracking, hformat⟩, hfit, hids, happly⟩
    rw [snapshot_rows pane hfit] at happly
    refine ⟨⟨hkind, hshape, htracking, hformat, hfit, hids⟩, ?_⟩
    exact (Except.ok.inj happly).symm
  · rintro ⟨⟨hkind, hshape, htracking, hformat, hfit, hids⟩, rfl⟩
    refine ⟨hkind, hshape, ⟨htracking, hformat⟩, hfit, hids, ?_⟩
    rw [snapshot_rows pane hfit]
    rfl

end Nmux
