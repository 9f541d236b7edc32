import Nmux.Client.Surface
import Nmux.Lib.Overwrite

/-! What the checks on a surface update mean, and what `apply_rows` does once they pass. -/
namespace Nmux.Client

open Lib (overwrite)
open Lib.Check

@[simp] theorem validatePatchKind_eq_ok {kind : Protocol.PatchKind} :
    validatePatchKind kind = .ok () ↔ kind.known = true := by
  simp [validatePatchKind]

@[simp] theorem validateSurfaceKind_eq_ok {surface : Protocol.SurfaceKind} :
    validateSurfaceKind surface = .ok () ↔ surface.known = true := by
  simp [validateSurfaceKind]

@[simp] theorem validateCursorSummary_some {cursor : CursorSummary} :
    validateCursorSummary (some cursor) = .ok () ↔ cursor.shape.known = true := by
  simp [validateCursorSummary]

@[simp] theorem validateTerminalModeSummary_eq_ok {modes : TerminalModeSummary} :
    validateTerminalModeSummary modes = .ok () ↔
      modes.mouseTrackingMode.known = true ∧ modes.mouseFormat.known = true := by
  simp [validateTerminalModeSummary, check_bind_eq_ok]

@[simp] theorem validateCellRunStyleIds_eq_ok {runs : List CellRunSummary}
    {styles : List StyleSummary} :
    validateCellRunStyleIds runs styles = .ok () ↔
      ∀ run ∈ runs, run.styleId.toNat < max styles.length 1 := by
  simp [validateCellRunStyleIds]

@[simp] theorem validateRowUpdateStyleIds_eq_ok {rows : List SurfaceRowUpdate}
    {styles : List StyleSummary} :
    validateRowUpdateStyleIds rows styles = .ok () ↔
      ∀ row ∈ rows, ∀ run ∈ row.runs, run.styleId.toNat < max styles.length 1 := by
  simp [validateRowUpdateStyleIds]

/-- Runs without a hyperlink pass against any table. -/
theorem validateRowUpdateHyperlinkIds_of_zero {rows : List SurfaceRowUpdate}
    {hyperlinks : List HyperlinkSummary} (h : ∀ row ∈ rows, ∀ run ∈ row.runs, run.hyperlinkId = 0) :
    validateRowUpdateHyperlinkIds rows hyperlinks = .ok () := by
  simp only [validateRowUpdateHyperlinkIds, validateCellRunHyperlinkIds, each_eq_ok, require_eq_ok]
  intro row hrow run hrun
  simp [h row hrow run hrun]

@[simp] theorem validateRowUpdateTerminalEnums_eq_ok {rows : List SurfaceRowUpdate} :
    validateRowUpdateTerminalEnums rows = .ok () ↔ ∀ row ∈ rows,
      row.semanticPrompt.known = true ∧ ∀ run ∈ row.runs, run.semanticContent.known = true := by
  simp [validateRowUpdateTerminalEnums, validateRowSemanticPrompt, validateCellRunSemanticContent,
    check_bind_eq_ok]

theorem validateRowUpdateIndicesFrom_eq_ok {rowCount : Nat} {seen : List Bool}
    {rows : List SurfaceRowUpdate} :
    validateRowUpdateIndicesFrom rowCount seen rows = .ok () ↔
      (∀ row ∈ rows, seen[row.row.toNat]? = some false) ∧ (rows.map (·.row)).Nodup := by
  induction rows generalizing seen with
  | nil => simp [validateRowUpdateIndicesFrom]
  | cons row rows ih =>
    -- once this row is marked, a later row is unmarked exactly if it is another row
    have hmark (other : SurfaceRowUpdate) (h : seen[row.row.toNat]? = some false) :
        (seen.set row.row.toNat true)[other.row.toNat]? = some false ↔
          row.row ≠ other.row ∧ seen[other.row.toNat]? = some false := by
      have hlt := (List.getElem?_eq_some_iff.mp h).1
      by_cases hrow : row.row = other.row
      · simp [← hrow, hlt]
      · rw [List.getElem?_set_ne fun h => hrow (UInt32.toNat_inj.mp h)]
        simp [hrow]
    match hseen : seen[row.row.toNat]? with
    | none => simp [validateRowUpdateIndicesFrom, hseen]
    | some true => simp [validateRowUpdateIndicesFrom, hseen]
    | some false =>
      simp only [validateRowUpdateIndicesFrom, hseen, ih, List.forall_mem_cons, List.map_cons,
        List.nodup_cons, List.mem_map, true_and]
      constructor
      · rintro ⟨hrest, hnodup⟩
        refine ⟨fun other h => ((hmark other hseen).mp (hrest other h)).2, ?_, hnodup⟩
        rintro ⟨other, h, heq⟩
        exact ((hmark other hseen).mp (hrest other h)).1 heq.symm
      · rintro ⟨hrest, hnew, hnodup⟩
        exact ⟨fun other h => (hmark other hseen).mpr
          ⟨fun heq => hnew ⟨other, h, heq.symm⟩, hrest other h⟩, hnodup⟩

/-- The index check passes exactly on rows inside the surface, none of them repeated. -/
theorem validateRowUpdateIndices_eq_ok {rowCount : Nat} {rows : List SurfaceRowUpdate} :
    validateRowUpdateIndices rows rowCount = .ok () ↔
      (∀ row ∈ rows, row.row.toNat < rowCount) ∧ (rows.map (·.row)).Nodup := by
  rw [validateRowUpdateIndices, validateRowUpdateIndicesFrom_eq_ok]
  simp [List.getElem?_replicate]

/-- Rows inside the surface are written over it. -/
theorem applyRows_eq_overwrite {rows : UInt32} {rowData : List ClientRow}
    {updates : List SurfaceRowUpdate} (h : ∀ row ∈ updates, row.row.toNat < rowData.length) :
    applyRows rows rowData updates =
      .ok (overwrite rowData (updates.map fun row => (row.row.toNat, row.clientRow))) := by
  induction updates generalizing rowData with
  | nil => rfl
  | cons row rest ih =>
    have hrow := h row (by simp)
    rw [applyRows, if_pos hrow, ih fun other hother => by simpa using h other (by simp [hother])]
    rfl

end Nmux.Client
