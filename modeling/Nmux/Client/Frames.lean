import Nmux.Core.Frames
import Nmux.Client.PaneContent
import Nmux.Patch.Planning

/-! Reading a surface frame. A client decodes a frame and checks it on its own before it looks at any
surface it caches; the frames of a pane that is `Deliverable` get through to what their content says. -/
namespace Nmux

open Client
open Lib.Check

namespace Client

def requiredString (value : Option String) (field : String) : Except String String :=
  match value with
  | none => .error ("missing " ++ field)
  | some value => if value.isEmpty then .error ("empty " ++ field) else .ok value

/-- `surface_update_from_frame`. -/
def surfaceUpdateFromFrame (frame : SurfaceFrame) : Except String SurfaceUpdate :=
  match frame.body with
  | .snapshot snapshot => do
    let update := decodedSnapshot snapshot
    validateSurfaceKind snapshot.surface
    require snapshot.rowsData.isSome "pane surface has no rows"
    validateHyperlinkTable update.hyperlinks
    validateRowUpdateTerminalEnums update.rowUpdates
    validateRowUpdateStyleIds update.rowUpdates update.styles
    validateRowUpdateHyperlinkIds update.rowUpdates update.hyperlinks
    validateCursorSummary update.cursor
    validateTerminalModeSummary update.modes
    validatePaletteDiffScope .snapshot none update.colors
    let paneId ← requiredString snapshot.paneId "surface snapshot pane_id"
    return { update with paneId }
  | .patch patch => do
    let update := decodedPatch patch
    validatePatchKind patch.kind
    require patch.rowUpdates.isSome "pane surface patch has no rows"
    validateRowUpdateTerminalEnums update.rowUpdates
    validateNoRowPatchPayload patch.kind update.rowUpdates
    validateCursorSummary update.cursor
    validateTerminalModeSummary update.modes
    validatePaletteDiffScope .patch (some patch.kind) update.colors
    let paneId ← requiredString patch.paneId "surface patch pane_id"
    return { update with paneId }

end Client

/-- What a read patch keeps of its frame. -/
theorem surfaceUpdateFromFrame_patch {sessionId connectionId : String} {seq : UInt64}
    {patch : Protocol.PaneSurfacePatch} {update : SurfaceUpdate}
    (h : surfaceUpdateFromFrame ⟨sessionId, connectionId, seq, .patch patch⟩ = .ok update) :
    update.kind = .patch ∧ update.baseVersion = some patch.baseVersion ∧
      patch.paneId = some update.paneId := by
  simp only [surfaceUpdateFromFrame, check_bind_eq_ok] at h
  obtain ⟨-, -, -, -, -, -, -, hread⟩ := h
  obtain ⟨paneId, hpane, hupdate⟩ := bind_eq_ok.mp hread
  obtain rfl := Except.ok.inj hupdate
  refine ⟨rfl, rfl, ?_⟩
  cases hid : patch.paneId with
  | none => simp [requiredString, hid] at hpane
  | some id =>
    rw [hid, requiredString] at hpane
    split at hpane
    · cases hpane
    · rw [Except.ok.inj hpane]

/-! ### Frames of a pane -/

/-- A pane whose snapshot frame a client reads and accepts. -/
structure PaneState.Deliverable (pane : PaneState) : Prop where
  published : pane.Publishable
  rowsKnown : pane.RowsKnown
  named : pane.id.isEmpty = false

theorem requiredString_some {value field : String} (h : value.isEmpty = false) :
    requiredString (some value) field = .ok value := by
  simp [requiredString, h]

section
variable {sessionId connectionId : String} {seq : UInt64}

/-- The snapshot frame of a deliverable pane reads as its snapshot. -/
theorem PaneState.Deliverable.snapshotFrame {pane : PaneState} (h : pane.Deliverable) :
    surfaceUpdateFromFrame ⟨sessionId, connectionId, seq, .snapshot pane.snapshotTable⟩ =
      .ok pane.snapshotContent := by
  have henums : validateRowUpdateTerminalEnums pane.snapshotContent.rowUpdates = .ok () := by
    rw [validateRowUpdateTerminalEnums_eq_ok, PaneState.snapshotContent_rowUpdates]
    simp only [List.forall_mem_map]
    exact fun row _ => h.rowsKnown row
  have hstyles : validateRowUpdateStyleIds pane.snapshotContent.rowUpdates pane.styles = .ok () := by
    rw [validateRowUpdateStyleIds_eq_ok]
    exact (pane.snapshot_styles_known _).mpr h.published.stylesKnown
  have hlinks : validateRowUpdateHyperlinkIds pane.snapshotContent.rowUpdates
      pane.snapshotContent.hyperlinks = .ok () := by
    refine validateRowUpdateHyperlinkIds_of_zero ?_
    rw [PaneState.snapshotContent_rowUpdates]
    simp only [List.forall_mem_map]
    exact fun row _ run hrun => PaneSurface.mem_rowContent_runs_hyperlinkId _ row hrun
  have hkind : validateSurfaceKind pane.snapshotTable.surface = .ok () :=
    validateSurfaceKind_eq_ok.mpr h.published.surfaceKnown
  have hcursor : validateCursorSummary pane.snapshotContent.cursor = .ok () :=
    validateCursorSummary_some.mpr h.published.cursorKnown
  have hmodes : validateTerminalModeSummary pane.snapshotContent.modes = .ok () :=
    validateTerminalModeSummary_eq_ok.mpr ⟨h.published.trackingKnown, h.published.formatKnown⟩
  have hid : requiredString pane.snapshotTable.paneId "surface snapshot pane_id" = .ok pane.id :=
    requiredString_some h.named
  show (do
    validateSurfaceKind pane.snapshotTable.surface
    require true "pane surface has no rows"
    validateHyperlinkTable []
    validateRowUpdateTerminalEnums pane.snapshotContent.rowUpdates
    validateRowUpdateStyleIds pane.snapshotContent.rowUpdates pane.styles
    validateRowUpdateHyperlinkIds pane.snapshotContent.rowUpdates pane.snapshotContent.hyperlinks
    validateCursorSummary pane.snapshotContent.cursor
    validateTerminalModeSummary pane.snapshotContent.modes
    validatePaletteDiffScope .snapshot none pane.snapshotContent.colors
    let paneId ← requiredString pane.snapshotTable.paneId "surface snapshot pane_id"
    return { pane.snapshotContent with paneId }) = .ok pane.snapshotContent
  rw [hkind, henums, hstyles, hlinks, hcursor, hmodes, hid]
  rfl

/-- The patch frame of a pane that retains a sound patch reads as that patch. -/
theorem RetainedPatch.patchFrame {prev cur : PaneState} (h : RetainedPatch prev cur)
    (hcur : cur.Deliverable) :
    surfaceUpdateFromFrame ⟨sessionId, connectionId, seq, .patch (cur.patchTable prev.surfaceVersion)⟩ =
      .ok (cur.patchContent prev.surfaceVersion) := by
  have hkind : cur.lastPatchKind.known = true ∧ cur.lastPatchKind ≠ .fullRefreshRequired := by
    cases h.plan with
    | cursorOnly kind => exact ⟨kind ▸ rfl, kind ▸ by decide⟩
    | modeOnly kind => exact ⟨kind ▸ rfl, kind ▸ by decide⟩
    | colorOnly kind => exact ⟨kind ▸ rfl, kind ▸ by decide⟩
    | replaceRows kind => exact ⟨kind ▸ rfl, kind ▸ by decide⟩
  have henums : validateRowUpdateTerminalEnums (cur.patchContent prev.surfaceVersion).rowUpdates =
      .ok () := by
    rw [validateRowUpdateTerminalEnums_eq_ok]
    by_cases hrows : cur.lastPatchKind = .replaceRows
    · rw [patchContent_rowUpdates_replaceRows hrows]
      simp only [List.forall_mem_map]
      exact fun row _ => hcur.rowsKnown row.toNat
    · rw [patchContent_rowUpdates_other hrows]
      simp
  have hpayload : validateNoRowPatchPayload cur.lastPatchKind
      (cur.patchContent prev.surfaceVersion).rowUpdates = .ok () :=
    patchContent_payload
  have hknown : validatePatchKind (cur.patchTable prev.surfaceVersion).kind = .ok () :=
    validatePatchKind_eq_ok.mpr hkind.1
  have hcursor : validateCursorSummary (cur.patchContent prev.surfaceVersion).cursor = .ok () :=
    validateCursorSummary_some.mpr hcur.published.cursorKnown
  have hmodes : validateTerminalModeSummary (cur.patchContent prev.surfaceVersion).modes = .ok () :=
    validateTerminalModeSummary_eq_ok.mpr ⟨hcur.published.trackingKnown, hcur.published.formatKnown⟩
  have hscope := patchContent_palette_scope cur prev.surfaceVersion
  have hid : requiredString (cur.patchTable prev.surfaceVersion).paneId "surface patch pane_id" =
      .ok cur.id :=
    requiredString_some hcur.named
  show (do
    validatePatchKind (cur.patchTable prev.surfaceVersion).kind
    require true "pane surface patch has no rows"
    validateRowUpdateTerminalEnums (cur.patchContent prev.surfaceVersion).rowUpdates
    validateNoRowPatchPayload cur.lastPatchKind (cur.patchContent prev.surfaceVersion).rowUpdates
    validateCursorSummary (cur.patchContent prev.surfaceVersion).cursor
    validateTerminalModeSummary (cur.patchContent prev.surfaceVersion).modes
    validatePaletteDiffScope .patch (some cur.lastPatchKind) (cur.patchContent prev.surfaceVersion).colors
    let paneId ← requiredString (cur.patchTable prev.surfaceVersion).paneId "surface patch pane_id"
    return { cur.patchContent prev.surfaceVersion with paneId }) =
      .ok (cur.patchContent prev.surfaceVersion)
  rw [hknown, henums, hpayload, hcursor, hmodes, hscope, hid]
  rfl

end

end Nmux
