import Nmux.Client.PaneContent
import Nmux.Core.PaneUpdate

/-! When the patch a pane retains is right. `RetainedPatch prev cur` relates a pane to the pane one
version earlier: what the kind, the row indices and the palette difference of `cur` must say for a
client that mirrors `prev` to reach `cur`. The soundness theorem is about the client alone; who
establishes and who keeps the relation is a matter of `apply_terminal_update`. -/
namespace Nmux

open Client
open Lib (overwrite_eq_target)
open Lib.Check

/-! ### The relation -/

/-- The retained palette difference leads from the old palette to the new one. -/
def PaletteCovered (diff : Option PaletteDiff) (old new : List UInt32) : Prop :=
  match diff with
  | none => old = new
  | some diff => diff.colors ≠ [] ∧ diff.start.toNat ≤ old.length ∧
      old.take diff.start.toNat ++ diff.colors = new

/-- The remembered row indices name rows the pane has, each once, whose enumerations a client knows,
and every row in which the two panes differ is among them. -/
structure RowsCovered (prev cur : PaneState) : Prop where
  inside : ∀ row ∈ cur.lastRowUpdateIndices, row.toNat < cur.surfaceLines.length
  nodup : cur.lastRowUpdateIndices.Nodup
  promptsKnown : ∀ row ∈ cur.lastRowUpdateIndices,
    (cur.paneSurface.rowContent row.toNat).semanticPrompt.known = true
  contentKnown : ∀ row ∈ cur.lastRowUpdateIndices,
    ∀ run ∈ (cur.paneSurface.rowContent row.toNat).runs, run.semanticContent.known = true
  cover : ∀ row, prev.paneSurface.clientRows[row]? = cur.paneSurface.clientRows[row]? ∨
    row ∈ cur.lastRowUpdateIndices.map UInt32.toNat

/-- What each kind of patch leaves to the client's cached surface, and what it covers itself. -/
inductive PatchPlan (prev cur : PaneState) : Prop
  | cursorOnly (kind : cur.lastPatchKind = .cursorOnly)
      (rows : prev.paneSurface.clientRows = cur.paneSurface.clientRows)
      (colors : cur.colors = prev.colors) (modes : cur.modes = prev.modes)
  | modeOnly (kind : cur.lastPatchKind = .modeOnly)
      (rows : prev.paneSurface.clientRows = cur.paneSurface.clientRows)
      (colors : cur.colors = prev.colors)
  | colorOnly (kind : cur.lastPatchKind = .colorOnly)
      (rows : prev.paneSurface.clientRows = cur.paneSurface.clientRows)
      (palette : PaletteCovered cur.lastPaletteDiff prev.colors.paletteRgba cur.colors.paletteRgba)
  | replaceRows (kind : cur.lastPatchKind = .replaceRows) (rows : RowsCovered prev cur)
      (colors : cur.colors = prev.colors)

/-- `cur` is one version after `prev`, and its patch leads from `prev` to it. -/
structure RetainedPatch (prev cur : PaneState) : Prop where
  id : cur.id = prev.id
  cols : cur.cols = prev.cols
  rows : cur.rows = prev.rows
  version : cur.surfaceVersion = prev.surfaceVersion + 1
  surface : cur.surface = prev.surface
  styles : cur.styles = prev.styles
  plan : PatchPlan prev cur

/-! ### What the relation depends on -/

/-- What a client sees of a pane is a function of what the pane sends. -/
theorem clientSurface_congr {a b : PaneState} (h : a.paneSurface = b.paneSurface) :
    a.clientSurface = b.clientSurface := by
  have hfield {α : Type} (f : PaneSurface → α) : f a.paneSurface = f b.paneSurface := congrArg f h
  have hid : a.id = b.id := hfield (·.paneId)
  have hversion : a.surfaceVersion = b.surfaceVersion := hfield (·.version)
  have hcols : a.cols = b.cols := hfield (·.cols)
  have hrows : a.rows = b.rows := hfield (·.rows)
  have hsurface : a.surface = b.surface := hfield (·.surface)
  have hcursor : a.cursor = b.cursor := hfield (·.cursor)
  have hmodes : a.modes = b.modes := hfield (·.modes)
  have htitle : a.terminalTitle = b.terminalTitle := hfield (·.title)
  have hdir : a.terminalWorkingDirectory = b.terminalWorkingDirectory := hfield (·.workingDirectory)
  have hcolors : a.colors = b.colors := hfield (·.colors)
  have hstyles : a.styles = b.styles := hfield (·.styles)
  simp [PaneState.clientSurface, h, hid, hversion, hcols, hrows, hsurface, hcursor, hmodes, htitle, hdir,
    hcolors, hstyles]

/-- A patch stays sound as long as the pane sends the same surface and keeps the patch data. -/
theorem RetainedPatch.congr {prev cur later : PaneState} (h : RetainedPatch prev cur)
    (hsurface : later.paneSurface = cur.paneSurface) (hkind : later.lastPatchKind = cur.lastPatchKind)
    (hindices : later.lastRowUpdateIndices = cur.lastRowUpdateIndices)
    (hdiff : later.lastPaletteDiff = cur.lastPaletteDiff) : RetainedPatch prev later := by
  have hfield {α : Type} (f : PaneSurface → α) : f later.paneSurface = f cur.paneSurface :=
    congrArg f hsurface
  have hcolors : later.colors = cur.colors := hfield (·.colors)
  have hmodes : later.modes = cur.modes := hfield (·.modes)
  have hlines : later.surfaceLines = cur.surfaceLines := hfield (·.lines)
  constructor
  case id => exact (hfield (·.paneId)).trans h.id
  case cols => exact (hfield (·.cols)).trans h.cols
  case rows => exact (hfield (·.rows)).trans h.rows
  case version => exact (hfield (·.version)).trans h.version
  case surface => exact (hfield (·.surface)).trans h.surface
  case styles => exact (hfield (·.styles)).trans h.styles
  case plan =>
    cases h.plan with
    | cursorOnly kind rows colors modes =>
      exact .cursorOnly (hkind.trans kind) (hsurface ▸ rows) (hcolors.trans colors) (hmodes.trans modes)
    | modeOnly kind rows colors =>
      exact .modeOnly (hkind.trans kind) (hsurface ▸ rows) (hcolors.trans colors)
    | colorOnly kind rows palette =>
      exact .colorOnly (hkind.trans kind) (hsurface ▸ rows) (by rw [hdiff, hcolors]; exact palette)
    | replaceRows kind rows colors =>
      refine .replaceRows (hkind.trans kind) ?_ (hcolors.trans colors)
      exact {
        inside := by rw [hindices, hlines]; exact rows.inside
        nodup := hindices ▸ rows.nodup
        promptsKnown := by rw [hindices, hsurface]; exact rows.promptsKnown
        contentKnown := by rw [hindices, hsurface]; exact rows.contentKnown
        cover := by rw [hindices, hsurface]; exact rows.cover }

/-- The pane before counts only by the surface it sent. -/
theorem RetainedPatch.congr_prev {prev other cur : PaneState} (h : RetainedPatch prev cur)
    (hsurface : other.paneSurface = prev.paneSurface) : RetainedPatch other cur := by
  have hfield {α : Type} (f : PaneSurface → α) : f other.paneSurface = f prev.paneSurface :=
    congrArg f hsurface
  have hcolors : other.colors = prev.colors := hfield (·.colors)
  have hmodes : other.modes = prev.modes := hfield (·.modes)
  constructor
  case id => exact h.id.trans (hfield (·.paneId)).symm
  case cols => exact h.cols.trans (hfield (·.cols)).symm
  case rows => exact h.rows.trans (hfield (·.rows)).symm
  case version =>
    have hversion : other.surfaceVersion = prev.surfaceVersion := hfield (·.version)
    rw [hversion]
    exact h.version
  case surface => exact h.surface.trans (hfield (·.surface)).symm
  case styles => exact h.styles.trans (hfield (·.styles)).symm
  case plan =>
    cases h.plan with
    | cursorOnly kind rows colors modes =>
      exact .cursorOnly kind (hsurface ▸ rows) (colors.trans hcolors.symm) (modes.trans hmodes.symm)
    | modeOnly kind rows colors => exact .modeOnly kind (hsurface ▸ rows) (colors.trans hcolors.symm)
    | colorOnly kind rows palette => exact .colorOnly kind (hsurface ▸ rows) (by rw [hcolors]; exact palette)
    | replaceRows kind rows colors =>
      refine .replaceRows kind ?_ (colors.trans hcolors.symm)
      exact {
        inside := rows.inside
        nodup := rows.nodup
        promptsKnown := rows.promptsKnown
        contentKnown := rows.contentKnown
        cover := by rw [hsurface]; exact rows.cover }

/-! ### The content of a patch -/

section
variable {pane : PaneState} {base : UInt64}

theorem patchContent_rowUpdates_replaceRows (h : pane.lastPatchKind = .replaceRows) :
    (pane.patchContent base).rowUpdates =
      pane.lastRowUpdateIndices.map fun row => pane.paneSurface.rowContent row.toNat := by
  simp [PaneState.patchContent, decodedPatch, PaneState.patchTable, h, PaneSurface.rowContent]

theorem patchContent_rowUpdates_other (h : pane.lastPatchKind ≠ .replaceRows) :
    (pane.patchContent base).rowUpdates = [] := by
  simp [PaneState.patchContent, decodedPatch, PaneState.patchTable, h]

theorem patchContent_colors_other (h : pane.lastPatchKind ≠ .colorOnly) :
    (pane.patchContent base).colors = some pane.colors.summary := by
  have hkind : (pane.lastPatchKind != .colorOnly) = true := by simpa using h
  simp [PaneState.patchContent, decodedPatch, PaneState.patchTable, TerminalColors.summary, h, hkind,
    PaneState.paneSurface]

theorem patchContent_colors_colorOnly (h : pane.lastPatchKind = .colorOnly) :
    (pane.patchContent base).colors =
      some (decodedTerminalColors (buildTerminalColors pane.colors pane.lastPaletteDiff false)) := by
  cases hdiff : pane.lastPaletteDiff <;>
    simp [PaneState.patchContent, decodedPatch, PaneState.patchTable, hdiff, h, PaneState.paneSurface,
      Option.filter]

end

theorem terminalColorsHavePaletteDiff_summary (colors : TerminalColors) :
    terminalColorsHavePaletteDiff colors.summary = false := rfl

/-- The palette difference sits in a color-only patch and nowhere else. -/
theorem patchContent_palette_scope (pane : PaneState) (base : UInt64) :
    validatePaletteDiffScope .patch (some pane.lastPatchKind) (pane.patchContent base).colors =
      .ok () := by
  by_cases h : pane.lastPatchKind = .colorOnly
  · rw [patchContent_colors_colorOnly h, h]
    simp only [validatePaletteDiffScope]
    split <;> rfl
  · rw [patchContent_colors_other h]
    rfl

/-- Rows sit in a row patch and nowhere else. -/
theorem patchContent_payload {pane : PaneState} {base : UInt64} :
    validateNoRowPatchPayload pane.lastPatchKind (pane.patchContent base).rowUpdates = .ok () := by
  by_cases h : pane.lastPatchKind = .replaceRows
  · rw [h]
    simp [validateNoRowPatchPayload, Protocol.PatchKind.replaceRows, Protocol.PatchKind.cursorOnly,
      Protocol.PatchKind.modeOnly, Protocol.PatchKind.colorOnly, Protocol.PatchKind.fullRefreshRequired]
  · rw [patchContent_rowUpdates_other h]
    simp [validateNoRowPatchPayload]

/-- A patch of a known kind that is not a full refresh gets past the checks before the kinds. -/
theorem validatePatch_patchContent {prev cur : PaneState} (hid : cur.id = prev.id)
    (hpub : cur.Publishable) (hkind : cur.lastPatchKind.known = true)
    (hfull : cur.lastPatchKind ≠ .fullRefreshRequired) :
    prev.clientSurface.validatePatch (cur.patchContent prev.surfaceVersion) = .ok () := by
  have hpayload : validateNoRowPatchPayload cur.lastPatchKind
      (cur.patchContent prev.surfaceVersion).rowUpdates = .ok () :=
    patchContent_payload
  have hpane : (cur.patchContent prev.surfaceVersion).paneId = cur.id := rfl
  have hbase : (cur.patchContent prev.surfaceVersion).baseVersion = some prev.surfaceVersion := rfl
  have hsent : (cur.patchContent prev.surfaceVersion).patchKind = some cur.lastPatchKind := rfl
  have hpatch : (cur.patchContent prev.surfaceVersion).kind = .patch := rfl
  have hcursor : (cur.patchContent prev.surfaceVersion).cursor = some cur.cursor := rfl
  have hmodes : (cur.patchContent prev.surfaceVersion).modes = cur.modes := rfl
  have hlinks : (cur.patchContent prev.surfaceVersion).hyperlinks = [] := rfl
  simp only [ClientPaneSurface.validatePatch, hpane, hbase, hsent, hpatch, hcursor, hmodes, hlinks,
    check_bind_eq_ok, require_eq_ok, Option.elim_some, validatePatchKind_eq_ok, hpayload,
    patchContent_palette_scope, validateCursorSummary_some, validateTerminalModeSummary_eq_ok]
  refine ⟨?_, ?_, hkind, trivial, hpub.cursorKnown, ⟨hpub.trackingKnown, hpub.formatKnown⟩, rfl,
    trivial, ?_⟩
  · simp [PaneState.clientSurface, hid]
  · simp [PaneState.clientSurface]
  · simpa using hfull

/-! ### Soundness -/

theorem RowsCovered.applyRows {prev cur : PaneState} (h : RowsCovered prev cur)
    (hrows : cur.rows = prev.rows) (hfit : cur.surfaceLines.length ≤ cur.rows.toNat) :
    Client.applyRows prev.rows prev.paneSurface.clientRows
        (cur.lastRowUpdateIndices.map fun row => cur.paneSurface.rowContent row.toNat) =
      .ok cur.paneSurface.clientRows := by
  have hlen : prev.paneSurface.clientRows.length = cur.paneSurface.clientRows.length := by
    simp [PaneState.paneSurface, hrows]
  have hinside : ∀ row ∈ cur.lastRowUpdateIndices, row.toNat < cur.paneSurface.rows.toNat :=
    fun row hrow => Nat.lt_of_lt_of_le (h.inside row hrow) hfit
  rw [applyRows_eq_overwrite]
  · refine congrArg Except.ok (overwrite_eq_target hlen ?_ fun row => ?_)
    · simp only [List.map_map, List.forall_mem_map, Function.comp_apply, PaneSurface.rowContent_row,
        UInt32.ofNat_toNat]
      intro row hrow
      rw [PaneSurface.clientRows_getElem? _ (hinside row hrow)]
      exact congrArg some (if_pos (h.inside row hrow))
    · simpa only [List.map_map, Function.comp_def, PaneSurface.rowContent_row, UInt32.ofNat_toNat]
        using h.cover row
  · simp only [List.forall_mem_map, PaneSurface.rowContent_row, UInt32.ofNat_toNat, hlen,
      PaneSurface.clientRows_length]
    exact hinside

/-- The rows of a covering patch pass the row checks of a client that mirrors `prev`. -/
theorem RowsCovered.checks {prev cur : PaneState} (h : RowsCovered prev cur)
    (hrows : cur.rows = prev.rows) (hstyles : cur.styles = prev.styles) (hpub : cur.Publishable) :
    let updates := cur.lastRowUpdateIndices.map fun row => cur.paneSurface.rowContent row.toNat
    validateRowUpdateTerminalEnums updates = .ok () ∧
      validateRowUpdateIndices updates prev.clientSurface.rowData.length = .ok () ∧
      validateRowUpdateStyleIds updates prev.clientSurface.styles = .ok () ∧
      validateRowUpdateHyperlinkIds updates prev.clientSurface.hyperlinks = .ok () := by
  have hcount : max prev.clientSurface.styles.length 1 = max cur.styles.length 1 := by
    rw [hstyles]
    cases hs : prev.styles <;> simp [PaneState.clientSurface, defaultStyleSummaries, hs]
  refine ⟨?_, ?_, ?_, ?_⟩
  · simp only [validateRowUpdateTerminalEnums_eq_ok, List.forall_mem_map]
    exact fun row hrow => ⟨h.promptsKnown row hrow, h.contentKnown row hrow⟩
  · simp only [validateRowUpdateIndices_eq_ok, List.forall_mem_map, List.map_map, Function.comp_def,
      PaneSurface.rowContent_row, UInt32.ofNat_toNat, List.map_id', h.nodup, and_true]
    intro row hrow
    have hrowCount : prev.clientSurface.rowData.length = cur.rows.toNat := by
      rw [hrows]
      exact prev.paneSurface.clientRows_length
    rw [hrowCount]
    exact Nat.lt_of_lt_of_le (h.inside row hrow) hpub.rowsFit
  · rw [validateRowUpdateStyleIds_eq_ok, hcount]
    simp only [List.forall_mem_map]
    intro row hrow
    refine (cur.snapshot_styles_known _).mpr hpub.stylesKnown _ ?_
    rw [PaneState.snapshotContent_rowUpdates]
    exact List.mem_map_of_mem (List.mem_range.mpr (h.inside row hrow))
  · refine validateRowUpdateHyperlinkIds_of_zero ?_
    simp only [List.forall_mem_map]
    exact fun row _ run hrun => PaneSurface.mem_rowContent_runs_hyperlinkId _ _ hrun

/-- A covered palette is what a client makes of the difference. -/
theorem PaletteCovered.materialize {diff : Option PaletteDiff} {old new : TerminalColors}
    (h : PaletteCovered diff old.paletteRgba new.paletteRgba) :
    (decodedTerminalColors (buildTerminalColors new diff false)).materialize old.summary =
      .ok new.summary := by
  cases diff with
  | none =>
    have hnew : old.paletteRgba = new.paletteRgba := h
    simp [decodedTerminalColors, buildTerminalColors, TerminalColorSummary.materialize,
      TerminalColors.summary, hnew, pure, Except.pure]
  | some diff =>
    obtain ⟨hne, hstart, hnew⟩ := h
    have hle : ¬ old.paletteRgba.length < diff.start.toNat := by omega
    simp [decodedTerminalColors, buildTerminalColors, TerminalColorSummary.materialize,
      TerminalColors.summary, hne, hle, hnew, pure, Except.pure]

/-- **A retained patch is sound.** A client that mirrors the pane one version earlier accepts the
patch and then holds what the pane's own snapshot would give it. -/
theorem RetainedPatch.applyPatch {prev cur : PaneState} (h : RetainedPatch prev cur)
    (hpub : cur.Publishable) :
    prev.clientSurface.applyPatch (cur.patchContent prev.surfaceVersion) = .ok cur.clientSurface := by
  have hsent : (cur.patchContent prev.surfaceVersion).patchKind = some cur.lastPatchKind := rfl
  have hcached : prev.clientSurface.colors = prev.colors.summary := rfl
  have hcursor : (cur.patchContent prev.surfaceVersion).cursor = some cur.cursor := rfl
  have hmodes : (cur.patchContent prev.surfaceVersion).modes = cur.modes := rfl
  have htitle : (cur.patchContent prev.surfaceVersion).title = cur.terminalTitle := rfl
  have hdir : (cur.patchContent prev.surfaceVersion).workingDirectory =
      cur.terminalWorkingDirectory := rfl
  have hversion : (cur.patchContent prev.surfaceVersion).version = cur.surfaceVersion := rfl
  have hvalid (hkind : cur.lastPatchKind.known = true)
      (hfull : cur.lastPatchKind ≠ .fullRefreshRequired) :=
    validatePatch_patchContent h.id hpub hkind hfull
  -- what no patch carries is the same in both panes
  have hkept : cur.clientSurface = { prev.clientSurface with
      version := cur.surfaceVersion
      cursor := some cur.cursor
      modes := cur.modes
      title := cur.terminalTitle
      workingDirectory := cur.terminalWorkingDirectory
      colors := cur.colors.summary
      rowData := cur.paneSurface.clientRows } := by
    simp [PaneState.clientSurface, h.id, h.cols, h.rows, h.surface, h.styles]
  cases h.plan with
  | cursorOnly kind rows colors modes =>
    rw [ClientPaneSurface.applyPatch, hvalid (kind ▸ rfl) (kind ▸ by decide),
      patchContent_colors_other (kind ▸ by decide), hsent, kind, hcached, colors, hcursor, htitle, hdir,
      hversion, hkept, ← rows, colors, modes]
    simp [validateColorsUnchanged, require, PaneState.clientSurface, pure, Except.pure]
  | modeOnly kind rows colors =>
    rw [ClientPaneSurface.applyPatch, hvalid (kind ▸ rfl) (kind ▸ by decide),
      patchContent_colors_other (kind ▸ by decide), hsent, kind, hcached, colors, hcursor, htitle, hdir,
      hversion, hmodes, hkept, ← rows, colors]
    simp [validateColorsUnchanged, require, PaneState.clientSurface, pure, Except.pure]
  | colorOnly kind rows palette =>
    rw [ClientPaneSurface.applyPatch, hvalid (kind ▸ rfl) (kind ▸ by decide),
      patchContent_colors_colorOnly kind, hsent, kind, hcached, hcursor, htitle, hdir, hversion, hmodes,
      hkept, ← rows]
    simp [palette.materialize, PaneState.clientSurface, pure, Except.pure]
  | replaceRows kind rows colors =>
    obtain ⟨henums, hindices, hstyles, hlinks⟩ := rows.checks h.rows h.styles hpub
    have happly := rows.applyRows h.rows hpub.rowsFit
    rw [ClientPaneSurface.applyPatch, hvalid (kind ▸ rfl) (kind ▸ by decide),
      patchContent_colors_other (kind ▸ by decide), patchContent_rowUpdates_replaceRows kind, hsent, kind,
      hcached, colors, hcursor, htitle, hdir, hversion, hmodes, hkept, colors, henums, hindices, hstyles,
      hlinks]
    simp [validateColorsUnchanged, require, PaneState.clientSurface, pure, Except.pure, happly]

end Nmux
