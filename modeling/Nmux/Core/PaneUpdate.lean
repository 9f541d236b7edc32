import Nmux.Core.Surface

/-! What `apply_terminal_update` does to a pane, field by field, and the invariant it establishes: the
five surface vectors of an updated pane belong together. Later proofs read an updated pane through
these lemmas only. -/
namespace Nmux

/-- The row data of a pane fits its lines: every row's runs spell the line, and there is one prompt
and one pair of flags for each line. -/
structure PaneState.Aligned (pane : PaneState) : Prop where
  runs : pane.surfaceRowRuns.map cellRunsText = pane.surfaceLines
  prompts : pane.surfaceSemanticPrompts.length = pane.surfaceLines.length
  dirty : pane.surfaceDirtyRows.length = pane.surfaceLines.length
  kitty : pane.surfaceKittyPlaceholders.length = pane.surfaceLines.length

theorem PaneState.Aligned.runs_length {pane : PaneState} (h : pane.Aligned) :
    pane.surfaceRowRuns.length = pane.surfaceLines.length := by
  have := congrArg List.length h.runs
  rwa [List.length_map] at this

/-- An aligned pane sends its row data as it keeps it. -/
theorem PaneState.Aligned.paneSurface_rows {pane : PaneState} (h : pane.Aligned) :
    pane.paneSurface.rowRuns = pane.surfaceRowRuns ∧
      pane.paneSurface.semanticPrompts = pane.surfaceSemanticPrompts ∧
      pane.paneSurface.dirtyRows = pane.surfaceDirtyRows ∧
      pane.paneSurface.kittyPlaceholders = pane.surfaceKittyPlaceholders := by
  simp [paneSurface, rowRunsForLines_eq, rowSemanticPromptsForLines, rowDirtyFlagsForLines,
    rowKittyPlaceholdersForLines, h.runs, h.prompts, h.dirty, h.kitty]

/-! ### The steps of an update as one record -/

theorem PaneState.recordPatch_eq (pane : PaneState) (changes : TerminalPatchChanges)
    (diff : Option PaletteDiff) (rowUpdateIndices : List UInt32) :
    pane.recordPatch changes diff rowUpdateIndices =
      { pane with
        surfaceVersion :=
          if changes.surfaceChanged then satAdd64 pane.surfaceVersion 1 else pane.surfaceVersion
        lastPatchKind :=
          if changes.surfaceChanged then terminalPatchKind changes else pane.lastPatchKind
        lastPaletteDiff :=
          if changes.surfaceChanged ∧ terminalPatchKind changes = .colorOnly then diff else none
        lastRowUpdateIndices :=
          if changes.surfaceChanged then
            if terminalPatchKind changes = .replaceRows then
              rowUpdateIndices.filter fun row => row.toNat < pane.rows.toNat
            else []
          else pane.lastRowUpdateIndices } := by
  by_cases h : changes.surfaceChanged <;> simp [recordPatch, h]

theorem PaneState.recordScrollback_eq (pane : PaneState) (changed : Bool) :
    pane.recordScrollback changed =
      { pane with
        scrollbackVersion :=
          if changed then satAdd64 pane.scrollbackVersion 1 else pane.scrollbackVersion } := by
  cases changed <;> rfl

theorem PaneState.storeScrollback_eq (pane : PaneState) (update : TerminalUpdate) :
    pane.storeScrollback update =
      { pane with
        scrollbackLines :=
          if update.preserveScrollback then pane.scrollbackLines else update.scrollbackLines
        scrollbackRowRuns :=
          if update.preserveScrollback then pane.scrollbackRowRuns else update.scrollbackRowRuns
        scrollbackSemanticPrompts :=
          if update.preserveScrollback then pane.scrollbackSemanticPrompts
          else update.scrollbackSemanticPrompts
        scrollbackDirtyRows :=
          if update.preserveScrollback then pane.scrollbackDirtyRows else update.scrollbackDirtyRows
        scrollbackKittyPlaceholders :=
          if update.preserveScrollback then pane.scrollbackKittyPlaceholders
          else update.scrollbackKittyPlaceholders } := by
  by_cases h : update.preserveScrollback <;> simp [storeScrollback, h]

/-- The comparisons of one update. -/
def updateChanges (pane : PaneState) (update : TerminalUpdate) (force : Bool) :
    TerminalPatchChanges :=
  terminalPatchChanges pane update.forLines force

section
variable (pane : PaneState) (update : TerminalUpdate) (force : Bool)

/-- **The updated pane as one record.** -/
theorem applyTerminalUpdate_eq :
    (applyTerminalUpdate pane update force).1 =
      { pane with
        surfaceVersion := if (updateChanges pane update force).surfaceChanged then
          satAdd64 pane.surfaceVersion 1 else pane.surfaceVersion
        lastPatchKind := if (updateChanges pane update force).surfaceChanged then
          terminalPatchKind (updateChanges pane update force) else pane.lastPatchKind
        lastPaletteDiff := if (updateChanges pane update force).surfaceChanged ∧
            terminalPatchKind (updateChanges pane update force) = .colorOnly then
          paletteDiff pane.colors.paletteRgba update.colors.paletteRgba else none
        lastRowUpdateIndices := if (updateChanges pane update force).surfaceChanged then
          if terminalPatchKind (updateChanges pane update force) = .replaceRows then
            (surfaceRowUpdateIndices pane update.forLines force).filter
              fun row => row.toNat < pane.rows.toNat
          else []
          else pane.lastRowUpdateIndices
        scrollbackVersion := if scrollbackChanged pane update.forLines then
          satAdd64 pane.scrollbackVersion 1 else pane.scrollbackVersion
        surface := update.surface
        cursor := update.cursor
        modes := update.modes
        terminalTitle := update.title
        terminalWorkingDirectory := update.workingDirectory
        colors := update.colors
        styles := update.styles
        surfaceLines := update.surfaceLines.take pane.rows.toNat
        surfaceRowRuns := update.forLines.surfaceRowRuns.take pane.rows.toNat
        surfaceSemanticPrompts := update.forLines.surfaceSemanticPrompts.take pane.rows.toNat
        surfaceDirtyRows := update.forLines.surfaceDirtyRows.take pane.rows.toNat
        surfaceKittyPlaceholders := update.forLines.surfaceKittyPlaceholders.take pane.rows.toNat
        scrollbackLines :=
          if update.preserveScrollback then pane.scrollbackLines else update.scrollbackLines
        scrollbackRowRuns :=
          if update.preserveScrollback then pane.scrollbackRowRuns
          else update.forLines.scrollbackRowRuns
        scrollbackSemanticPrompts :=
          if update.preserveScrollback then pane.scrollbackSemanticPrompts
          else update.forLines.scrollbackSemanticPrompts
        scrollbackDirtyRows :=
          if update.preserveScrollback then pane.scrollbackDirtyRows
          else update.forLines.scrollbackDirtyRows
        scrollbackKittyPlaceholders :=
          if update.preserveScrollback then pane.scrollbackKittyPlaceholders
          else update.forLines.scrollbackKittyPlaceholders } := by
  simp only [applyTerminalUpdate, PaneState.recordPatch_eq, PaneState.recordScrollback_eq,
    PaneState.storeSurface, PaneState.storeScrollback_eq, updateChanges]
  rfl

@[simp] theorem applyTerminalUpdate_id : (applyTerminalUpdate pane update force).1.id = pane.id := by
  rw [applyTerminalUpdate_eq]

@[simp] theorem applyTerminalUpdate_cols :
    (applyTerminalUpdate pane update force).1.cols = pane.cols := by
  rw [applyTerminalUpdate_eq]

@[simp] theorem applyTerminalUpdate_rows :
    (applyTerminalUpdate pane update force).1.rows = pane.rows := by
  rw [applyTerminalUpdate_eq]

theorem applyTerminalUpdate_surfaceLines :
    (applyTerminalUpdate pane update force).1.surfaceLines =
      update.surfaceLines.take pane.rows.toNat := by
  rw [applyTerminalUpdate_eq]

theorem applyTerminalUpdate_version :
    (applyTerminalUpdate pane update force).1.surfaceVersion =
      if (updateChanges pane update force).surfaceChanged then satAdd64 pane.surfaceVersion 1
      else pane.surfaceVersion := by
  rw [applyTerminalUpdate_eq]

/-- **Every update leaves an aligned pane**, whatever the engine returned. -/
theorem applyTerminalUpdate_aligned : (applyTerminalUpdate pane update force).1.Aligned := by
  rw [applyTerminalUpdate_eq]
  constructor
  case runs => simp only [TerminalUpdate.forLines, List.map_take, rowRunsForLines_text]
  all_goals simp [TerminalUpdate.forLines]

/-- An updated pane has no more lines than rows. -/
theorem applyTerminalUpdate_rows_fit :
    (applyTerminalUpdate pane update force).1.surfaceLines.length ≤
      (applyTerminalUpdate pane update force).1.rows.toNat := by
  rw [applyTerminalUpdate_surfaceLines, applyTerminalUpdate_rows]
  exact List.length_take_le _ _

/-- The row vectors of an updated pane are the update's, cut to the rows, so a row inside the pane is
the update's row. -/
theorem applyTerminalUpdate_paneSurface_rows :
    (applyTerminalUpdate pane update force).1.paneSurface.lines =
        update.surfaceLines.take pane.rows.toNat ∧
      (applyTerminalUpdate pane update force).1.paneSurface.rowRuns =
        update.forLines.surfaceRowRuns.take pane.rows.toNat ∧
      (applyTerminalUpdate pane update force).1.paneSurface.semanticPrompts =
        update.forLines.surfaceSemanticPrompts.take pane.rows.toNat ∧
      (applyTerminalUpdate pane update force).1.paneSurface.dirtyRows =
        update.forLines.surfaceDirtyRows.take pane.rows.toNat ∧
      (applyTerminalUpdate pane update force).1.paneSurface.kittyPlaceholders =
        update.forLines.surfaceKittyPlaceholders.take pane.rows.toNat := by
  obtain ⟨hruns, hprompts, hdirty, hkitty⟩ :=
    (applyTerminalUpdate_aligned pane update force).paneSurface_rows
  rw [hruns, hprompts, hdirty, hkitty]
  simp [applyTerminalUpdate_eq, PaneState.paneSurface]

end

/-! ### Updates that leave the surface as it is -/

/-- One unforced update, the step of a run. -/
def updateStep (pane : PaneState) (update : TerminalUpdate) : PaneState :=
  (applyTerminalUpdate pane update false).1

section
variable {pane : PaneState} {update : TerminalUpdate}

/-- An update can only agree with the rows of an aligned pane, since its own are. -/
theorem aligned_of_unchanged (h : (updateChanges pane update false).surfaceChanged = false) :
    pane.Aligned := by
  simp only [TerminalPatchChanges.surfaceChanged, TerminalPatchChanges.rowsOrRowMetadataChanged,
    updateChanges, terminalPatchChanges, Bool.or_eq_false_iff, bne_eq_false_iff_eq] at h
  obtain ⟨⟨⟨⟨⟨⟨-, ⟨⟨⟨hlines, hruns⟩, hprompts⟩, hdirty⟩, hkitty⟩, -⟩, -⟩, -⟩, -⟩, -⟩ := h
  constructor
  case runs => rw [hruns, hlines, TerminalUpdate.forLines, rowRunsForLines_text]
  case prompts => rw [hprompts, hlines, TerminalUpdate.forLines, rowSemanticPromptsForLines_length]
  case dirty => rw [hdirty, hlines, TerminalUpdate.forLines, rowDirtyFlagsForLines_length]
  case kitty => rw [hkitty, hlines, TerminalUpdate.forLines, rowKittyPlaceholdersForLines_length]

/-- An update that changes nothing of the surface leaves what the pane sends, its kind and its row
indices, and drops the palette difference. -/
theorem updateStep_unchanged (hfit : pane.surfaceLines.length ≤ pane.rows.toNat)
    (h : (updateChanges pane update false).surfaceChanged = false) :
    (updateStep pane update).paneSurface = pane.paneSurface ∧
      (updateStep pane update).lastPatchKind = pane.lastPatchKind ∧
      (updateStep pane update).lastRowUpdateIndices = pane.lastRowUpdateIndices ∧
      (updateStep pane update).lastPaletteDiff = none := by
  have halign := aligned_of_unchanged h
  have hsame := h
  simp only [TerminalPatchChanges.surfaceChanged, TerminalPatchChanges.rowsOrRowMetadataChanged,
    updateChanges, terminalPatchChanges, Bool.or_eq_false_iff, bne_eq_false_iff_eq] at hsame
  obtain ⟨⟨⟨⟨⟨⟨⟨⟨-, hkind⟩, hstyles⟩, ⟨⟨⟨hlines, hruns⟩, hprompts⟩, hdirty⟩, hkitty⟩, hcursor⟩,
    hmodes⟩, htitle⟩, hdir⟩, hcolors⟩ := hsame
  have hlines' : update.surfaceLines = pane.surfaceLines := hlines.symm
  obtain ⟨kruns, kprompts, kdirty, kkitty⟩ := halign.paneSurface_rows
  obtain ⟨alines, aruns, aprompts, adirty, akitty⟩ :=
    applyTerminalUpdate_paneSurface_rows pane update false
  have hrows : (updateStep pane update).paneSurface.lines = pane.paneSurface.lines ∧
      (updateStep pane update).paneSurface.rowRuns = pane.paneSurface.rowRuns ∧
      (updateStep pane update).paneSurface.semanticPrompts = pane.paneSurface.semanticPrompts ∧
      (updateStep pane update).paneSurface.dirtyRows = pane.paneSurface.dirtyRows ∧
      (updateStep pane update).paneSurface.kittyPlaceholders =
        pane.paneSurface.kittyPlaceholders := by
    refine ⟨?_, ?_, ?_, ?_, ?_⟩
    · rw [updateStep, alines, hlines', List.take_of_length_le hfit]
      rfl
    · rw [updateStep, aruns, kruns, ← hruns, List.take_of_length_le (halign.runs_length ▸ hfit)]
    · rw [updateStep, aprompts, kprompts, ← hprompts, List.take_of_length_le (halign.prompts ▸ hfit)]
    · rw [updateStep, adirty, kdirty, ← hdirty, List.take_of_length_le (halign.dirty ▸ hfit)]
    · rw [updateStep, akitty, kkitty, ← hkitty, List.take_of_length_le (halign.kitty ▸ hfit)]
  obtain ⟨rlines, rruns, rprompts, rdirty, rkitty⟩ := hrows
  refine ⟨?_, ?_, ?_, ?_⟩
  · apply PaneSurface.ext <;> first
      | assumption
      | simp [updateStep, applyTerminalUpdate_eq, PaneState.paneSurface, h, hkind, hstyles, hcursor,
          hmodes, htitle, hdir, hcolors, TerminalUpdate.forLines]
  all_goals simp [updateStep, applyTerminalUpdate_eq, h]

end

/-! ### Versions -/

theorem satAdd64_one {v : UInt64} (h : v.toNat + 1 < 2 ^ 64) : satAdd64 v 1 = v + 1 :=
  if_pos h

theorem satAdd64_one_toNat (v : UInt64) :
    (satAdd64 v 1).toNat = if v.toNat + 1 < 2 ^ 64 then v.toNat + 1 else v.toNat := by
  have := v.toNat_lt
  by_cases h : v.toNat + 1 < 2 ^ 64
  · rw [satAdd64_one h, if_pos h, UInt64.toNat_add, UInt64.toNat_one]
    omega
  · have hmax : v.toNat = 2 ^ 64 - 1 := by omega
    simp [satAdd64, hmax]

end Nmux
