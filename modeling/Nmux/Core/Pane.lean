import Nmux.Core.Terminal

/-! A pane's retained state and `apply_terminal_update`, the one function that moves a pane to its
next surface version. The state keeps, beside the surface itself, what is needed to rebuild the
patch from the previous version on demand: the kind, the changed rows and the palette difference. -/
namespace Nmux

open Protocol (SplitAxis SurfaceKind PatchKind RowSemanticPrompt ResizePolicy)

/-- `u64::saturating_add`. -/
def satAdd64 (a b : UInt64) : UInt64 :=
  if a.toNat + b.toNat < 2 ^ 64 then a + b else UInt64.ofNat (2 ^ 64 - 1)

/-- `u32::saturating_add`. -/
def satAdd32 (a b : UInt32) : UInt32 :=
  if a.toNat + b.toNat < 2 ^ 32 then a + b else UInt32.ofNat (2 ^ 32 - 1)

structure PaletteDiff where
  start : UInt32
  colors : List UInt32
deriving DecidableEq, Repr

/-- Every field of the source's `Pane` but the children: the panes of a tree are in `Pane`. -/
structure PaneState where
  id : String
  splitAxis : SplitAxis
  host : HostSpec
  surfaceVersion : UInt64
  lastPatchKind : PatchKind
  lastRowUpdateIndices : List UInt32
  scrollbackVersion : UInt64
  cols : UInt32
  rows : UInt32
  resizePolicy : ResizePolicy
  surface : SurfaceKind
  cursor : Cursor
  modes : TerminalModes
  terminalTitle : String
  terminalWorkingDirectory : String
  colors : TerminalColors
  lastPaletteDiff : Option PaletteDiff
  styles : List PaneStyle
  surfaceLines : List String
  surfaceRowRuns : List (List CellRun)
  surfaceSemanticPrompts : List RowSemanticPrompt
  surfaceDirtyRows : List Bool
  surfaceKittyPlaceholders : List Bool
  scrollbackLines : List String
  scrollbackRowRuns : List (List CellRun)
  scrollbackSemanticPrompts : List RowSemanticPrompt
  scrollbackDirtyRows : List Bool
  scrollbackKittyPlaceholders : List Bool
deriving DecidableEq, Repr

/-! ### Row data for given lines -/

/-- The runs are kept only if every row's runs spell its line; one row that does not makes every
row plain. -/
def rowRunsForLines (lines : List String) (rowRuns : List (List CellRun)) : List (List CellRun) :=
  if rowRuns.length == lines.length &&
      (rowRuns.zip lines).all fun (runs, line) => cellRunsText runs == line then
    rowRuns
  else
    lines.map fun line => [.plain line]

def rowSemanticPromptsForLines (lines : List String) (semanticPrompts : List RowSemanticPrompt) :
    List RowSemanticPrompt :=
  if semanticPrompts.length == lines.length then semanticPrompts else plainRowSemanticPrompts lines

def rowDirtyFlagsForLines (lines : List String) (dirtyRows : List Bool) : List Bool :=
  if dirtyRows.length == lines.length then dirtyRows else plainRowDirtyFlags lines

def rowKittyPlaceholdersForLines (lines : List String) (kittyPlaceholders : List Bool) : List Bool :=
  if kittyPlaceholders.length == lines.length then kittyPlaceholders
  else plainRowKittyPlaceholders lines

/-- The update with its row data brought in line with its lines, surface and scrollback alike. -/
def TerminalUpdate.forLines (update : TerminalUpdate) : TerminalUpdate :=
  { update with
    surfaceRowRuns := rowRunsForLines update.surfaceLines update.surfaceRowRuns
    surfaceSemanticPrompts :=
      rowSemanticPromptsForLines update.surfaceLines update.surfaceSemanticPrompts
    surfaceDirtyRows := rowDirtyFlagsForLines update.surfaceLines update.surfaceDirtyRows
    surfaceKittyPlaceholders :=
      rowKittyPlaceholdersForLines update.surfaceLines update.surfaceKittyPlaceholders
    scrollbackRowRuns := rowRunsForLines update.scrollbackLines update.scrollbackRowRuns
    scrollbackSemanticPrompts :=
      rowSemanticPromptsForLines update.scrollbackLines update.scrollbackSemanticPrompts
    scrollbackDirtyRows := rowDirtyFlagsForLines update.scrollbackLines update.scrollbackDirtyRows
    scrollbackKittyPlaceholders :=
      rowKittyPlaceholdersForLines update.scrollbackLines update.scrollbackKittyPlaceholders }

/-! ### Patch planning -/

/-- The change from one palette to the next: the first position where they differ, or the end of
the shorter one, and the new palette from there on. -/
def paletteDiff (old new : List UInt32) : Option PaletteDiff :=
  if old = new then none
  else
    let start := ((old.zip new).findIdx? fun (old, new) => old != new).getD
      (min old.length new.length)
    some { start := UInt32.ofNat start, colors := new.drop start }

structure TerminalPatchChanges where
  forceFullRefresh : Bool
  requested : PatchKind
  rowCountChanged : Bool
  rowsChanged : Bool
  rowRunsChanged : Bool
  semanticPromptsChanged : Bool
  dirtyRowsChanged : Bool
  kittyPlaceholdersChanged : Bool
  surfaceKindChanged : Bool
  stylesChanged : Bool
  cursorChanged : Bool
  modesChanged : Bool
  titleChanged : Bool
  workingDirectoryChanged : Bool
  colorsChanged : Bool
deriving DecidableEq, Repr

def TerminalPatchChanges.rowsOrRowMetadataChanged (changes : TerminalPatchChanges) : Bool :=
  changes.rowsChanged || changes.rowRunsChanged || changes.semanticPromptsChanged ||
    changes.dirtyRowsChanged || changes.kittyPlaceholdersChanged

/-- `surface_changed`: the row count takes no part in it, a forced update always counts. -/
def TerminalPatchChanges.surfaceChanged (changes : TerminalPatchChanges) : Bool :=
  changes.forceFullRefresh || changes.surfaceKindChanged || changes.stylesChanged ||
    changes.rowsOrRowMetadataChanged || changes.cursorChanged || changes.modesChanged ||
    changes.titleChanged || changes.workingDirectoryChanged || changes.colorsChanged

def terminalPatchKind (changes : TerminalPatchChanges) : PatchKind :=
  if changes.forceFullRefresh || changes.rowCountChanged || changes.surfaceKindChanged ||
      changes.stylesChanged || (changes.colorsChanged && changes.rowsOrRowMetadataChanged) then
    .fullRefreshRequired
  else if changes.rowsOrRowMetadataChanged then .replaceRows
  else if changes.colorsChanged then .colorOnly
  else if changes.modesChanged then .modeOnly
  else if changes.cursorChanged || changes.titleChanged || changes.workingDirectoryChanged then
    .cursorOnly
  else changes.requested

/-- The indices of `len` rows, `row as u32` each. -/
def allRowIndices (len : Nat) : List UInt32 := (List.range len).map UInt32.ofNat

/-- Whether a row of the update differs from the pane's row in any of the five row vectors. -/
def rowDiffers (pane : PaneState) (update : TerminalUpdate) (row : Nat) : Bool :=
  pane.surfaceLines[row]? != update.surfaceLines[row]? ||
    pane.surfaceRowRuns[row]? != update.surfaceRowRuns[row]? ||
    pane.surfaceSemanticPrompts[row]? != update.surfaceSemanticPrompts[row]? ||
    pane.surfaceDirtyRows[row]? != update.surfaceDirtyRows[row]? ||
    pane.surfaceKittyPlaceholders[row]? != update.surfaceKittyPlaceholders[row]?

def surfaceRowUpdateIndices (pane : PaneState) (update : TerminalUpdate) (forceAll : Bool) :
    List UInt32 :=
  if forceAll then allRowIndices pane.rows.toNat
  else if pane.surfaceLines.length != update.surfaceLines.length then
    allRowIndices update.surfaceLines.length
  else ((List.range update.surfaceLines.length).filter (rowDiffers pane update)).map UInt32.ofNat

/-- Every comparison the source makes between the pane and the (row-normalised) update. -/
def terminalPatchChanges (pane : PaneState) (update : TerminalUpdate) (forceSurfaceVersion : Bool) :
    TerminalPatchChanges where
  forceFullRefresh := forceSurfaceVersion
  requested := update.patchKind
  rowCountChanged := forceSurfaceVersion &&
    pane.surfaceLines.length != min update.surfaceLines.length pane.rows.toNat
  rowsChanged := pane.surfaceLines != update.surfaceLines
  rowRunsChanged := pane.surfaceRowRuns != update.surfaceRowRuns
  semanticPromptsChanged := pane.surfaceSemanticPrompts != update.surfaceSemanticPrompts
  dirtyRowsChanged := pane.surfaceDirtyRows != update.surfaceDirtyRows
  kittyPlaceholdersChanged := pane.surfaceKittyPlaceholders != update.surfaceKittyPlaceholders
  surfaceKindChanged := pane.surface != update.surface
  stylesChanged := pane.styles != update.styles
  cursorChanged := pane.cursor != update.cursor
  modesChanged := pane.modes != update.modes
  titleChanged := pane.terminalTitle != update.title
  workingDirectoryChanged := pane.terminalWorkingDirectory != update.workingDirectory
  colorsChanged := pane.colors != update.colors

def scrollbackChanged (pane : PaneState) (update : TerminalUpdate) : Bool :=
  !update.preserveScrollback &&
    (pane.scrollbackLines != update.scrollbackLines ||
      pane.scrollbackRowRuns != update.scrollbackRowRuns ||
      pane.scrollbackSemanticPrompts != update.scrollbackSemanticPrompts ||
      pane.scrollbackDirtyRows != update.scrollbackDirtyRows ||
      pane.scrollbackKittyPlaceholders != update.scrollbackKittyPlaceholders)

/-! ### Applying an update -/

/-- The scrollback an update leaves behind. -/
def PaneState.storeScrollback (pane : PaneState) (update : TerminalUpdate) : PaneState :=
  if update.preserveScrollback then pane
  else
    { pane with
      scrollbackLines := update.scrollbackLines
      scrollbackRowRuns := update.scrollbackRowRuns
      scrollbackSemanticPrompts := update.scrollbackSemanticPrompts
      scrollbackDirtyRows := update.scrollbackDirtyRows
      scrollbackKittyPlaceholders := update.scrollbackKittyPlaceholders }

/-- The surface an update leaves behind. An engine can return more rows than the pane declares, so
all five row vectors are cut to `pane.rows`. -/
def PaneState.storeSurface (pane : PaneState) (update : TerminalUpdate) : PaneState :=
  { pane with
    surface := update.surface
    modes := update.modes
    terminalTitle := update.title
    terminalWorkingDirectory := update.workingDirectory
    colors := update.colors
    styles := update.styles
    surfaceLines := update.surfaceLines.take pane.rows.toNat
    surfaceRowRuns := update.surfaceRowRuns.take pane.rows.toNat
    surfaceSemanticPrompts := update.surfaceSemanticPrompts.take pane.rows.toNat
    surfaceDirtyRows := update.surfaceDirtyRows.take pane.rows.toNat
    surfaceKittyPlaceholders := update.surfaceKittyPlaceholders.take pane.rows.toNat
    cursor := update.cursor }

/-- The version bump and the patch data of the new version; an update that leaves the surface as it
was keeps both, except for the palette difference. -/
def PaneState.recordPatch (pane : PaneState) (changes : TerminalPatchChanges)
    (diff : Option PaletteDiff) (rowUpdateIndices : List UInt32) : PaneState :=
  if changes.surfaceChanged then
    { pane with
      surfaceVersion := satAdd64 pane.surfaceVersion 1
      lastPatchKind := terminalPatchKind changes
      lastPaletteDiff := if terminalPatchKind changes = .colorOnly then diff else none
      lastRowUpdateIndices :=
        if terminalPatchKind changes = .replaceRows then
          rowUpdateIndices.filter fun row => row.toNat < pane.rows.toNat
        else [] }
  else { pane with lastPaletteDiff := none }

def PaneState.recordScrollback (pane : PaneState) (changed : Bool) : PaneState :=
  if changed then { pane with scrollbackVersion := satAdd64 pane.scrollbackVersion 1 } else pane

/-- `apply_terminal_update`: the pane after the update, and whether anything changed. All
comparisons are made against the pane as it was, before the rows are cut. -/
def applyTerminalUpdate (pane : PaneState) (update : TerminalUpdate) (forceSurfaceVersion : Bool) :
    PaneState × Bool :=
  let update := update.forLines
  let changes := terminalPatchChanges pane update forceSurfaceVersion
  let diff := paletteDiff pane.colors.paletteRgba update.colors.paletteRgba
  let indices := surfaceRowUpdateIndices pane update forceSurfaceVersion
  let scrollback := scrollbackChanged pane update
  let stored := (pane.storeScrollback update).storeSurface update
  ((stored.recordScrollback scrollback).recordPatch changes diff indices,
    changes.surfaceChanged || scrollback)

/-! ### New panes -/

/-- `new_pane_from_template`. A new pane shows two lines however many rows it is given. -/
def newPaneFromTemplate (id : String) (host : HostSpec) (cols rows : UInt32) : PaneState where
  id := id
  splitAxis := .none
  host := { host with id, command := { host.command with initialSize := some (cols, rows) } }
  surfaceVersion := 1
  lastPatchKind := .replaceRows
  lastRowUpdateIndices := allRowIndices 2
  scrollbackVersion := 1
  cols := cols
  rows := rows
  resizePolicy := .fixed
  surface := .main
  cursor := { row := 1, col := 0, visible := true, shape := .block, blinking := true }
  modes := .default
  terminalTitle := ""
  terminalWorkingDirectory := ""
  colors := .default
  lastPaletteDiff := none
  styles := [.default]
  surfaceLines := ["nmux " ++ id, "server-owned terminal state"]
  surfaceRowRuns := [[.plain ("nmux " ++ id)], [.plain "server-owned terminal state"]]
  surfaceSemanticPrompts := List.replicate 2 .none
  surfaceDirtyRows := List.replicate 2 false
  surfaceKittyPlaceholders := List.replicate 2 false
  scrollbackLines := ["booting nmux workspace", "nmux " ++ id, "server-owned terminal state"]
  scrollbackRowRuns := [[.plain "booting nmux workspace"], [.plain ("nmux " ++ id)],
    [.plain "server-owned terminal state"]]
  scrollbackSemanticPrompts := List.replicate 3 .none
  scrollbackDirtyRows := List.replicate 3 false
  scrollbackKittyPlaceholders := List.replicate 3 false

/-! ### Row data that agrees with its lines -/

theorem rowRunsForLines_eq (lines : List String) (rowRuns : List (List CellRun)) :
    rowRunsForLines lines rowRuns =
      if rowRuns.map cellRunsText = lines then rowRuns else plainRowRuns lines := by
  have hiff : (rowRuns.length == lines.length &&
      (rowRuns.zip lines).all fun (runs, line) => cellRunsText runs == line) = true ↔
      rowRuns.map cellRunsText = lines := by
    induction rowRuns generalizing lines with
    | nil => cases lines <;> simp
    | cons runs rest ih =>
      cases lines with
      | nil => simp
      | cons line lines =>
        have := ih lines
        simp only [Bool.and_eq_true, beq_iff_eq] at this
        simp [← this]
        tauto
  simp only [rowRunsForLines, plainRowRuns, hiff]

/-- The normalised runs always spell the lines. -/
@[simp] theorem rowRunsForLines_text (lines : List String) (rowRuns : List (List CellRun)) :
    (rowRunsForLines lines rowRuns).map cellRunsText = lines := by
  rw [rowRunsForLines_eq]
  split
  case isTrue h => exact h
  case isFalse => simp [plainRowRuns, Function.comp_def]

@[simp] theorem rowRunsForLines_length (lines : List String) (rowRuns : List (List CellRun)) :
    (rowRunsForLines lines rowRuns).length = lines.length := by
  have h := congrArg List.length (rowRunsForLines_text lines rowRuns)
  rwa [List.length_map] at h

@[simp] theorem rowSemanticPromptsForLines_length (lines : List String)
    (prompts : List Protocol.RowSemanticPrompt) :
    (rowSemanticPromptsForLines lines prompts).length = lines.length := by
  rw [rowSemanticPromptsForLines]
  split <;> simp_all

@[simp] theorem rowDirtyFlagsForLines_length (lines : List String) (flags : List Bool) :
    (rowDirtyFlagsForLines lines flags).length = lines.length := by
  rw [rowDirtyFlagsForLines]
  split <;> simp_all

@[simp] theorem rowKittyPlaceholdersForLines_length (lines : List String) (flags : List Bool) :
    (rowKittyPlaceholdersForLines lines flags).length = lines.length := by
  rw [rowKittyPlaceholdersForLines]
  split <;> simp_all

end Nmux
