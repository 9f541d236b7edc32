import Nmux.Core.Pane

/-! What a pane sends of its surface. `PaneState.paneSurface` is the server's view of the pane with
its row data in line with its lines; the snapshot and the patch table are built from it, a patch from
the remembered row indices and palette difference as well. -/
namespace Nmux

open Protocol (SurfaceKind PatchKind RowSemanticPrompt)

@[ext]
structure PaneSurface where
  paneId : String
  version : UInt64
  cols : UInt32
  rows : UInt32
  surface : SurfaceKind
  cursor : Cursor
  modes : TerminalModes
  title : String
  workingDirectory : String
  colors : TerminalColors
  styles : List PaneStyle
  lines : List String
  rowRuns : List (List CellRun)
  semanticPrompts : List RowSemanticPrompt
  dirtyRows : List Bool
  kittyPlaceholders : List Bool
deriving DecidableEq, Repr

def PaneState.paneSurface (pane : PaneState) : PaneSurface where
  paneId := pane.id
  version := pane.surfaceVersion
  cols := pane.cols
  rows := pane.rows
  surface := pane.surface
  cursor := pane.cursor
  modes := pane.modes
  title := pane.terminalTitle
  workingDirectory := pane.terminalWorkingDirectory
  colors := pane.colors
  styles := pane.styles
  lines := pane.surfaceLines
  rowRuns := rowRunsForLines pane.surfaceLines pane.surfaceRowRuns
  semanticPrompts := rowSemanticPromptsForLines pane.surfaceLines pane.surfaceSemanticPrompts
  dirtyRows := rowDirtyFlagsForLines pane.surfaceLines pane.surfaceDirtyRows
  kittyPlaceholders := rowKittyPlaceholdersForLines pane.surfaceLines pane.surfaceKittyPlaceholders

/-! ### Row hashes -/

/-- The FNV-1a step of `stable_row_hash` and `StableHasher`. -/
def StableHasher.write (hash : UInt64) (bytes : List UInt8) : UInt64 :=
  bytes.foldl (fun hash byte => (hash ^^^ byte.toUInt64) * 0x100000001b3) hash

def StableHasher.new : UInt64 := 0xcbf29ce484222325

def stableRowHash (line : String) : UInt64 := StableHasher.write StableHasher.new line.toUTF8.data.toList

/-- `to_ne_bytes` on a little-endian machine. -/
def u32Bytes (v : UInt32) : List UInt8 :=
  [v.toUInt8, (v >>> 8).toUInt8, (v >>> 16).toUInt8, (v >>> 24).toUInt8]

def u64Bytes (v : UInt64) : List UInt8 :=
  [v.toUInt8, (v >>> 8).toUInt8, (v >>> 16).toUInt8, (v >>> 24).toUInt8,
    (v >>> 32).toUInt8, (v >>> 40).toUInt8, (v >>> 48).toUInt8, (v >>> 56).toUInt8]

structure RowStateMetadata where
  semanticPrompt : RowSemanticPrompt
  dirty : Bool
  kittyVirtualPlaceholder : Bool
deriving DecidableEq, Repr

/-- What one run feeds the hasher: a string hashes as its bytes and `0xff`, a vector as its length
and its bytes. -/
def CellRun.hashBytes (run : CellRun) : List UInt8 :=
  run.text.toUTF8.data.toList ++ [0xff] ++ u64Bytes (UInt64.ofNat run.cellWidths.length) ++
    run.cellWidths ++ u32Bytes run.styleId ++ u32Bytes run.flags ++ u32Bytes run.hyperlinkId ++
    [run.semanticContent.value.toUInt8]

def rowStateHash (runs : List CellRun) (rowMetadata : RowStateMetadata) : UInt64 :=
  StableHasher.write StableHasher.new (runs.flatMap CellRun.hashBytes ++
    [rowMetadata.semanticPrompt.value.toUInt8, rowMetadata.dirty.toUInt8,
      rowMetadata.kittyVirtualPlaceholder.toUInt8])

/-! ### Tables -/

/-- Hyperlink ids are not sent. -/
def buildCellRun (run : CellRun) : Protocol.CellRun where
  textUtf8 := some run.text
  cellWidths := some run.cellWidths
  styleId := run.styleId
  flags := run.flags
  hyperlinkId := 0
  semanticContent := run.semanticContent

def PaneSurface.rowMetadata (surface : PaneSurface) (row : Nat) : RowStateMetadata where
  semanticPrompt := surface.semanticPrompts[row]?.getD .none
  dirty := surface.dirtyRows[row]?.getD false
  kittyVirtualPlaceholder := surface.kittyPlaceholders[row]?.getD false

/-- One row of a frame, `row` being the index it is sent under. -/
def PaneSurface.buildRow (surface : PaneSurface) (row : Nat) (line : String)
    (lineRuns : List CellRun) : Protocol.SurfaceRow where
  row := UInt32.ofNat row
  runs := some (lineRuns.map buildCellRun)
  dirtyHash := stableRowHash line
  rowStateHash := rowStateHash lineRuns (surface.rowMetadata row)
  semanticPrompt := (surface.rowMetadata row).semanticPrompt
  dirty := (surface.rowMetadata row).dirty
  kittyVirtualPlaceholder := (surface.rowMetadata row).kittyVirtualPlaceholder

def buildTerminalMetadata (title workingDirectory : String) : Protocol.TerminalMetadataState :=
  { title := some title, workingDirectory := some workingDirectory }

def buildTerminalColors (colors : TerminalColors) (paletteDiff : Option PaletteDiff)
    (includeFullPalette : Bool) : Protocol.TerminalColorState where
  defaultFgRgba := colors.defaultFgRgba
  defaultBgRgba := colors.defaultBgRgba
  cursorRgba := colors.cursorRgba
  cursorRgbaSet := colors.cursorRgbaSet
  paletteRgba := if includeFullPalette then some colors.paletteRgba else none
  paletteDiffStart := (paletteDiff.map (·.start)).getD 0
  paletteDiffRgba := paletteDiff.map (·.colors)

/-- The body of `pane_surface_frame_for_pane`. -/
def PaneSurface.snapshotTable (surface : PaneSurface) : Protocol.PaneSurfaceSnapshot where
  paneId := some surface.paneId
  version := surface.version
  surface := surface.surface
  cols := surface.cols
  rows := surface.rows
  cursor := some surface.cursor
  modes := some surface.modes
  metadata := some (buildTerminalMetadata surface.title surface.workingDirectory)
  colors := some (buildTerminalColors surface.colors none true)
  styles := some surface.styles
  rowsData := some ((surface.lines.zip surface.rowRuns).mapIdx fun row (line, lineRuns) =>
    surface.buildRow row line lineRuns)
  hyperlinks := some []

/-- The row update of a remembered index: a row the surface no longer has is sent empty. -/
def PaneSurface.buildRowUpdate (surface : PaneSurface) (row : Nat) : Protocol.SurfaceRow :=
  let line := surface.lines[row]?.getD ""
  surface.buildRow row line (surface.rowRuns[row]?.getD [.plain line])

/-- The body of `pane_surface_patch_frame_for_pane`, for the pane the surface was taken from. -/
def PaneState.patchTable (pane : PaneState) (baseVersion : UInt64) : Protocol.PaneSurfacePatch :=
  let surface := pane.paneSurface
  { paneId := some surface.paneId
    baseVersion
    version := surface.version
    kind := pane.lastPatchKind
    rowUpdates := some (if pane.lastPatchKind = .replaceRows then
      pane.lastRowUpdateIndices.map fun row => surface.buildRowUpdate row.toNat else [])
    cursor := some surface.cursor
    modes := some surface.modes
    metadata := some (buildTerminalMetadata surface.title surface.workingDirectory)
    colors := some (buildTerminalColors surface.colors
      (pane.lastPaletteDiff.filter fun _ => pane.lastPatchKind = .colorOnly)
      (pane.lastPatchKind != .colorOnly)) }

def PaneState.snapshotTable (pane : PaneState) : Protocol.PaneSurfaceSnapshot :=
  pane.paneSurface.snapshotTable

end Nmux
