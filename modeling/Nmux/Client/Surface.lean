import Nmux.Core.Surface
import Nmux.Lib.Check

/-! The client's side of a surface frame: the decoded update, the checks a decoder and a cached
surface make, and `ClientPaneSurface`, which a snapshot replaces and a patch changes in place. The
source keeps seven row vectors that it always resizes and writes together; here they are one list of
rows, so the vectors of a surface cannot differ in length. -/
namespace Nmux.Client

open Protocol (SurfaceKind PatchKind RowSemanticPrompt CellSemanticContent CursorShape)
open Lib.Check

inductive SurfaceUpdateKind where
  | snapshot
  | patch
deriving DecidableEq, Repr

abbrev CursorSummary := Protocol.CursorState
abbrev TerminalModeSummary := Protocol.TerminalModeState
abbrev StyleSummary := Protocol.Style
abbrev CellRunSummary := Nmux.CellRun

structure TerminalColorSummary where
  defaultFgRgba : UInt32
  defaultBgRgba : UInt32
  cursorRgba : UInt32
  cursorRgbaSet : Bool
  paletteRgba : List UInt32
  paletteDiffStart : Option UInt32
  paletteDiffRgba : List UInt32
deriving DecidableEq, Repr

def TerminalColorSummary.default : TerminalColorSummary where
  defaultFgRgba := 0
  defaultBgRgba := 0
  cursorRgba := 0
  cursorRgbaSet := false
  paletteRgba := []
  paletteDiffStart := none
  paletteDiffRgba := []

structure HyperlinkSummary where
  id : UInt32
  uri : String
  osc8Id : String
  params : String
deriving DecidableEq, Repr

structure SurfaceRowUpdate where
  row : UInt32
  text : String
  runs : List CellRunSummary
  dirtyHash : UInt64
  rowStateHash : UInt64
  semanticPrompt : RowSemanticPrompt
  dirty : Bool
  kittyVirtualPlaceholder : Bool
deriving DecidableEq, Repr

structure SurfaceUpdate where
  kind : SurfaceUpdateKind
  paneId : String
  version : UInt64
  baseVersion : Option UInt64
  patchKind : Option PatchKind
  cols : Option UInt32
  rows : Option UInt32
  surface : Option SurfaceKind
  cursor : Option CursorSummary
  modes : TerminalModeSummary
  title : String
  workingDirectory : String
  colors : Option TerminalColorSummary
  rowUpdates : List SurfaceRowUpdate
  styles : List StyleSummary
  hyperlinks : List HyperlinkSummary
  text : String
deriving DecidableEq, Repr

/-- One row of a cached surface. -/
structure ClientRow where
  text : String
  runs : List CellRunSummary
  dirtyHash : UInt64
  semanticPrompt : RowSemanticPrompt
  dirty : Bool
  kittyPlaceholder : Bool
  stateHash : UInt64
deriving DecidableEq, Repr

/-- What `from_snapshot` resizes with. -/
def ClientRow.empty : ClientRow where
  text := ""
  runs := []
  dirtyHash := 0
  semanticPrompt := .none
  dirty := false
  kittyPlaceholder := false
  stateHash := 0

structure ClientPaneSurface where
  paneId : String
  version : UInt64
  cols : UInt32
  rows : UInt32
  surface : SurfaceKind
  cursor : Option CursorSummary
  modes : TerminalModeSummary
  title : String
  workingDirectory : String
  colors : TerminalColorSummary
  styles : List StyleSummary
  hyperlinks : List HyperlinkSummary
  rowData : List ClientRow
deriving DecidableEq, Repr

/-! ### Decoding -/

def renderRunSummaries (runs : List CellRunSummary) : String := cellRunsText runs

def decodedCellRun (run : Protocol.CellRun) : CellRunSummary where
  text := run.textUtf8.getD ""
  cellWidths := run.cellWidths.getD []
  styleId := run.styleId
  flags := run.flags
  hyperlinkId := run.hyperlinkId
  semanticContent := run.semanticContent

def decodedSurfaceRow (row : Protocol.SurfaceRow) : SurfaceRowUpdate :=
  let runs := (row.runs.getD []).map decodedCellRun
  { row := row.row
    text := renderRunSummaries runs
    runs
    dirtyHash := row.dirtyHash
    rowStateHash := row.rowStateHash
    semanticPrompt := row.semanticPrompt
    dirty := row.dirty
    kittyVirtualPlaceholder := row.kittyVirtualPlaceholder }

/-- A palette difference is present when its entries are. -/
def decodedTerminalColors (colors : Protocol.TerminalColorState) : TerminalColorSummary :=
  let paletteDiffRgba := colors.paletteDiffRgba.getD []
  { defaultFgRgba := colors.defaultFgRgba
    defaultBgRgba := colors.defaultBgRgba
    cursorRgba := colors.cursorRgba
    cursorRgbaSet := colors.cursorRgbaSet
    paletteRgba := colors.paletteRgba.getD []
    paletteDiffStart := if paletteDiffRgba.isEmpty then none else some colors.paletteDiffStart
    paletteDiffRgba }

def decodedHyperlink (hyperlink : Protocol.Hyperlink) : HyperlinkSummary where
  id := hyperlink.id
  uri := hyperlink.uri.getD ""
  osc8Id := hyperlink.osc8Id.getD ""
  params := hyperlink.params.getD ""

def defaultStyleSummaries : List StyleSummary := [PaneStyle.default]

def renderDecodedRows (rows : List SurfaceRowUpdate) : String :=
  String.intercalate "\n" (rows.map (·.text))

/-- The fields `surface_update_from_frame` reads out of a snapshot, before its checks. -/
def decodedSnapshot (snapshot : Protocol.PaneSurfaceSnapshot) : SurfaceUpdate :=
  let rowUpdates := (snapshot.rowsData.getD []).map decodedSurfaceRow
  { kind := .snapshot
    paneId := snapshot.paneId.getD ""
    version := snapshot.version
    baseVersion := none
    patchKind := none
    cols := some snapshot.cols
    rows := some snapshot.rows
    surface := some snapshot.surface
    cursor := snapshot.cursor
    modes := snapshot.modes.getD TerminalModes.default
    title := (snapshot.metadata.bind (·.title)).getD ""
    workingDirectory := (snapshot.metadata.bind (·.workingDirectory)).getD ""
    colors := snapshot.colors.map decodedTerminalColors
    rowUpdates
    styles := snapshot.styles.getD defaultStyleSummaries
    hyperlinks := (snapshot.hyperlinks.getD []).map decodedHyperlink
    text := renderDecodedRows rowUpdates }

/-- The fields `surface_update_from_frame` reads out of a patch, before its checks. -/
def decodedPatch (patch : Protocol.PaneSurfacePatch) : SurfaceUpdate :=
  let rowUpdates := (patch.rowUpdates.getD []).map decodedSurfaceRow
  { kind := .patch
    paneId := patch.paneId.getD ""
    version := patch.version
    baseVersion := some patch.baseVersion
    patchKind := some patch.kind
    cols := none
    rows := none
    surface := none
    cursor := patch.cursor
    modes := patch.modes.getD TerminalModes.default
    title := (patch.metadata.bind (·.title)).getD ""
    workingDirectory := (patch.metadata.bind (·.workingDirectory)).getD ""
    colors := patch.colors.map decodedTerminalColors
    rowUpdates
    styles := []
    hyperlinks := []
    text := renderDecodedRows rowUpdates }

/-! ### Checks -/

def validatePatchKind (patchKind : PatchKind) : Except String Unit :=
  require patchKind.known ("unknown surface patch kind " ++ toString patchKind.value)

def validateSurfaceKind (surface : SurfaceKind) : Except String Unit :=
  require surface.known ("unknown surface kind " ++ toString surface.value)

def validateCursorSummary (cursor : Option CursorSummary) : Except String Unit :=
  match cursor with
  | some cursor => require cursor.shape.known ("unknown cursor shape " ++ toString cursor.shape.value)
  | none => .ok ()

def validateTerminalModeSummary (modes : TerminalModeSummary) : Except String Unit := do
  require modes.mouseTrackingMode.known
    ("unknown mouse tracking mode " ++ toString modes.mouseTrackingMode.value)
  require modes.mouseFormat.known ("unknown mouse format " ++ toString modes.mouseFormat.value)

def terminalColorsHavePaletteDiff (colors : TerminalColorSummary) : Bool :=
  colors.paletteDiffStart.isSome || !colors.paletteDiffRgba.isEmpty

/-- Only a color-only patch may carry a palette difference. -/
def validatePaletteDiffScope (kind : SurfaceUpdateKind) (patchKind : Option PatchKind)
    (colors : Option TerminalColorSummary) : Except String Unit :=
  match colors with
  | none => .ok ()
  | some colors =>
    if !terminalColorsHavePaletteDiff colors then .ok ()
    else
      match kind with
      | .snapshot => .error "surface snapshot cannot carry palette diff"
      | .patch =>
        require (patchKind = some .colorOnly) "non-color surface patch cannot carry palette diff"

def validateNoRowPatchPayload (patchKind : PatchKind) (rows : List SurfaceRowUpdate) :
    Except String Unit :=
  require (rows.isEmpty || !(patchKind = .cursorOnly || patchKind = .modeOnly ||
      patchKind = .colorOnly || patchKind = .fullRefreshRequired))
    (patchKind.debug ++ " patch cannot carry row updates")

/-- Every row is inside the surface and named once: `seen` marks the rows met so far. -/
def validateRowUpdateIndicesFrom (rowCount : Nat) (seen : List Bool) :
    List SurfaceRowUpdate → Except String Unit
  | [] => .ok ()
  | row :: rows =>
    match seen[row.row.toNat]? with
    | none => .error ("surface row " ++ toString row.row ++ " is outside " ++ toString rowCount ++
        " row surface")
    | some true => .error ("surface row " ++ toString row.row ++ " is repeated in one update")
    | some false => validateRowUpdateIndicesFrom rowCount (seen.set row.row.toNat true) rows

def validateRowUpdateIndices (rows : List SurfaceRowUpdate) (rowCount : Nat) : Except String Unit :=
  validateRowUpdateIndicesFrom rowCount (List.replicate rowCount false) rows

def validateRowSemanticPrompt (prompt : RowSemanticPrompt) : Except String Unit :=
  require prompt.known ("unknown row semantic prompt " ++ toString prompt.value)

def validateCellRunSemanticContent : List CellRunSummary → Except String Unit :=
  each fun run => require run.semanticContent.known
    ("cell run references unknown semantic content " ++ toString run.semanticContent.value)

def validateRowUpdateTerminalEnums : List SurfaceRowUpdate → Except String Unit :=
  each fun row => do
    validateRowSemanticPrompt row.semanticPrompt
    validateCellRunSemanticContent row.runs

/-- An empty style table counts as one style. -/
def validateCellRunStyleIds (runs : List CellRunSummary) (styles : List StyleSummary) :
    Except String Unit :=
  each (fun run => require (run.styleId.toNat < max styles.length 1)
    ("cell run references unknown style_id " ++ toString run.styleId)) runs

def validateRowUpdateStyleIds (rows : List SurfaceRowUpdate) (styles : List StyleSummary) :
    Except String Unit :=
  each (fun row => validateCellRunStyleIds row.runs styles) rows

def validateCellRunHyperlinkIds (runs : List CellRunSummary) (hyperlinks : List HyperlinkSummary) :
    Except String Unit :=
  each (fun run => require
    (run.hyperlinkId == 0 || hyperlinks.any fun hyperlink => hyperlink.id == run.hyperlinkId)
    ("cell run references unknown hyperlink_id " ++ toString run.hyperlinkId)) runs

def validateRowUpdateHyperlinkIds (rows : List SurfaceRowUpdate)
    (hyperlinks : List HyperlinkSummary) : Except String Unit :=
  each (fun row => validateCellRunHyperlinkIds row.runs hyperlinks) rows

/-- The entries after `before`: ids are not zero and not repeated, and every entry has a target. -/
def validateHyperlinkTableFrom (before : List HyperlinkSummary) :
    List HyperlinkSummary → Except String Unit
  | [] => .ok ()
  | hyperlink :: rest => do
    require (hyperlink.id != 0) "hyperlink table entry uses reserved id 0"
    require (!hyperlink.uri.isEmpty)
      ("hyperlink " ++ toString hyperlink.id ++ " is missing target uri")
    require (!before.any fun existing => existing.id == hyperlink.id)
      ("duplicate hyperlink id " ++ toString hyperlink.id)
    validateHyperlinkTableFrom (before ++ [hyperlink]) rest

def validateHyperlinkTable (hyperlinks : List HyperlinkSummary) : Except String Unit :=
  validateHyperlinkTableFrom [] hyperlinks

/-! ### The cached surface -/

/-- The row a row update leaves behind; a row sent without runs becomes one plain run. -/
def SurfaceRowUpdate.clientRow (row : SurfaceRowUpdate) : ClientRow where
  text := row.text
  runs := if row.runs.isEmpty then [.plain row.text] else row.runs
  dirtyHash := row.dirtyHash
  semanticPrompt := row.semanticPrompt
  dirty := row.dirty
  kittyPlaceholder := row.kittyVirtualPlaceholder
  stateHash := row.rowStateHash

/-- `apply_rows`, on the rows alone: `rows` is the declared row count its error names. -/
def applyRows (rows : UInt32) (rowData : List ClientRow) :
    List SurfaceRowUpdate → Except String (List ClientRow)
  | [] => .ok rowData
  | row :: rest =>
    if row.row.toNat < rowData.length then
      applyRows rows (rowData.set row.row.toNat row.clientRow) rest
    else .error ("surface row " ++ toString row.row ++ " is outside " ++ toString rows ++
      " row surface")

/-- The palette difference applied to the cached palette. Colors that carry neither a difference
nor a palette keep the cached one. -/
def TerminalColorSummary.materialize (colors base : TerminalColorSummary) :
    Except String TerminalColorSummary := do
  let palette ← match colors.paletteDiffStart with
    | some start =>
      if base.paletteRgba.length < start.toNat then
        .error ("palette diff start " ++ toString start ++ " exceeds cached palette length " ++
          toString base.paletteRgba.length)
      else .ok (base.paletteRgba.take start.toNat ++ colors.paletteDiffRgba)
    | none => .ok (if colors.paletteRgba.isEmpty then base.paletteRgba else colors.paletteRgba)
  return { colors with paletteRgba := palette, paletteDiffStart := none, paletteDiffRgba := [] }

def ClientPaneSurface.fromSnapshot (update : SurfaceUpdate) : Except String ClientPaneSurface := do
  validatePaletteDiffScope .snapshot none update.colors
  let cols ← update.cols.elim (.error "surface snapshot missing cols") .ok
  let rows ← update.rows.elim (.error "surface snapshot missing rows") .ok
  let styles := if update.styles.isEmpty then defaultStyleSummaries else update.styles
  validateSurfaceKind (update.surface.getD .main)
  validateCursorSummary update.cursor
  validateTerminalModeSummary update.modes
  validateHyperlinkTable update.hyperlinks
  validateRowUpdateIndices update.rowUpdates rows.toNat
  validateRowUpdateStyleIds update.rowUpdates styles
  validateRowUpdateHyperlinkIds update.rowUpdates update.hyperlinks
  let rowData ← applyRows rows (List.replicate rows.toNat .empty) update.rowUpdates
  return {
    paneId := update.paneId
    version := update.version
    cols
    rows
    surface := update.surface.getD .main
    cursor := update.cursor
    modes := update.modes
    title := update.title
    workingDirectory := update.workingDirectory
    colors := update.colors.getD .default
    styles
    hyperlinks := update.hyperlinks
    rowData }

/-- A row patch, a cursor patch and a mode patch must not change the colors. -/
def validateColorsUnchanged (colors : Option TerminalColorSummary) (cached : TerminalColorSummary)
    (message : String) : Except String Unit :=
  require (colors.all (· == cached)) message

/-- The checks every patch passes before its kind is looked at. -/
def ClientPaneSurface.validatePatch (surface : ClientPaneSurface) (update : SurfaceUpdate) :
    Except String Unit := do
  require (update.paneId == surface.paneId)
    ("surface patch pane mismatch: expected " ++ surface.paneId ++ ", got " ++ update.paneId)
  require (update.baseVersion == some surface.version)
    ("surface patch base version mismatch: expected " ++ toString surface.version ++ ", got " ++
      (update.baseVersion.elim "None" fun version => "Some(" ++ toString version ++ ")"))
  update.patchKind.elim (.ok ()) validatePatchKind
  validatePaletteDiffScope update.kind update.patchKind update.colors
  validateCursorSummary update.cursor
  validateTerminalModeSummary update.modes
  require update.hyperlinks.isEmpty "surface patch cannot change hyperlink table"
  update.patchKind.elim (.ok ()) fun kind => validateNoRowPatchPayload kind update.rowUpdates
  require (update.patchKind != some .fullRefreshRequired) "surface patch requires full refresh"

def ClientPaneSurface.applyPatch (surface : ClientPaneSurface) (update : SurfaceUpdate) :
    Except String ClientPaneSurface := do
  surface.validatePatch update
  -- every accepted kind moves the cursor, the title, the working directory and the version
  let moved := { surface with
    cursor := update.cursor
    title := update.title
    workingDirectory := update.workingDirectory
    version := update.version }
  if update.patchKind = some .cursorOnly then
    validateColorsUnchanged update.colors surface.colors "cursor-only patch changes terminal colors"
    return moved
  else if update.patchKind = some .modeOnly then
    validateColorsUnchanged update.colors surface.colors "mode-only patch changes terminal colors"
    return { moved with modes := update.modes }
  else if update.patchKind = some .colorOnly then
    let colors ← update.colors.elim (.error "color-only patch is missing terminal colors") .ok
    let colors ← colors.materialize surface.colors
    return { moved with colors, modes := update.modes }
  else
    require (update.patchKind == some .replaceRows)
      ("unsupported surface patch kind: " ++
        (update.patchKind.elim "None" fun kind => "Some(" ++ kind.debug ++ ")"))
    validateColorsUnchanged update.colors surface.colors
      "replace-rows patch changes terminal colors"
    validateRowUpdateTerminalEnums update.rowUpdates
    validateRowUpdateIndices update.rowUpdates surface.rowData.length
    validateRowUpdateStyleIds update.rowUpdates surface.styles
    validateRowUpdateHyperlinkIds update.rowUpdates surface.hyperlinks
    let rowData ← applyRows surface.rows surface.rowData update.rowUpdates
    return { moved with rowData, modes := update.modes }

def ClientPaneSurface.applyUpdate (surface : ClientPaneSurface) (update : SurfaceUpdate) :
    Except String ClientPaneSurface :=
  match update.kind with
  | .snapshot => ClientPaneSurface.fromSnapshot update
  | .patch => surface.applyPatch update

end Nmux.Client
