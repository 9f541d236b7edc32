import Nmux.Client.AttachState
import Nmux.Client.SurfaceChecks
import Nmux.Lib.InPlace

/-! The cached surface as the client keeps it: seven vectors with an entry a row, changed in place. An
index outside its vector stops the client, so it is an error here that no check reports. -/
namespace Nmux.Client

open Lib.Check
open Lib.InPlace
open Protocol (SurfaceKind RowSemanticPrompt)

/-- `ClientPaneSurface`, vector by vector. -/
structure StoredSurface where
  paneId : String
  version : UInt64
  cols : UInt32
  rows : UInt32
  surface : SurfaceKind
  cursor : Option CursorSummary
  modes : TerminalModeSummary
  title : String
  workingDirectory : String
  colors : TerminalColorSummary
  styles : List StyleSummary
  hyperlinks : List HyperlinkSummary
  rowText : List String
  rowRuns : List (List CellRunSummary)
  rowDirtyHashes : List UInt64
  rowSemanticPrompts : List RowSemanticPrompt
  rowDirty : List Bool
  rowKittyPlaceholders : List Bool
  rowStateHashes : List UInt64
deriving DecidableEq, Repr

/-- `xs[index]`. -/
def indexed {α : Type} (xs : List α) (index : Nat) : Except String α :=
  match xs[index]? with
  | some x => .ok x
  | none => .error "index out of bounds"

/-- `xs[index] = x`. -/
def assigned {α : Type} (xs : List α) (index : Nat) (x : α) : Except String (List α) :=
  if index < xs.length then .ok (xs.set index x) else .error "index out of bounds"

/-- `xs[..end]`. -/
def slicedTo {α : Type} (xs : List α) (stop : Nat) : Except String (List α) :=
  if stop ≤ xs.length then .ok (xs.take stop) else .error "range end index out of range"

/-- `Vec::resize`. -/
def resized {α : Type} (xs : List α) (count : Nat) (x : α) : List α :=
  xs.take count ++ List.replicate (count - xs.length) x

namespace StoredSurface

/-! ### Updates -/

/-- A field that is a vector gets an entry. -/
def assign {α : Type} (field : StoredSurface → List α) (write : StoredSurface → List α → StoredSurface)
    (index : Nat) (x : α) : EStateM String StoredSurface Unit := fun surface =>
  match assigned (field surface) index x with
  | .ok xs => .ok () (write surface xs)
  | .error message => .error message surface

/-- The loop of `apply_rows`. -/
def applyRows : List SurfaceRowUpdate → EStateM String StoredSurface Unit
  | [] => return ()
  | row :: rest => do
    let index := row.row.toNat
    inspect fun surface => require (index < surface.rowText.length) ("surface row " ++ toString row.row ++
      " is outside " ++ toString surface.rows ++ " row surface")
    assign (·.rowText) (fun surface rowText => { surface with rowText }) index row.text
    assign (·.rowRuns) (fun surface rowRuns => { surface with rowRuns }) index
      (if row.runs.isEmpty then [.plain row.text] else row.runs)
    assign (·.rowDirtyHashes) (fun surface rowDirtyHashes => { surface with rowDirtyHashes }) index
      row.dirtyHash
    assign (·.rowSemanticPrompts) (fun surface rowSemanticPrompts => { surface with rowSemanticPrompts })
      index row.semanticPrompt
    assign (·.rowDirty) (fun surface rowDirty => { surface with rowDirty }) index row.dirty
    assign (·.rowKittyPlaceholders)
      (fun surface rowKittyPlaceholders => { surface with rowKittyPlaceholders }) index
      row.kittyVirtualPlaceholder
    assign (·.rowStateHashes) (fun surface rowStateHashes => { surface with rowStateHashes }) index
      row.rowStateHash
    applyRows rest

/-- The surface `from_snapshot` starts from: no rows. -/
def started (update : SurfaceUpdate) (cols rows : UInt32) : StoredSurface where
  paneId := update.paneId
  version := update.version
  cols
  rows
  surface := update.surface.getD .main
  cursor := update.cursor
  modes := update.modes
  title := update.title
  workingDirectory := update.workingDirectory
  colors := update.colors.getD .default
  styles := if update.styles.isEmpty then defaultStyleSummaries else update.styles
  hyperlinks := update.hyperlinks
  rowText := []
  rowRuns := []
  rowDirtyHashes := []
  rowSemanticPrompts := []
  rowDirty := []
  rowKittyPlaceholders := []
  rowStateHashes := []

def resizeRows (surface : StoredSurface) (rowCount : Nat) : StoredSurface :=
  { surface with
    rowText := resized surface.rowText rowCount ""
    rowRuns := resized surface.rowRuns rowCount []
    rowDirtyHashes := resized surface.rowDirtyHashes rowCount 0
    rowSemanticPrompts := resized surface.rowSemanticPrompts rowCount .none
    rowDirty := resized surface.rowDirty rowCount false
    rowKittyPlaceholders := resized surface.rowKittyPlaceholders rowCount false
    rowStateHashes := resized surface.rowStateHashes rowCount 0 }

def fromSnapshot (update : SurfaceUpdate) : Except String StoredSurface := do
  validatePaletteDiffScope .snapshot none update.colors
  let cols ← update.cols.elim (.error "surface snapshot missing cols") .ok
  let rows ← update.rows.elim (.error "surface snapshot missing rows") .ok
  let surface := started update cols rows
  validateSurfaceKind surface.surface
  validateCursorSummary surface.cursor
  validateTerminalModeSummary surface.modes
  validateHyperlinkTable surface.hyperlinks
  let rowCount := surface.rows.toNat
  let surface := surface.resizeRows rowCount
  validateRowUpdateIndices update.rowUpdates rowCount
  validateRowUpdateStyleIds update.rowUpdates surface.styles
  validateRowUpdateHyperlinkIds update.rowUpdates surface.hyperlinks
  match applyRows update.rowUpdates surface with
  | .ok () surface => return surface
  | .error message _ => throw message

/-- The assignments every accepted patch ends with. -/
def moveTo (update : SurfaceUpdate) (surface : StoredSurface) : StoredSurface :=
  { surface with
    cursor := update.cursor
    title := update.title
    workingDirectory := update.workingDirectory
    version := update.version }

/-- The checks every patch passes before its kind is looked at. -/
def validatePatch (surface : StoredSurface) (update : SurfaceUpdate) : Except String Unit := do
  require (update.paneId == surface.paneId)
    ("surface patch pane mismatch: expected " ++ surface.paneId ++ ", got " ++ update.paneId)
  require (update.baseVersion == some surface.version)
    ("surface patch base version mismatch: expected " ++ toString surface.version ++ ", got " ++
      (update.baseVersion.elim "None" fun version => "Some(" ++ toString version ++ ")"))
  update.patchKind.elim (.ok ()) validatePatchKind
  validatePaletteDiffScope update.kind update.patchKind update.colors
  validateCursorSummary update.cursor
  validateTerminalModeSummary update.modes
  require update.hyperlinks.isEmpty "surface patch cannot change hyperlink table"
  update.patchKind.elim (.ok ()) fun kind => validateNoRowPatchPayload kind update.rowUpdates
  require (update.patchKind != some .fullRefreshRequired) "surface patch requires full refresh"

def applyPatch (update : SurfaceUpdate) : EStateM String StoredSurface Unit := do
  inspect fun surface => surface.validatePatch update
  if update.patchKind = some .cursorOnly then
    inspect fun surface => validateColorsUnchanged update.colors surface.colors
      "cursor-only patch changes terminal colors"
    modify (moveTo update)
  else if update.patchKind = some .modeOnly then
    inspect fun surface => validateColorsUnchanged update.colors surface.colors
      "mode-only patch changes terminal colors"
    modify fun surface => { surface.moveTo update with modes := update.modes }
  else if update.patchKind = some .colorOnly then
    let colors ← inspect fun _ => update.colors.elim (.error "color-only patch is missing terminal colors") .ok
    let colors ← inspect fun surface => colors.materialize surface.colors
    modify fun surface => { surface.moveTo update with colors, modes := update.modes }
  else
    inspect fun _ => require (update.patchKind == some .replaceRows)
      ("unsupported surface patch kind: " ++
        (update.patchKind.elim "None" fun kind => "Some(" ++ kind.debug ++ ")"))
    inspect fun surface => validateColorsUnchanged update.colors surface.colors
      "replace-rows patch changes terminal colors"
    inspect fun _ => validateRowUpdateTerminalEnums update.rowUpdates
    inspect fun surface => validateRowUpdateIndices update.rowUpdates surface.rowText.length
    inspect fun surface => validateRowUpdateStyleIds update.rowUpdates surface.styles
    inspect fun surface => validateRowUpdateHyperlinkIds update.rowUpdates surface.hyperlinks
    applyRows update.rowUpdates
    modify fun surface => { surface.moveTo update with modes := update.modes }

def applyUpdate (update : SurfaceUpdate) : EStateM String StoredSurface Unit :=
  match update.kind with
  | .snapshot => fun surface =>
    match fromSnapshot update with
    | .ok replaced => .ok () replaced
    | .error message => .error message surface
  | .patch => applyPatch update

/-! ### Rendering -/

/-- The rows up to the last one with text. -/
def visibleRowCount (surface : StoredSurface) : Nat :=
  match surface.rowText.reverse.findIdx? fun row => !row.isEmpty with
  | some fromEnd => surface.rowText.length - fromEnd
  | none => 0

def renderText (surface : StoredSurface) : Except String String := do
  let rows ← slicedTo surface.rowText surface.visibleRowCount
  return String.intercalate "\n" rows

/-- The parameters `style_to_sgr` collects. -/
def sgrParams (style : StyleSummary) : List String :=
  let set (bit : UInt32) := style.flags &&& bit != 0
  let rgb (rgba : UInt32) := toString (rgba >>> 24) ++ ";" ++ toString ((rgba >>> 16) &&& 0xff) ++ ";" ++
    toString ((rgba >>> 8) &&& 0xff)
  (if set 0x1 then ["1"] else []) ++ (if set 0x4 then ["2"] else []) ++ (if set 0x2 then ["3"] else []) ++
    (if set 0x100 then ["4"] else if set 0x200 then ["21"] else if set 0x7c00 then ["4"] else []) ++
    (if set 0x8 then ["5"] else []) ++ (if set 0x10 then ["7"] else []) ++
    (if set 0x20 then ["8"] else []) ++ (if set 0x40 then ["9"] else []) ++
    (if set 0x80 then ["53"] else []) ++
    (if style.fgRgba != 0 then ["38;2;" ++ rgb style.fgRgba] else []) ++
    (if style.bgRgba != 0 then ["48;2;" ++ rgb style.bgRgba] else [])

def styleToSgr (style : StyleSummary) : String :=
  let params := sgrParams style
  if params.isEmpty then "" else "\x1b[" ++ String.intercalate ";" params ++ "m"

/-- A run in its style; the default style, and an id outside the table, need no escape. -/
def renderStyledRun (styles : List StyleSummary) (run : CellRunSummary) : String :=
  match styles[run.styleId.toNat]? with
  | some style =>
    if style.fgRgba != 0 || style.bgRgba != 0 || style.flags != 0 then
      styleToSgr style ++ run.text ++ "\x1b[0m"
    else run.text
  | none => run.text

def renderStyledRow (surface : StoredSurface) (row : Nat) : Except String String := do
  let runs ← indexed surface.rowRuns row
  if runs.isEmpty then indexed surface.rowText row
  else return String.join (runs.map (renderStyledRun surface.styles))

def renderStyledText (surface : StoredSurface) : Except String String := do
  let rows ← (List.range surface.visibleRowCount).mapM surface.renderStyledRow
  return String.intercalate "\n" rows

def hasStyledRuns (surface : StoredSurface) : Bool :=
  1 < surface.styles.length ||
    surface.styles.head?.any fun style => style.fgRgba != 0 || style.bgRgba != 0 || style.flags != 0

/-- One row of a `summary`. -/
def summaryRow (surface : StoredSurface) (row : Nat) : Except String SurfaceRowUpdate := do
  if 2 ^ 32 ≤ row then throw "surface row index fits in u32"
  else
    return {
      row := UInt32.ofNat row
      text := ← indexed surface.rowText row
      runs := ← indexed surface.rowRuns row
      dirtyHash := ← indexed surface.rowDirtyHashes row
      rowStateHash := ← indexed surface.rowStateHashes row
      semanticPrompt := ← indexed surface.rowSemanticPrompts row
      dirty := ← indexed surface.rowDirty row
      kittyVirtualPlaceholder := ← indexed surface.rowKittyPlaceholders row }

/-- The rows of `summary`. -/
def summaryRows (surface : StoredSurface) : Except String (List SurfaceRowUpdate) :=
  (List.range surface.visibleRowCount).mapM surface.summaryRow

end StoredSurface

/-! ### The cache -/

structure StoredAttachState where
  scope : Option SocketIdentity
  surfaces : List StoredSurface
  scrollbacks : List ClientPaneScrollback
deriving DecidableEq, Repr

def StoredSurface.renderFor (styled : Bool) (surface : StoredSurface) : Except String String :=
  if styled && surface.hasStyledRuns then surface.renderStyledText else surface.renderText

/-- An update of a cached surface, with what is rendered of it. -/
def StoredSurface.updateAndRender (update : SurfaceUpdate) (styled : Bool) :
    EStateM String StoredSurface String := do
  StoredSurface.applyUpdate update
  inspect (·.renderFor styled)

/-- `apply_surface_update_styled`. -/
def StoredAttachState.applySurfaceUpdateStyled (update : SurfaceUpdate) (styled : Bool) :
    EStateM String StoredAttachState String := fun state =>
  match onFirst (·.paneId == update.paneId) (StoredSurface.updateAndRender update styled) state.surfaces with
  | some (.ok text surfaces) => .ok text { state with surfaces }
  | some (.error message surfaces) => .error message { state with surfaces }
  | none =>
    if update.kind ≠ .snapshot then
      .error ("cannot apply pane " ++ update.paneId ++ " patch without a cached snapshot") state
    else
      match StoredSurface.fromSnapshot update with
      | .error message => .error message state
      | .ok surface =>
        match surface.renderFor styled with
        | .error message => .error message state
        | .ok text => .ok text { state with surfaces := state.surfaces ++ [surface] }

end Nmux.Client
