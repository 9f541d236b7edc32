import Nmux.Client.AttachState
import Nmux.Lib.Fields

/-! The file a client keeps its cache in. It is text, a record a line: the scope, the fetches of scrollback
and then every surface with its rows, strings and palettes in hexadecimal. The reader takes the formats of
all eight versions, whose records have grown fields, and checks a surface at its end. -/
namespace Nmux.Client

open Lib (hexEncode hexDecode utf8Text parseUnsigned parseSigned)
open Lib.Check
open Protocol (SurfaceKind CursorShape RowSemanticPrompt CellSemanticContent MouseTrackingMode MouseFormat)

/-! ### Fields -/

def parseStateU64 (value : String) : Except String UInt64 := (parseUnsigned (2 ^ 64) value).map UInt64.ofNat
def parseStateI64 (value : String) : Except String Int64 := (parseSigned (2 ^ 63) value).map Int64.ofInt
def parseStateU32 (value : String) : Except String UInt32 := (parseUnsigned (2 ^ 32) value).map UInt32.ofNat
def parseStateI8 (value : String) : Except String Int8 := (parseSigned (2 ^ 7) value).map Int8.ofInt
def parseStateUsize (value : String) : Except String Nat := parseUnsigned (2 ^ 64) value

/-- A value the schema names. -/
def parseStateEnum {names : List String} (message value : String) :
    Except String (Protocol.ByteEnum names) := do
  let kind : Protocol.ByteEnum names := ⟨← parseStateI8 value⟩
  require kind.known message
  return kind

def parseStateSurfaceKind : String → Except String SurfaceKind :=
  parseStateEnum "invalid surface kind in client state"

def parseStateCursorShape : String → Except String CursorShape :=
  parseStateEnum "invalid cursor shape in client state"

def parseStateRowSemanticPrompt : String → Except String RowSemanticPrompt :=
  parseStateEnum "invalid row semantic prompt in client state"

def parseStateCellSemanticContent : String → Except String CellSemanticContent :=
  parseStateEnum "invalid cell semantic content in client state"

def parseStateMouseTrackingMode : String → Except String MouseTrackingMode :=
  parseStateEnum "invalid mouse tracking mode in client state"

def parseStateMouseFormat : String → Except String MouseFormat :=
  parseStateEnum "invalid mouse format in client state"

def parseStateBool (value : String) : Except String Bool :=
  if value = "0" then .ok false
  else if value = "1" then .ok true
  else .error "invalid boolean in client state"

def stateBool (value : Bool) : String := if value then "1" else "0"

def hexText (text : String) : String := hexEncode text.toUTF8.toList

def decodeHexText (encoded : String) : Except String String := do
  let bytes ← hexDecode encoded
  utf8Text bytes

/-- A field that may be empty has a word of its own for that. -/
def stateHexField (text : String) : String :=
  if text.toUTF8.toList.isEmpty then "-" else hexText text

def decodeStateHexField (encoded : String) : Except String (List UInt8) :=
  if encoded = "-" then .ok [] else hexDecode encoded

def decodeFieldText (encoded : String) : Except String String := do
  let bytes ← decodeStateHexField encoded
  utf8Text bytes

def colorBytes (color : UInt32) : List UInt8 :=
  [UInt8.ofNat (color.toNat / 2 ^ 24), UInt8.ofNat (color.toNat / 2 ^ 16), UInt8.ofNat (color.toNat / 2 ^ 8),
    UInt8.ofNat color.toNat]

def colorsOfBytes : List UInt8 → List UInt32
  | first :: second :: third :: fourth :: rest =>
    UInt32.ofNat (((first.toNat * 256 + second.toNat) * 256 + third.toNat) * 256 + fourth.toNat) ::
      colorsOfBytes rest
  | _ => []

def decodePaletteRgba (encoded : String) : Except String (List UInt32) := do
  let bytes ← hexDecode encoded
  require (bytes.length % 4 == 0) "palette color data length is not divisible by four"
  return colorsOfBytes bytes

/-! ### Writing -/

def scopeRecord (scope : SocketIdentity) : List String :=
  ["scope", "socket", toString scope.dev, toString scope.ino, toString scope.ctime, toString scope.ctimeNsec]

def scrollbackRecord (scrollback : ClientPaneScrollback) : List String :=
  ["scrollback", hexText scrollback.paneId, toString scrollback.version, toString scrollback.startLine,
    toString scrollback.lineCount, toString scrollback.totalLines]

def surfaceRecord (surface : ClientPaneSurface) : List String :=
  ["surface", hexText surface.paneId, toString surface.version, toString surface.cols, toString surface.rows,
    toString surface.surface.value]

def cursorRecord : Option CursorSummary → List String
  | some cursor => ["cursor", toString cursor.row, toString cursor.col, stateBool cursor.visible,
      toString cursor.shape.value, stateBool cursor.blinking]
  | none => ["cursor", "none"]

def modesRecord (modes : TerminalModeSummary) : List String :=
  ["modes", stateBool modes.bracketedPaste, stateBool modes.mouseTracking, stateBool modes.focusReporting,
    stateBool modes.applicationKeypad, stateBool modes.applicationCursor, stateBool modes.origin,
    stateBool modes.wraparound, toString modes.mouseTrackingMode.value, toString modes.mouseFormat.value]

def colorsRecord (colors : TerminalColorSummary) : List String :=
  ["colors", toString colors.defaultFgRgba, toString colors.defaultBgRgba, toString colors.cursorRgba,
    stateBool colors.cursorRgbaSet, hexEncode (colors.paletteRgba.flatMap colorBytes)]

def styleRecord (style : StyleSummary) : List String :=
  ["style", toString style.fgRgba, toString style.bgRgba, toString style.underlineRgba, toString style.flags]

def hyperlinkRecord (hyperlink : HyperlinkSummary) : List String :=
  ["hyperlink", toString hyperlink.id, hexText hyperlink.uri, stateHexField hyperlink.osc8Id,
    stateHexField hyperlink.params]

def runRecord (index : Nat) (run : CellRunSummary) : List String :=
  ["run", toString index, hexText run.text, hexEncode run.cellWidths, toString run.styleId,
    toString run.flags, toString run.hyperlinkId, toString run.semanticContent.value]

def rowRecords (row : ClientRow) (index : Nat) : List (List String) :=
  ["row", toString index, hexText row.text] ::
    ["rowmeta", toString index, toString row.semanticPrompt.value, stateBool row.dirty,
      stateBool row.kittyPlaceholder, toString row.stateHash, toString row.dirtyHash] ::
    row.runs.map (runRecord index)

/-- The records between the first of a surface and its end. -/
def surfaceBody (surface : ClientPaneSurface) : List (List String) :=
  [cursorRecord surface.cursor, modesRecord surface.modes, ["title", hexText surface.title],
    ["pwd", hexText surface.workingDirectory], colorsRecord surface.colors] ++
    surface.styles.map styleRecord ++ surface.hyperlinks.map hyperlinkRecord ++
    (surface.rowData.zipIdx.flatMap fun row => rowRecords row.1 row.2)

def surfaceRecords (surface : ClientPaneSurface) : List (List String) :=
  surfaceRecord surface :: surfaceBody surface ++ [["end"]]

namespace ClientAttachState

def records (state : ClientAttachState) : List (List String) :=
  ["NMUX_CLIENT_STATE", "8"] :: (state.scope.toList.map scopeRecord ++
    state.scrollbacks.map scrollbackRecord ++ state.surfaces.flatMap surfaceRecords)

def encode (state : ClientAttachState) : String := Lib.recordText state.records

end ClientAttachState

/-! ### Reading -/

/-- What a `surface` line starts: nothing of the surface is read yet. -/
def startedSurface (paneId : String) (version : UInt64) (cols rows : UInt32) (surface : SurfaceKind) :
    ClientPaneSurface where
  paneId
  version
  cols
  rows
  surface
  cursor := none
  modes := TerminalModes.default
  title := ""
  workingDirectory := ""
  colors := .default
  styles := []
  hyperlinks := []
  rowData := List.replicate rows.toNat .empty

def invalidBodyLine : String := "invalid nmux client state surface body line"

def decodeCursor : List String → Except String (Option CursorSummary)
  | ["none"] => .ok none
  | [row, col, visible, shape] => do
    return some {
      row := ← parseStateU32 row
      col := ← parseStateU32 col
      visible := ← parseStateBool visible
      shape := ← parseStateCursorShape shape
      blinking := true }
  | [row, col, visible, shape, blinking] => do
    return some {
      row := ← parseStateU32 row
      col := ← parseStateU32 col
      visible := ← parseStateBool visible
      shape := ← parseStateCursorShape shape
      blinking := ← parseStateBool blinking }
  | _ => .error invalidBodyLine

def decodeModes : List String → Except String TerminalModeSummary
  | bracketedPaste :: mouseTracking :: focusReporting :: applicationKeypad :: applicationCursor :: origin ::
      wraparound :: formats => do
    let modes : TerminalModeSummary := { TerminalModes.default with
      bracketedPaste := ← parseStateBool bracketedPaste
      mouseTracking := ← parseStateBool mouseTracking
      focusReporting := ← parseStateBool focusReporting
      applicationKeypad := ← parseStateBool applicationKeypad
      applicationCursor := ← parseStateBool applicationCursor
      origin := ← parseStateBool origin
      wraparound := ← parseStateBool wraparound }
    match formats with
    | [] => return modes
    | [mouseTrackingMode, mouseFormat] =>
      return { modes with
        mouseTrackingMode := ← parseStateMouseTrackingMode mouseTrackingMode
        mouseFormat := ← parseStateMouseFormat mouseFormat }
    | _ => .error invalidBodyLine
  | _ => .error invalidBodyLine

/-- Before it had a field, a cursor color was set if it was not zero. -/
def decodeColors : List String → Except String TerminalColorSummary
  | [defaultFgRgba, defaultBgRgba, cursorRgba, paletteRgba] => do
    let cursorRgba ← parseStateU32 cursorRgba
    return {
      defaultFgRgba := ← parseStateU32 defaultFgRgba
      defaultBgRgba := ← parseStateU32 defaultBgRgba
      cursorRgba
      cursorRgbaSet := cursorRgba != 0
      paletteRgba := ← decodePaletteRgba paletteRgba
      paletteDiffStart := none
      paletteDiffRgba := [] }
  | [defaultFgRgba, defaultBgRgba, cursorRgba, cursorRgbaSet, paletteRgba] => do
    return {
      defaultFgRgba := ← parseStateU32 defaultFgRgba
      defaultBgRgba := ← parseStateU32 defaultBgRgba
      cursorRgba := ← parseStateU32 cursorRgba
      cursorRgbaSet := ← parseStateBool cursorRgbaSet
      paletteRgba := ← decodePaletteRgba paletteRgba
      paletteDiffStart := none
      paletteDiffRgba := [] }
  | _ => .error invalidBodyLine

def decodeStyle : List String → Except String StyleSummary
  | [fgRgba, bgRgba, underlineRgba, flags] => do
    return {
      fgRgba := ← parseStateU32 fgRgba
      bgRgba := ← parseStateU32 bgRgba
      underlineRgba := ← parseStateU32 underlineRgba
      flags := ← parseStateU32 flags }
  | _ => .error invalidBodyLine

def decodeHyperlink : List String → Except String HyperlinkSummary
  | [id, uri, osc8Id, params] => do
    return {
      id := ← parseStateU32 id
      uri := ← decodeHexText uri
      osc8Id := ← decodeFieldText osc8Id
      params := ← decodeFieldText params }
  | _ => .error invalidBodyLine

/-- A row of the surface is written, if there is one of that index. -/
def onRow (surface : ClientPaneSurface) (row message : String)
    (write : ClientRow → Except String ClientRow) : Except String ClientPaneSurface := do
  let index ← parseStateUsize row
  match surface.rowData[index]? with
  | none => .error message
  | some target => do
    let target ← write target
    return { surface with rowData := surface.rowData.set index target }

/-- The fields after the index of a `rowmeta` line. -/
def decodeRowMeta (target : ClientRow) : List String → Except String ClientRow
  | [semanticPrompt] => do
    return { target with semanticPrompt := ← parseStateRowSemanticPrompt semanticPrompt }
  | [semanticPrompt, dirty] => do
    return { target with
      semanticPrompt := ← parseStateRowSemanticPrompt semanticPrompt
      dirty := ← parseStateBool dirty }
  | [semanticPrompt, dirty, kittyPlaceholder] => do
    return { target with
      semanticPrompt := ← parseStateRowSemanticPrompt semanticPrompt
      dirty := ← parseStateBool dirty
      kittyPlaceholder := ← parseStateBool kittyPlaceholder }
  | [semanticPrompt, dirty, kittyPlaceholder, stateHash] => do
    return { target with
      semanticPrompt := ← parseStateRowSemanticPrompt semanticPrompt
      dirty := ← parseStateBool dirty
      kittyPlaceholder := ← parseStateBool kittyPlaceholder
      stateHash := ← parseStateU64 stateHash }
  | [semanticPrompt, dirty, kittyPlaceholder, stateHash, dirtyHash] => do
    return { target with
      semanticPrompt := ← parseStateRowSemanticPrompt semanticPrompt
      dirty := ← parseStateBool dirty
      kittyPlaceholder := ← parseStateBool kittyPlaceholder
      stateHash := ← parseStateU64 stateHash
      dirtyHash := ← parseStateU64 dirtyHash }
  | _ => .error invalidBodyLine

/-- The fields after the index of a `run` line. -/
def decodeRun : List String → Except String CellRunSummary
  | text :: cellWidths :: styleId :: flags :: links => do
    let run : CellRunSummary := {
      text := ← decodeHexText text
      cellWidths := ← hexDecode cellWidths
      styleId := ← parseStateU32 styleId
      flags := ← parseStateU32 flags
      hyperlinkId := 0
      semanticContent := .output }
    match links with
    | [] => return run
    | [hyperlinkId] => return { run with hyperlinkId := ← parseStateU32 hyperlinkId }
    | [hyperlinkId, semanticContent] =>
      return { run with
        hyperlinkId := ← parseStateU32 hyperlinkId
        semanticContent := ← parseStateCellSemanticContent semanticContent }
    | _ => .error invalidBodyLine
  | _ => .error invalidBodyLine

/-- A line between the first of a surface and its end. -/
def decodeBodyLine (surface : ClientPaneSurface) : List String → Except String ClientPaneSurface
  | "cursor" :: fields => return { surface with cursor := ← decodeCursor fields }
  | "modes" :: fields => return { surface with modes := ← decodeModes fields }
  | ["title", value] => return { surface with title := ← decodeHexText value }
  | ["pwd", value] => return { surface with workingDirectory := ← decodeHexText value }
  | "colors" :: fields => return { surface with colors := ← decodeColors fields }
  | "style" :: fields => return { surface with styles := surface.styles ++ [← decodeStyle fields] }
  | "hyperlink" :: fields =>
    return { surface with hyperlinks := surface.hyperlinks ++ [← decodeHyperlink fields] }
  | ["row", row, text] =>
    onRow surface row "client state row index outside surface" fun target =>
      return { target with text := ← decodeHexText text }
  | "rowmeta" :: row :: fields => do
    require (1 ≤ fields.length && fields.length ≤ 5) invalidBodyLine
    onRow surface row "client state row metadata index outside surface" (decodeRowMeta · fields)
  | "run" :: row :: fields => do
    require (4 ≤ fields.length && fields.length ≤ 6) invalidBodyLine
    onRow surface row "client state run row index outside surface" fun target =>
      return { target with runs := target.runs ++ [← decodeRun fields] }
  | _ => .error invalidBodyLine

/-- A row whose runs do not make up its text gets one plain run. -/
def rowRunsForText (row : ClientRow) : ClientRow :=
  if row.runs.isEmpty || renderRunSummaries row.runs != row.text then { row with runs := [.plain row.text] }
  else row

/-- The end of a surface: its tables are checked and its rows made whole. -/
def finishSurface (surface : ClientPaneSurface) : Except String ClientPaneSurface := do
  validateHyperlinkTable surface.hyperlinks
  let rowData := surface.rowData.map rowRunsForText
  let styles := if surface.styles.isEmpty then defaultStyleSummaries else surface.styles
  each (fun row => validateCellRunStyleIds row.runs styles) rowData
  each (fun row => validateCellRunHyperlinkIds row.runs surface.hyperlinks) rowData
  return { surface with rowData, styles }

def decodeScrollback (paneId version startLine lineCount totalLines : String) :
    Except String ClientPaneScrollback := do
  let startLine ← parseStateU64 startLine
  let lineCount ← parseStateU32 lineCount
  require (startLine != 0) "cached scrollback start_line must be 1-based"
  require (lineCount != 0) "cached scrollback line_count must be nonzero"
  return {
    paneId := ← decodeHexText paneId
    version := ← parseStateU64 version
    startLine
    lineCount
    totalLines := ← parseStateU64 totalLines }

def decodeSurfaceLine (paneId version cols rows : String) (surface : Option String) :
    Except String ClientPaneSurface := do
  let paneId ← decodeHexText paneId
  let version ← parseStateU64 version
  let cols ← parseStateU32 cols
  let rows ← parseStateU32 rows
  let surface ← match surface with
    | some surface => parseStateSurfaceKind surface
    | none => .ok .main
  return startedSurface paneId version cols rows surface

/-- What is read so far: the state, and the surface that has not come to its end. -/
structure StateReader where
  state : ClientAttachState
  surface : Option ClientPaneSurface

/-- A line outside of surfaces. -/
def readOuterLine (state : ClientAttachState) : List String → Except String StateReader
  | ["scope", "socket", dev, ino] => do
    let scope : SocketIdentity := {
      dev := ← parseStateU64 dev, ino := ← parseStateU64 ino, ctime := 0, ctimeNsec := 0 }
    return ⟨{ state with scope := some scope }, none⟩
  | ["scope", "socket", dev, ino, ctime, ctimeNsec] => do
    let scope : SocketIdentity := {
      dev := ← parseStateU64 dev
      ino := ← parseStateU64 ino
      ctime := ← parseStateI64 ctime
      ctimeNsec := ← parseStateI64 ctimeNsec }
    return ⟨{ state with scope := some scope }, none⟩
  | ["scrollback", paneId, version, startLine, lineCount, totalLines] => do
    let scrollback ← decodeScrollback paneId version startLine lineCount totalLines
    return ⟨{ state with scrollbacks := state.scrollbacks ++ [scrollback] }, none⟩
  | ["surface", paneId, version, cols, rows] => do
    let surface ← decodeSurfaceLine paneId version cols rows none
    return ⟨state, some surface⟩
  | ["surface", paneId, version, cols, rows, kind] => do
    let surface ← decodeSurfaceLine paneId version cols rows (some kind)
    return ⟨state, some surface⟩
  | _ => .error "invalid nmux client state surface line"

def readLine (reader : StateReader) (line : String) : Except String StateReader :=
  match reader.surface with
  | none => readOuterLine reader.state (Lib.words line)
  | some surface =>
    if line = "end" then do
      let surface ← finishSurface surface
      return ⟨{ reader.state with surfaces := reader.state.surfaces ++ [surface] }, none⟩
    else do
      let surface ← decodeBodyLine surface (Lib.words line)
      return { reader with surface := some surface }

def stateHeaders : List String :=
  ["NMUX_CLIENT_STATE 1", "NMUX_CLIENT_STATE 2", "NMUX_CLIENT_STATE 3", "NMUX_CLIENT_STATE 4",
    "NMUX_CLIENT_STATE 5", "NMUX_CLIENT_STATE 6", "NMUX_CLIENT_STATE 7", "NMUX_CLIENT_STATE 8"]

/-- `ClientAttachState::decode`. -/
def ClientAttachState.decode (encoded : String) : Except String ClientAttachState :=
  match Lib.lines encoded with
  | [] => .error "invalid nmux client state header"
  | header :: lines => do
    require (stateHeaders.contains header) "invalid nmux client state header"
    let reader ← lines.foldlM readLine ⟨.default, none⟩
    match reader.surface with
    | none => return reader.state
    | some _ => .error "unterminated nmux client state surface"

end Nmux.Client
