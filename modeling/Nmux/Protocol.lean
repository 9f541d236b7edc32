import Mathlib.Tactic

/-! The enumerations of the wire schema and the FlatBuffers tables that carry a pane surface.
FlatBuffers enums are open: the generated type is a newtype over `i8`, every byte can arrive, and
`variant_name` tells the named values from the rest. The tables keep the optional fields of the
schema, so that a reader can see which defaults a decoder fills in. -/
namespace Nmux.Protocol

/-- A schema enum of underlying type `byte` whose values `0, 1, ..` have the given names. -/
structure ByteEnum (names : List String) where
  value : Int8
deriving DecidableEq, Repr, Inhabited

/-- The generated `variant_name`: the name of a schema value, nothing for any other byte. -/
def ByteEnum.variantName {names : List String} (e : ByteEnum names) : Option String :=
  if 0 ≤ e.value then names[e.value.toNatClampNeg]? else none

/-- The value is one the schema names. -/
def ByteEnum.known {names : List String} (e : ByteEnum names) : Bool := e.variantName.isSome

/-- The generated `Debug` text. -/
def ByteEnum.debug {names : List String} (e : ByteEnum names) : String :=
  match e.variantName with
  | some name => name
  | none => "<UNKNOWN " ++ toString e.value ++ ">"

/-! ### Enumerations -/

abbrev SplitAxis := ByteEnum ["None", "Horizontal", "Vertical"]
def SplitAxis.none : SplitAxis := ⟨0⟩
def SplitAxis.horizontal : SplitAxis := ⟨1⟩
def SplitAxis.vertical : SplitAxis := ⟨2⟩

abbrev SurfaceKind := ByteEnum ["Main", "Alternate"]
def SurfaceKind.main : SurfaceKind := ⟨0⟩
def SurfaceKind.alternate : SurfaceKind := ⟨1⟩

abbrev CursorShape := ByteEnum ["Block", "Beam", "Underline"]
def CursorShape.block : CursorShape := ⟨0⟩

abbrev MouseTrackingMode := ByteEnum ["None", "X10", "Normal", "Button", "Any"]
def MouseTrackingMode.none : MouseTrackingMode := ⟨0⟩
def MouseTrackingMode.x10 : MouseTrackingMode := ⟨1⟩
def MouseTrackingMode.normal : MouseTrackingMode := ⟨2⟩
def MouseTrackingMode.button : MouseTrackingMode := ⟨3⟩
def MouseTrackingMode.any : MouseTrackingMode := ⟨4⟩

abbrev MouseFormat := ByteEnum ["X10", "Utf8", "Sgr", "Urxvt", "SgrPixels"]
def MouseFormat.x10 : MouseFormat := ⟨0⟩
def MouseFormat.utf8 : MouseFormat := ⟨1⟩
def MouseFormat.sgr : MouseFormat := ⟨2⟩
def MouseFormat.urxvt : MouseFormat := ⟨3⟩
def MouseFormat.sgrPixels : MouseFormat := ⟨4⟩

abbrev ResizePolicy := ByteEnum ["Fixed", "Leader", "ActiveClient", "Manual"]
def ResizePolicy.fixed : ResizePolicy := ⟨0⟩
def ResizePolicy.leader : ResizePolicy := ⟨1⟩
def ResizePolicy.activeClient : ResizePolicy := ⟨2⟩
def ResizePolicy.manual : ResizePolicy := ⟨3⟩

abbrev PatchKind := ByteEnum
  ["ReplaceRows", "CursorOnly", "ModeOnly", "FullRefreshRequired", "ColorOnly"]
def PatchKind.replaceRows : PatchKind := ⟨0⟩
def PatchKind.cursorOnly : PatchKind := ⟨1⟩
def PatchKind.modeOnly : PatchKind := ⟨2⟩
def PatchKind.fullRefreshRequired : PatchKind := ⟨3⟩
def PatchKind.colorOnly : PatchKind := ⟨4⟩

open PatchKind in
@[simp] theorem PatchKind.distinct :
    replaceRows ≠ cursorOnly ∧ replaceRows ≠ modeOnly ∧ replaceRows ≠ fullRefreshRequired ∧ replaceRows ≠ colorOnly ∧
      cursorOnly ≠ replaceRows ∧ cursorOnly ≠ modeOnly ∧ cursorOnly ≠ fullRefreshRequired ∧ cursorOnly ≠ colorOnly ∧
      modeOnly ≠ replaceRows ∧ modeOnly ≠ cursorOnly ∧ modeOnly ≠ fullRefreshRequired ∧ modeOnly ≠ colorOnly ∧
      fullRefreshRequired ≠ replaceRows ∧ fullRefreshRequired ≠ cursorOnly ∧ fullRefreshRequired ≠ modeOnly ∧ fullRefreshRequired ≠ colorOnly ∧
      colorOnly ≠ replaceRows ∧ colorOnly ≠ cursorOnly ∧ colorOnly ≠ modeOnly ∧ colorOnly ≠ fullRefreshRequired := by
  decide

abbrev RowSemanticPrompt := ByteEnum ["None", "Prompt", "Continuation"]
def RowSemanticPrompt.none : RowSemanticPrompt := ⟨0⟩

abbrev CellSemanticContent := ByteEnum ["Output", "Input", "Prompt"]
def CellSemanticContent.output : CellSemanticContent := ⟨0⟩

abbrev AttachSurfaceState := ByteEnum ["Current", "Snapshot", "Patch"]
def AttachSurfaceState.current : AttachSurfaceState := ⟨0⟩
def AttachSurfaceState.snapshot : AttachSurfaceState := ⟨1⟩
def AttachSurfaceState.patch : AttachSurfaceState := ⟨2⟩

abbrev ResizeReason := ByteEnum ["FrontendViewport", "UserCommand", "Attach", "Policy"]
def ResizeReason.frontendViewport : ResizeReason := ⟨0⟩
def ResizeReason.userCommand : ResizeReason := ⟨1⟩

abbrev ControlCommandKind := ByteEnum
  ["PaneSplit", "TabNew", "TabClose", "SessionKill", "TabSwitch", "SessionNew", "SessionList"]
def ControlCommandKind.paneSplit : ControlCommandKind := ⟨0⟩
def ControlCommandKind.tabNew : ControlCommandKind := ⟨1⟩
def ControlCommandKind.tabClose : ControlCommandKind := ⟨2⟩
def ControlCommandKind.sessionKill : ControlCommandKind := ⟨3⟩
def ControlCommandKind.tabSwitch : ControlCommandKind := ⟨4⟩
def ControlCommandKind.sessionNew : ControlCommandKind := ⟨5⟩
def ControlCommandKind.sessionList : ControlCommandKind := ⟨6⟩

abbrev PresenceKind := ByteEnum ["Joined", "Updated", "Left", "HealthProbe", "Heartbeat"]
def PresenceKind.joined : PresenceKind := ⟨0⟩
def PresenceKind.heartbeat : PresenceKind := ⟨4⟩

/-- `enum ErrorCode`, of underlying type `ushort`. -/
structure ErrorCode where
  value : UInt16
deriving DecidableEq, Repr

def ErrorCode.unknown : ErrorCode := ⟨0⟩
def ErrorCode.sessionNotFound : ErrorCode := ⟨2⟩
def ErrorCode.paneNotFound : ErrorCode := ⟨3⟩
def ErrorCode.permissionDenied : ErrorCode := ⟨4⟩
def ErrorCode.staleVersion : ErrorCode := ⟨5⟩

/-! ### Surface tables -/

/-- `table CellRun`. -/
structure CellRun where
  textUtf8 : Option String
  cellWidths : Option (List UInt8)
  styleId : UInt32
  flags : UInt32
  hyperlinkId : UInt32
  semanticContent : CellSemanticContent
deriving DecidableEq, Repr

/-- `table SurfaceRow`, and `table RowUpdate`, which has the same fields. -/
structure SurfaceRow where
  row : UInt32
  runs : Option (List CellRun)
  dirtyHash : UInt64
  rowStateHash : UInt64
  semanticPrompt : RowSemanticPrompt
  dirty : Bool
  kittyVirtualPlaceholder : Bool
deriving DecidableEq, Repr

/-- `table Style`. -/
structure Style where
  fgRgba : UInt32
  bgRgba : UInt32
  underlineRgba : UInt32
  flags : UInt32
deriving DecidableEq, Repr

/-- `table Hyperlink`. -/
structure Hyperlink where
  id : UInt32
  uri : Option String
  osc8Id : Option String
  params : Option String
deriving DecidableEq, Repr

/-- `table CursorState`. -/
structure CursorState where
  row : UInt32
  col : UInt32
  visible : Bool
  shape : CursorShape
  blinking : Bool
deriving DecidableEq, Repr

/-- `table TerminalModeState`. -/
structure TerminalModeState where
  bracketedPaste : Bool
  mouseTracking : Bool
  focusReporting : Bool
  applicationKeypad : Bool
  applicationCursor : Bool
  origin : Bool
  wraparound : Bool
  mouseTrackingMode : MouseTrackingMode
  mouseFormat : MouseFormat
deriving DecidableEq, Repr

/-- `table TerminalMetadataState`. -/
structure TerminalMetadataState where
  title : Option String
  workingDirectory : Option String
deriving DecidableEq, Repr

/-- `table TerminalColorState`. -/
structure TerminalColorState where
  defaultFgRgba : UInt32
  defaultBgRgba : UInt32
  cursorRgba : UInt32
  cursorRgbaSet : Bool
  paletteRgba : Option (List UInt32)
  paletteDiffStart : UInt32
  paletteDiffRgba : Option (List UInt32)
deriving DecidableEq, Repr

/-- `table PaneSurfaceSnapshot`. -/
structure PaneSurfaceSnapshot where
  paneId : Option String
  version : UInt64
  surface : SurfaceKind
  cols : UInt32
  rows : UInt32
  cursor : Option CursorState
  modes : Option TerminalModeState
  metadata : Option TerminalMetadataState
  colors : Option TerminalColorState
  styles : Option (List Style)
  rowsData : Option (List SurfaceRow)
  hyperlinks : Option (List Hyperlink)
deriving DecidableEq, Repr

/-- `table PaneSurfacePatch`. -/
structure PaneSurfacePatch where
  paneId : Option String
  baseVersion : UInt64
  version : UInt64
  kind : PatchKind
  rowUpdates : Option (List SurfaceRow)
  cursor : Option CursorState
  modes : Option TerminalModeState
  metadata : Option TerminalMetadataState
  colors : Option TerminalColorState
deriving DecidableEq, Repr

end Nmux.Protocol
