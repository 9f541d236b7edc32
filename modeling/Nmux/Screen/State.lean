import Nmux.Client.Inventory
import Nmux.Client.Scrollback
import Nmux.Client.SpeculativeEcho
import Nmux.Tui.Overlay

/-! What the interactive client keeps, and the frame on its screen. A paint takes the workspace of the
client and whatever else its caller hands it, so the frame need not be that of what the client keeps.
How a frame becomes text is a parameter, a function of what is drawn. -/
namespace Nmux.Screen

open Client (ClientAttachState ClientInventoryCache ClientPaneSurface HyperlinkSummary
  ScrollbackChunkSummary SpeculativeEchoOverlay StyleSummary SurfaceRowUpdate SurfaceUpdate
  TerminalColorSummary TerminalModeSummary WorkspacePaneFields WorkspacePaneSummary WorkspaceSummary)
open Lib (OrderedMap)
open Lib.Word16
open Tui (AttachMouseInput DetachKey HitRegion RectLibrary TuiOverlay)

/-! ### Arguments -/

inductive LocalEcho where
  | off | tty
deriving DecidableEq, Repr

/-- The arguments that decide what is painted, and whether the output is a terminal. -/
structure LiveArgs where
  outputJson : Bool
  redraw : Bool
  stdoutTty : Bool
  stdinBytes : Bool
  speculativeEcho : Bool
  localEcho : LocalEcho
  detachKey : DetachKey
deriving DecidableEq, Repr

/-! ### Surfaces -/

structure TerminalMetadataSummary where
  title : String
  workingDirectory : String
deriving DecidableEq, Repr

/-- `TerminalMetadataSummary::default`. -/
def TerminalMetadataSummary.default : TerminalMetadataSummary := ⟨"", ""⟩

structure RenderedSurfaceSummary where
  paneId : String
  version : UInt64
  cols : UInt32
  rows : UInt32
  colors : TerminalColorSummary
  styles : List StyleSummary
  hyperlinks : List HyperlinkSummary
  rowUpdates : List SurfaceRowUpdate
deriving DecidableEq, Repr

/-- `ClientPaneSurface::summary`. -/
def surfaceSummary (surface : ClientPaneSurface) : Except String RenderedSurfaceSummary := do
  return {
    paneId := surface.paneId
    version := surface.version
    cols := surface.cols
    rows := surface.rows
    colors := surface.colors
    styles := surface.styles
    hyperlinks := surface.hyperlinks
    rowUpdates := ← surface.stored.summaryRows }

structure LiveScrollbackView where
  startLine : UInt64
  lineCount : UInt32
  totalLines : UInt64
deriving DecidableEq, Repr

structure LiveSurfaceState where
  currentSurfaceMetadata : TerminalMetadataSummary
  currentModes : TerminalModeSummary
  currentSurfaceText : String
  currentPaneSurfaces : OrderedMap String String
  currentPaneSurfaceSummaries : OrderedMap String RenderedSurfaceSummary
  currentPaneModes : OrderedMap String TerminalModeSummary
  scrollbackViews : OrderedMap String LiveScrollbackView

/-! ### Panes -/

mutual
def collectLeafPanes : WorkspacePaneSummary → List WorkspacePaneFields
  | .node fields children => if children.isEmpty then [fields] else collectLeafPanesIn children

def collectLeafPanesIn : List WorkspacePaneSummary → List WorkspacePaneFields
  | [] => []
  | child :: rest => collectLeafPanes child ++ collectLeafPanesIn rest
end

def workspacePanes (workspace : WorkspaceSummary) : List WorkspacePaneFields :=
  match workspace.paneTree with
  | some root => collectLeafPanes root
  | none =>
    [{ paneId := workspace.paneId
       cols := workspace.cols
       rows := workspace.rows
       resizePolicy := workspace.resizePolicy
       splitAxis := .none }]

/-! ### Frames -/

/-- `WorkspaceFrameInput`. -/
structure WorkspaceFrameInput where
  workspace : WorkspaceSummary
  activeSurfaceText : String
  paneSurfaces : Option (OrderedMap String String)
  paneSurfaceSummaries : Option (OrderedMap String RenderedSurfaceSummary)
  overlay : Option TuiOverlay

/-- What `render_leaf_pane` draws in a pane: rows in their styles, or lines of text. -/
inductive PaneBody where
  | structured (rowUpdates : List SurfaceRowUpdate) (styles : List StyleSummary)
  | text (body : String)
deriving DecidableEq, Repr

def paneBody (input : WorkspaceFrameInput) (paneId : String) : PaneBody :=
  match input.paneSurfaceSummaries.bind (·.get? paneId) with
  | some surface => .structured surface.rowUpdates surface.styles
  | none =>
    if paneId = input.workspace.paneId then .text input.activeSurfaceText
    else .text ((input.paneSurfaces.bind (·.get? paneId)).getD "(surface not cached)")

/-- The panes of the frame with what is drawn in them. -/
def paneBodies (input : WorkspaceFrameInput) : List (String × PaneBody) :=
  (workspacePanes input.workspace).map fun pane => (pane.paneId, paneBody input pane.paneId)

/-- How a buffer of the terminal library is drawn and read back as text. -/
structure Canvas where
  text : WorkspaceSummary → List (String × PaneBody) → Option TuiOverlay → UInt16 → UInt16 → String

structure TuiFrame where
  text : String
  hits : List HitRegion
deriving DecidableEq, Repr

structure PaintedFrame where
  cols : UInt16
  rows : UInt16
  frame : TuiFrame
deriving DecidableEq, Repr

/-- What does not change while the client runs. -/
structure Setup where
  rects : RectLibrary
  canvas : Canvas
  args : LiveArgs
  actorId : String

section
variable (setup : Setup)

/-- `render_workspace_frame`. -/
def renderWorkspaceFrame (input : WorkspaceFrameInput) (cols rows : UInt16) : Except String TuiFrame := do
  let hits ← Tui.renderWorkspaceFrame setup.rects input.workspace input.overlay cols rows
  return { text := setup.canvas.text input.workspace (paneBodies input) input.overlay cols rows, hits }

/-- `RedrawState::render_workspace` in a terminal of the given size, without the status bar. -/
def renderWorkspace (terminal : UInt32 × UInt32) (input : WorkspaceFrameInput) :
    Except String PaintedFrame := do
  let area := Tui.redrawTerminalArea setup.rects terminal.1 terminal.2
  let workspaceHeight := max (saturatingSub area.height 1) 1
  let frame ← renderWorkspaceFrame setup input (max area.width 1) workspaceHeight
  return { cols := max area.width 1, rows := workspaceHeight, frame }

end

/-! ### The client -/

/-- The state of `run_live`. `pendingPing` is the ping an answer is awaited for. -/
structure LiveClient where
  attachedPaneId : String
  currentWorkspace : WorkspaceSummary
  surfaceState : LiveSurfaceState
  clientState : ClientAttachState
  speculativeEcho : SpeculativeEchoOverlay
  clientInventory : ClientInventoryCache
  nextInputSeq : UInt64
  pendingPing : Option UInt64
  activeMenuIndex : Option ℕ
  activeOverlay : Option TuiOverlay
  painted : Option PaintedFrame

/-- What the screen is to show: everything the client keeps. -/
def LiveClient.frameInput (client : LiveClient) : WorkspaceFrameInput where
  workspace := client.currentWorkspace
  activeSurfaceText := client.surfaceState.currentSurfaceText
  paneSurfaces := some client.surfaceState.currentPaneSurfaces
  paneSurfaceSummaries := some client.surfaceState.currentPaneSurfaceSummaries
  overlay := client.activeOverlay

section
variable (setup : Setup) (terminal : UInt32 × UInt32)

/-- A frame on the screen of the client, where there is one to redraw. -/
def LiveClient.paint (client : LiveClient) (input : WorkspaceFrameInput) : Except String LiveClient := do
  if setup.args.redraw ∧ setup.args.stdoutTty then
    return { client with painted := some (← renderWorkspace setup terminal input) }
  else return client

/-- `print_live_surface_with_overlay` with all surfaces of the client. -/
def printLiveSurfaceWithOverlay (client : LiveClient) (overlay : Option TuiOverlay) :
    Except String LiveClient :=
  client.paint setup terminal { client.frameInput with overlay }

/-- `print_live_surface` with all surfaces of the client. -/
def printLiveSurface (client : LiveClient) : Except String LiveClient :=
  printLiveSurfaceWithOverlay setup terminal client none

end

end Nmux.Screen
