import Nmux.Screen.Handlers
import Nmux.Lib.Run

/-! The interactive client, one event after the other: a resize of its terminal, a piece of what is
typed, a line of input, or a frame of the server. An error ends the client. -/
namespace Nmux.Screen

open Client (InventoryFrame SurfaceUpdate WorkspacePaneSummary WorkspaceSummary)
open Live (PingSummary)
open Tui (StdinByteForward)

/-! ### Sizes -/

mutual
/-- The size of the first pane of that id, and whether there is one. -/
def applyFrontendPaneSize (paneId : String) (cols rows : UInt32) :
    WorkspacePaneSummary → Bool × WorkspacePaneSummary
  | .node fields children =>
    if fields.paneId = paneId then (true, .node { fields with cols, rows } children)
    else
      let (found, children) := applyFrontendPaneSizeIn paneId cols rows children
      (found, .node fields children)

def applyFrontendPaneSizeIn (paneId : String) (cols rows : UInt32) :
    List WorkspacePaneSummary → Bool × List WorkspacePaneSummary
  | [] => (false, [])
  | child :: rest =>
    match applyFrontendPaneSize paneId cols rows child with
    | (true, child) => (true, child :: rest)
    | (false, child) =>
      let (found, rest) := applyFrontendPaneSizeIn paneId cols rows rest
      (found, child :: rest)
end

def applyFrontendWorkspaceSize (workspace : WorkspaceSummary) (paneId : String) (cols rows : UInt32) :
    WorkspaceSummary := { workspace with
  cols, rows
  paneTree := workspace.paneTree.map fun tree => (applyFrontendPaneSize paneId cols rows tree).2 }

/-! ### Events -/

/-- What is read from the server. -/
inductive LiveSurfaceRead where
  | workspace (workspace : WorkspaceSummary)
  | presence
  | inventory (frame : InventoryFrame)
  | pong (pong : PingSummary)
  | update (update : SurfaceUpdate)
  | error (message : String)
  | noFrame

/-- `send` is a key, mouse report, focus or paste of the arguments, which is sent and nothing else. -/
inductive LiveEvent where
  | ping (seq : UInt64)
  | resize (cols rows : UInt32)
  | typed (forward : StdinByteForward)
  | line (text : String)
  | send
  | read (read : LiveSurfaceRead)

section
variable (setup : Setup) (moment : Moment)

/-- A paint with the overlay, where the output is not JSON. -/
def printWithOverlay (client : LiveClient) : Except String LiveClient :=
  if setup.args.outputJson then .ok client
  else if setup.args.redraw then
    printLiveSurfaceWithOverlay setup moment.terminal client client.activeOverlay
  else .ok client

def handleResize (client : LiveClient) (cols rows : UInt32) : Except String LiveClient := do
  let (paneCols, paneRows) ← Tui.frontendResizePaneSize setup.rects client.currentWorkspace
    client.attachedPaneId cols rows (setup.args.redraw && setup.args.stdoutTty)
  printWithOverlay setup moment { client with
    currentWorkspace :=
      applyFrontendWorkspaceSize client.currentWorkspace client.attachedPaneId paneCols paneRows }

/-- `RttTracker::record_pong`: the answer to the ping that is awaited. -/
def recordsPong (client : LiveClient) (pong : PingSummary) : Bool :=
  setup.args.redraw && setup.args.stdoutTty && pong.actorId == setup.actorId &&
    client.pendingPing == some pong.pingSeq

def handleRead (client : LiveClient) (read : LiveSurfaceRead) : Except String LiveClient :=
  match read with
  | .workspace workspace =>
    printWithOverlay setup moment { client with
      currentWorkspace := preserveLiveClientFocus workspace client.attachedPaneId }
  | .presence => .ok client
  | .inventory frame =>
    -- a patch that does not fit is dropped, and nothing painted
    match client.clientInventory.apply frame with
    | .error _ => .ok client
    | .ok clientInventory =>
      printLiveSurfaceWithOverlay setup moment.terminal { client with clientInventory } client.activeOverlay
  | .pong pong =>
    if recordsPong setup client pong then
      printLiveSurfaceWithOverlay setup moment.terminal { client with pendingPing := none }
        client.activeOverlay
    else .ok client
  | .update update => processSurfaceUpdate setup moment client update
  | .error message => .error ("live server error: " ++ message)
  | .noFrame => .ok client

/-- A line of input, or the text of the arguments. -/
def handleLine (client : LiveClient) (text : String) : Except String LiveClient :=
  repaintSpeculativeEcho setup moment setup.args.speculativeEcho
    { client with nextInputSeq := client.nextInputSeq + 1 } client.nextInputSeq text

def step (client : LiveClient) (event : LiveEvent) : Except String LiveClient :=
  match event with
  | .ping seq => .ok { client with pendingPing := some seq }
  | .resize cols rows => handleResize setup moment client cols rows
  | .typed forward => (handleForward setup moment client forward).2
  | .line text => handleLine setup moment client text
  | .send => .ok { client with nextInputSeq := client.nextInputSeq + 1 }
  | .read read => handleRead setup moment client read

end

/-- One event of a run, which an error has ended before. -/
def next (setup : Setup) (state : Except String LiveClient) (input : Moment × LiveEvent) :
    Except String LiveClient :=
  state.bind fun client => step setup input.1 client input.2

end Nmux.Screen
