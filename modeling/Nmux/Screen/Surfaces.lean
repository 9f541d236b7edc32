import Nmux.Screen.Menu

/-! How the surfaces of the panes change on the screen. A surface update goes to the cache and from
there to what is shown; it is printed by its kind. A pane that is focused shows its cached surface, a
pane that is scrolled a piece of its history, and a predicted key is put into the text at once. -/
namespace Nmux.Screen

open Client (ClientAttachState InventoryFrame ScrollbackChunkSummary SocketIdentity SurfaceRowUpdate
  SurfaceUpdate TerminalModeSummary WorkspaceSummary)
open Lib (OrderedMap)
open Live (AttachStatusSummary SessionInventorySummary)
open Tui (LiveScrollDirection)

/-! ### The daemon -/

structure AttachSnapshot where
  workspace : WorkspaceSummary
  status : AttachStatusSummary
  surface : Option SurfaceUpdate
  scrollback : Option ScrollbackChunkSummary

/-- A chunk, and what arrived on the stream before it. -/
structure ScrollbackAnswer where
  chunk : ScrollbackChunkSummary
  pendingUpdates : List SurfaceUpdate
  pendingLive : List InventoryFrame

/-- What a new attachment is answered: the attach itself, and its first scrollback if one is asked for. -/
structure AttachAnswer where
  snapshot : AttachSnapshot
  scrollback : Except String (Option ScrollbackAnswer)

/-- What the daemon answers to the requests the client makes while it handles one event. -/
structure Answers where
  newSession : Except String WorkspaceSummary
  tabSwitch : String → Except String WorkspaceSummary
  sessionInventory : Except String SessionInventorySummary
  attach : String → Except String AttachAnswer
  scrollback : String → UInt64 → UInt32 → Option UInt32 → Except String ScrollbackAnswer

/-- What is read from outside while one event is handled. -/
structure Moment where
  terminal : UInt32 × UInt32
  socketScope : Option SocketIdentity
  answers : Answers

/-! ### The cache -/

def cachedSurfaceTextStyled (state : ClientAttachState) (paneId : String) (styled : Bool) :
    Except String (Option String) :=
  match state.cachedSurface paneId with
  | none => return none
  | some surface => return some (← surface.stored.renderFor styled)

def cachedRenderedSurfaceSummary (state : ClientAttachState) (paneId : String) :
    Except String (Option RenderedSurfaceSummary) :=
  match state.cachedSurface paneId with
  | none => return none
  | some surface => return some (← surfaceSummary surface)

def cachedSurfaceMetadata (state : ClientAttachState) (paneId : String) : Option TerminalMetadataSummary :=
  (state.cachedSurface paneId).map fun surface => ⟨surface.title, surface.workingDirectory⟩

def cachedSurfaceModes (state : ClientAttachState) (paneId : String) : Option TerminalModeSummary :=
  (state.cachedSurface paneId).map (·.modes)

/-- What is cached for a pane replaces what the map has for it. -/
def insertCached {α : Type} (map : OrderedMap String α) (paneId : String) (cached : Option α) :
    OrderedMap String α :=
  match cached with
  | some value => map.insert paneId value
  | none => map

/-! ### Updates -/

/-- `process_surface_update` up to its print. -/
def LiveClient.cacheUpdate (setup : Setup) (client : LiveClient) (update : SurfaceUpdate) :
    Except String LiveClient := do
  let speculativeEcho := (client.speculativeEcho.reconcileUpdate update).2
  let state := client.surfaceState
  let (clientState, surface) ← client.clientState.applySurfaceUpdate update
  let updateSurfaceText ← surface.stored.renderFor setup.args.stdoutTty
  let currentPaneSurfaces := state.currentPaneSurfaces.insert update.paneId updateSurfaceText
  let currentPaneSurfaceSummaries := insertCached state.currentPaneSurfaceSummaries update.paneId
    (← cachedRenderedSurfaceSummary clientState update.paneId)
  let state := { state with
    currentPaneSurfaces
    currentPaneSurfaceSummaries
    currentPaneModes := state.currentPaneModes.insert update.paneId update.modes
    scrollbackViews := state.scrollbackViews.erase update.paneId }
  let state :=
    if update.paneId = client.currentWorkspace.paneId then
      { state with
        currentSurfaceMetadata := ⟨update.title, update.workingDirectory⟩
        currentModes := update.modes
        currentSurfaceText := updateSurfaceText }
    else
      { state with
        currentSurfaceText :=
          (currentPaneSurfaces.get? client.currentWorkspace.paneId).getD state.currentSurfaceText }
  return { client with speculativeEcho, clientState, surfaceState := state }

inductive LiveUpdatePrintKind where
  | surface | metadata | none
deriving DecidableEq, Repr

def liveUpdatePrintKind (previousMetadata metadata : TerminalMetadataSummary) (update : SurfaceUpdate)
    (redraw : Bool) : LiveUpdatePrintKind :=
  if update.kind = .snapshot ∨ update.patchKind = some .replaceRows then .surface
  else if redraw ∧ metadata ≠ previousMetadata then .metadata
  else if ¬redraw ∧ metadata ≠ previousMetadata then .metadata
  else .none

section
variable (setup : Setup) (moment : Moment)

/-- What either kind prints is the workspace without an overlay. -/
def printLiveUpdate (previousMetadata : TerminalMetadataSummary) (client : LiveClient)
    (update : SurfaceUpdate) : Except String LiveClient :=
  match liveUpdatePrintKind previousMetadata client.surfaceState.currentSurfaceMetadata update
      setup.args.redraw with
  | .surface => printLiveSurface setup moment.terminal client
  | .metadata => printLiveSurface setup moment.terminal client
  | .none => return client

def processSurfaceUpdate (client : LiveClient) (update : SurfaceUpdate) : Except String LiveClient := do
  let updated ← client.cacheUpdate setup update
  if setup.args.outputJson then return updated
  else printLiveUpdate setup moment client.surfaceState.currentSurfaceMetadata updated update

/-! ### Focus -/

/-- `switch_live_surface_to_workspace_pane`. -/
def switchLiveSurfaceToWorkspacePane (client : LiveClient) : Except String LiveClient := do
  let paneId := client.currentWorkspace.paneId
  let state := client.surfaceState
  let surfaceText :=
    (← cachedSurfaceTextStyled client.clientState paneId setup.args.stdoutTty).getD "(surface not cached)"
  let summary ← cachedRenderedSurfaceSummary client.clientState paneId
  let modes := (cachedSurfaceModes client.clientState paneId).getD TerminalModes.default
  return { client with
    surfaceState :=
      { currentSurfaceMetadata :=
          (cachedSurfaceMetadata client.clientState paneId).getD TerminalMetadataSummary.default
        currentModes := modes
        currentSurfaceText := surfaceText
        currentPaneSurfaces := state.currentPaneSurfaces.insert paneId surfaceText
        currentPaneSurfaceSummaries := insertCached state.currentPaneSurfaceSummaries paneId summary
        currentPaneModes := state.currentPaneModes.insert paneId modes
        scrollbackViews := state.scrollbackViews.erase paneId } }

/-- The workspace shows a leaf of that id. -/
def showsPane (workspace : WorkspaceSummary) (paneId : String) : Bool :=
  (workspacePanes workspace).any fun pane => pane.paneId == paneId

/-- `focus_live_client_pane`, which answers whether it printed. -/
def focusLiveClientPane (client : LiveClient) (paneId : String) : Except String (Bool × LiveClient) := do
  if paneId = client.attachedPaneId then return (false, client)
  else if !showsPane client.currentWorkspace paneId then return (false, client)
  else
    let client := { client with
      attachedPaneId := paneId
      currentWorkspace := { client.currentWorkspace with paneId } }
    let client ← switchLiveSurfaceToWorkspacePane setup client
    if setup.args.outputJson then return (false, client)
    else if setup.args.redraw then return (true, ← printLiveSurface setup moment.terminal client)
    else return (true, client)

def preserveLiveClientFocus (workspace : WorkspaceSummary) (paneId : String) : WorkspaceSummary :=
  if showsPane workspace paneId then { workspace with paneId } else workspace

/-! ### Scrollback -/

def scrollbackMaxStart (totalLines : UInt64) (lineCount : UInt32) : UInt64 :=
  let lineCount := (max lineCount 1).toUInt64
  if totalLines > lineCount then totalLines - lineCount + 1 else 1

def restoreLivePaneSurface (client : LiveClient) (paneId : String) : Except String LiveClient := do
  let state := client.surfaceState
  let surfaceText :=
    (← cachedSurfaceTextStyled client.clientState paneId setup.args.stdoutTty).getD "(surface not cached)"
  let summary ← cachedRenderedSurfaceSummary client.clientState paneId
  return { client with
    surfaceState := { state with
      scrollbackViews := state.scrollbackViews.erase paneId
      currentPaneSurfaces := state.currentPaneSurfaces.insert paneId surfaceText
      currentPaneSurfaceSummaries := insertCached state.currentPaneSurfaceSummaries paneId summary
      currentSurfaceText :=
        if paneId = client.currentWorkspace.paneId then surfaceText else state.currentSurfaceText } }

def renderScrollbackViewText (scrollback : ScrollbackChunkSummary) : String :=
  String.intercalate "\n" (scrollback.lines.map (·.text))

def renderScrollbackViewSummary (scrollback : ScrollbackChunkSummary) : RenderedSurfaceSummary where
  paneId := scrollback.paneId
  version := scrollback.scrollbackVersion
  cols := UInt32.ofNat (min ((scrollback.lines.map (·.text.length)).foldl max 0) (2 ^ 32 - 1))
  rows := UInt32.ofNat (min scrollback.lines.length (2 ^ 32 - 1))
  colors := scrollback.colors
  styles := scrollback.styles
  hyperlinks := scrollback.hyperlinks
  rowUpdates := scrollback.lines.zipIdx.map fun entry =>
    { row := UInt32.ofNat (min entry.2 (2 ^ 32 - 1))
      text := entry.1.text
      runs := entry.1.runs
      dirtyHash := entry.1.dirtyHash
      rowStateHash := entry.1.rowStateHash
      semanticPrompt := entry.1.semanticPrompt
      dirty := entry.1.dirty
      kittyVirtualPlaceholder := entry.1.kittyVirtualPlaceholder }

/-- `cache_scrollback_chunk`: the version of a range that is cached, in place of an earlier one. -/
def cacheScrollbackChunk (state : ClientAttachState) (chunk : ScrollbackChunkSummary) : ClientAttachState :=
  if chunk.lines.isEmpty then state
  else
    let lineCount := UInt32.ofNat (min chunk.lines.length (2 ^ 32 - 1))
    let cached : Client.ClientPaneScrollback :=
      ⟨chunk.paneId, chunk.scrollbackVersion, chunk.startLine, lineCount, chunk.totalLines⟩
    let sameRange (scrollback : Client.ClientPaneScrollback) : Bool :=
      scrollback.paneId == cached.paneId && scrollback.startLine == cached.startLine &&
        scrollback.lineCount == cached.lineCount
    { state with
      scrollbacks :=
        if state.scrollbacks.any sameRange then
          Lib.replaceFirst sameRange (fun _ => cached) state.scrollbacks
        else state.scrollbacks ++ [cached] }

/-- The inventory frames that arrived before an answer; a patch that is refused is dropped. -/
def LiveClient.applyPendingLive (client : LiveClient) (pendingLive : List InventoryFrame) : LiveClient :=
  pendingLive.foldl (fun client frame => { client with
    clientInventory := (client.clientInventory.apply frame).toOption.getD client.clientInventory }) client

/-- The view of a scrollback chunk, in place of the surface of the pane. -/
def LiveClient.showScrollback (client : LiveClient) (paneId : String) (scrollback : ScrollbackChunkSummary) :
    LiveClient :=
  let state := client.surfaceState
  let rendered := renderScrollbackViewText scrollback
  { client with
    clientState := cacheScrollbackChunk client.clientState scrollback
    surfaceState := { state with
      currentPaneSurfaces := state.currentPaneSurfaces.insert paneId rendered
      currentPaneSurfaceSummaries :=
        state.currentPaneSurfaceSummaries.insert paneId (renderScrollbackViewSummary scrollback)
      currentSurfaceText :=
        if paneId = client.currentWorkspace.paneId then rendered else state.currentSurfaceText
      scrollbackViews := state.scrollbackViews.insert paneId
        { startLine := scrollback.startLine
          lineCount := UInt32.ofNat (min scrollback.lines.length (2 ^ 32 - 1))
          totalLines := scrollback.totalLines } } }

/-- The lines `scroll_live_pane_view` asks for, as a start line and the number of last lines, or that
it goes back to the surface of the pane, or has nothing to do. -/
inductive ScrollRequest where
  | fetch (startLine : UInt64) (tailCount : Option UInt32)
  | restore
  | nothing
deriving DecidableEq, Repr

def scrollRequest (direction : LiveScrollDirection) (lineCount : UInt32)
    (existing : Option LiveScrollbackView) : ScrollRequest :=
  match direction, existing with
  | .up, none => .fetch 1 (some lineCount)
  | .up, some view => if view.startLine > 1 then .fetch (view.startLine - 1) none else .nothing
  | .down, none => .nothing
  | .down, some view =>
    if view.startLine ≥ scrollbackMaxStart view.totalLines view.lineCount then .restore
    else .fetch (view.startLine + 1) none

/-- `scroll_live_pane_view`, which answers whether it printed. -/
def scrollLivePaneView (client : LiveClient) (paneId : String) (direction : LiveScrollDirection)
    (visibleRows : UInt16) : Except String (Bool × LiveClient) := do
  if setup.args.outputJson ∨ !setup.args.redraw then return (false, client)
  else
    let lineCount := (max visibleRows 1).toUInt32
    match scrollRequest direction lineCount (client.surfaceState.scrollbackViews.get? paneId) with
    | .nothing => return (false, client)
    | .restore =>
      let client ← restoreLivePaneSurface setup client paneId
      return (true, ← printLiveSurface setup moment.terminal client)
    | .fetch startLine tailCount =>
      let answer ← moment.answers.scrollback paneId startLine lineCount tailCount
      let client := client.applyPendingLive answer.pendingLive
      let client ← answer.pendingUpdates.foldlM (LiveClient.cacheUpdate setup) client
      if answer.chunk.lines.isEmpty then return (false, client)
      else
        let client := client.showScrollback paneId answer.chunk
        return (true, ← printLiveSurface setup moment.terminal client)

/-! ### Speculative echo -/

def stdinBytesSpeculativeEchoEnabled (args : LiveArgs) : Bool :=
  args.redraw && args.stdinBytes && args.localEcho == .off && !args.outputJson

/-- `repaint_speculative_echo`, which paints the predicted text and none of the other surfaces. -/
def repaintSpeculativeEcho (enabled : Bool) (client : LiveClient) (inputSeq : UInt64) (text : String) :
    Except String LiveClient := do
  if !enabled then return client
  else
    let (predicted, speculativeEcho) := client.clientState.renderSpeculativeEcho client.speculativeEcho
      client.attachedPaneId inputSeq text setup.args.stdoutTty
    let client := { client with speculativeEcho }
    match ← predicted with
    | none => return client
    | some predicted =>
      let client := { client with
        surfaceState := { client.surfaceState with currentSurfaceText := predicted } }
      client.paint setup moment.terminal { client.frameInput with
        paneSurfaces := none
        paneSurfaceSummaries := none
        overlay := none }

end

end Nmux.Screen
