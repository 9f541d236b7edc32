import Nmux.Screen.Surfaces

/-! One event of the interactive client: a resize of the terminal, a piece of what is typed, a line of
input, or a frame of the server. Every handler changes what the client keeps, some of them paint, and
what goes to a pane is collected in order; an error ends the client. -/
namespace Nmux.Screen

open Client (ClientAttachState ClientPaneSurface InventoryFrame ScrollbackChunkSummary SurfaceUpdate
  TerminalModeSummary WorkspacePaneSummary WorkspaceSummary)
open Lib (OrderedMap)
open Live (AttachStatusSummary PingSummary)
open Tui (AttachMouseInput LiveMouseDispatch MenuAction OverlayAction SgrMouseInput StdinByteForward
  StdinKeyInput liveMouseDispatchForWorkspaceSize splitStdinBytesForDetach stdinByteForwards)

/-! ### Attaching -/

structure RenderedAttach where
  workspace : WorkspaceSummary
  status : AttachStatusSummary
  surfaceMetadata : TerminalMetadataSummary
  modes : TerminalModeSummary
  surface : RenderedSurfaceSummary
  surfaceText : Option String

def validateAttachSurfaceUpdate (status : AttachStatusSummary) (update : SurfaceUpdate) :
    Except String Unit :=
  if update.paneId ≠ status.paneId then
    .error ("attach surface pane_id " ++ update.paneId ++ " does not match attach status pane_id " ++
      status.paneId)
  else if (status.surfaceState = .snapshot ∧ update.kind = .snapshot) ∨
      (status.surfaceState = .patch ∧ update.kind = .patch) then .ok ()
  else if status.surfaceState = .current then
    .error "attach status Current cannot include a surface frame"
  else
    .error ("attach status " ++ status.surfaceState.debug ++ " does not match surface update " ++
      (if update.kind = .snapshot then "Snapshot" else "Patch"))

def cachedCurrentSurface (state : ClientAttachState) (paneId : String) (version : UInt64) :
    Except String ClientPaneSurface :=
  match state.cachedSurface paneId with
  | none => .error ("current attach has no cached surface for pane " ++ paneId)
  | some surface =>
    if surface.version ≠ version then
      .error ("current attach surface version mismatch for pane " ++ paneId ++ ": cached " ++
        toString surface.version ++ ", status " ++ toString version)
    else .ok surface

def applyScope (state : ClientAttachState) (scope : Option Client.SocketIdentity) : ClientAttachState :=
  if state.scope ≠ scope then { scope, surfaces := [], scrollbacks := [] } else { state with scope }

def renderAttach (state : ClientAttachState) (snapshot : AttachSnapshot) :
    Except String (ClientAttachState × RenderedAttach) := do
  let paneId := snapshot.status.paneId
  let (state, surfaceText) ← match snapshot.surface with
    | some update => do
      validateAttachSurfaceUpdate snapshot.status update
      let (state, surface) ← state.applySurfaceUpdate update
      pure (state, ← surface.stored.renderText)
    | none => do
      if snapshot.status.surfaceState ≠ .current then
        .error ("attach status " ++ snapshot.status.surfaceState.debug ++ " requires a matching surface frame")
      else do
        let surface ← cachedCurrentSurface state paneId snapshot.status.surfaceVersion
        pure (state, ← surface.stored.renderText)
  let surface ← cachedCurrentSurface state paneId snapshot.status.surfaceVersion
  let summary ← surfaceSummary surface
  let state := match snapshot.scrollback with
    | some scrollback => cacheScrollbackChunk state scrollback
    | none => state
  return (state, {
    workspace := snapshot.workspace
    status := snapshot.status
    surfaceMetadata := ⟨surface.title, surface.workingDirectory⟩
    modes := surface.modes
    surface := summary
    surfaceText := some surfaceText })

def resizePolicyLabel (policy : Protocol.ResizePolicy) : String :=
  if policy = .fixed then "fixed"
  else if policy = .leader then "leader"
  else if policy = .activeClient then "active-client"
  else if policy = .manual then "manual"
  else "unknown"

/-- `WorkspaceSummary::display_line`. -/
def displayLine (workspace : WorkspaceSummary) : String :=
  "session=" ++ workspace.sessionId ++ " tab=" ++ workspace.tabId ++ " pane=" ++ workspace.paneId ++
    " size=" ++ toString workspace.cols ++ "x" ++ toString workspace.rows ++ " resize=" ++
    resizePolicyLabel workspace.resizePolicy

/-- What is cached for the panes of the workspace, where the map has nothing for them. -/
def seedCached {α : Type} (cached : String → Except String (Option α)) (workspace : WorkspaceSummary)
    (map : OrderedMap String α) : Except String (OrderedMap String α) :=
  (workspacePanes workspace).foldlM (fun map pane => do
    if (map.get? pane.paneId).isSome then return map
    else return insertCached map pane.paneId (← cached pane.paneId)) map

def seedCachedPaneSurfaces (surfaces : OrderedMap String String) (workspace : WorkspaceSummary)
    (clientState : ClientAttachState) (styled : Bool) : Except String (OrderedMap String String) :=
  seedCached (fun paneId => cachedSurfaceTextStyled clientState paneId styled) workspace surfaces

def seedCachedPaneSurfaceSummaries (surfaces : OrderedMap String RenderedSurfaceSummary)
    (workspace : WorkspaceSummary) (clientState : ClientAttachState) :
    Except String (OrderedMap String RenderedSurfaceSummary) :=
  seedCached (cachedRenderedSurfaceSummary clientState) workspace surfaces

def seedCachedPaneModes (modes : OrderedMap String TerminalModeSummary) (workspace : WorkspaceSummary)
    (clientState : ClientAttachState) : Except String (OrderedMap String TerminalModeSummary) :=
  seedCached (fun paneId => .ok (cachedSurfaceModes clientState paneId)) workspace modes

section
variable (setup : Setup) (moment : Moment)

/-- The surfaces of a client that has just attached. -/
def attachedSurfaceState (clientState : ClientAttachState) (rendered : RenderedAttach) :
    Except String LiveSurfaceState := do
  let attachedPaneId := rendered.status.paneId
  let styled := setup.args.stdoutTty
  let surfaceText ←
    if styled ∧ rendered.surfaceText.isSome then cachedSurfaceTextStyled clientState attachedPaneId true
    else pure rendered.surfaceText
  let (surfaceText, modes, surfaceMetadata) ←
    match surfaceText with
    | some text => pure (some text, rendered.modes, rendered.surfaceMetadata)
    | none =>
      pure (← cachedSurfaceTextStyled clientState attachedPaneId styled,
        (cachedSurfaceModes clientState attachedPaneId).getD rendered.modes,
        (cachedSurfaceMetadata clientState attachedPaneId).getD TerminalMetadataSummary.default)
  let initialSurfaceText := surfaceText.getD (displayLine rendered.workspace)
  return {
    currentSurfaceMetadata := surfaceMetadata
    currentModes := modes
    currentSurfaceText := initialSurfaceText
    currentPaneSurfaces := ← seedCachedPaneSurfaces
      (OrderedMap.empty.insert attachedPaneId initialSurfaceText) rendered.workspace clientState styled
    currentPaneSurfaceSummaries := ← seedCachedPaneSurfaceSummaries
      (OrderedMap.empty.insert attachedPaneId rendered.surface) rendered.workspace clientState
    currentPaneModes := ← seedCachedPaneModes (OrderedMap.empty.insert attachedPaneId modes)
      rendered.workspace clientState
    scrollbackViews := OrderedMap.empty }

/-- `print_live_rendered`, which prints the text the surfaces start with. -/
def printLiveRendered (client : LiveClient) : Except String LiveClient :=
  if setup.args.outputJson then .ok client
  else client.paint setup moment.terminal { client.frameInput with overlay := none }

/-- `switch_live_session` up to its paint, with the updates that came with the scrollback. -/
def attachLiveSession (client : LiveClient) (sessionId : String) :
    Except String (LiveClient × List SurfaceUpdate) := do
  let answer ← moment.answers.attach sessionId
  let clientState := applyScope client.clientState moment.socketScope
  let (clientState, rendered) ← renderAttach clientState answer.snapshot
  let surfaceState ← attachedSurfaceState setup clientState rendered
  let scrollback ← answer.scrollback
  let client := { client with
    attachedPaneId := answer.snapshot.status.paneId
    currentWorkspace := rendered.workspace
    surfaceState
    clientState
    nextInputSeq := 1 }
  match scrollback with
  | none => return (← printLiveRendered setup moment client, [])
  | some scrollback =>
    let client := client.applyPendingLive scrollback.pendingLive
    let client := { client with
      clientState := cacheScrollbackChunk client.clientState scrollback.chunk }
    return (← printLiveRendered setup moment client, scrollback.pendingUpdates)

/-- `switch_live_session`: a new attachment, painted, and then the updates. -/
def switchLiveSession (client : LiveClient) (sessionId : String) : Except String LiveClient := do
  let (client, pendingUpdates) ← attachLiveSession setup moment client sessionId
  pendingUpdates.foldlM (processSurfaceUpdate setup moment) client

/-! ### Keys -/

/-- `repaint_live_overlay`. -/
def repaintLiveOverlay (client : LiveClient) (overlay : Option Tui.TuiOverlay) : Except String LiveClient :=
  printLiveSurfaceWithOverlay setup moment.terminal client overlay

/-- Another workspace of the daemon and the cached surface of its pane, then a paint. -/
def showWorkspace (client : LiveClient) (workspace : WorkspaceSummary) : Except String LiveClient := do
  let client := { client with
    currentWorkspace := workspace
    attachedPaneId := workspace.paneId }
  switchLiveSurfaceToWorkspacePane setup client

def openLiveMenuOverlay (client : LiveClient) (action : MenuAction) : Except String LiveClient := do
  if action = .newSession then
    let client := { client with activeOverlay := none, activeMenuIndex := none }
    let client ← showWorkspace setup client (← moment.answers.newSession)
    repaintLiveOverlay setup moment client none
  else
    let sessionInventory ←
      if action = .sessions then some <$> moment.answers.sessionInventory else pure none
    let overlay := menuOverlayForAction action client.currentWorkspace client.surfaceState sessionInventory
    let client := { client with
      activeOverlay := some { overlay with selected := selectableOverlayIndex overlay } }
    repaintLiveOverlay setup moment client client.activeOverlay

def handleLiveOverlayAction (client : LiveClient) (action : OverlayAction) : Except String LiveClient := do
  match action with
  | .switchTab tabId =>
    let client ← showWorkspace setup client (← moment.answers.tabSwitch tabId)
    repaintLiveOverlay setup moment client none
  | .switchSession sessionId =>
    if sessionId ≠ client.currentWorkspace.sessionId then switchLiveSession setup moment client sessionId
    else return client
  | .focusPane paneId =>
    let (_, client) ← focusLiveClientPane setup moment client paneId
    return client

inductive LiveKeyHandling where
  | handled
  | forward (bytes : List UInt8)
deriving DecidableEq, Repr

def handleLiveTuiKey (client : LiveClient) (key : StdinKeyInput) :
    Except String (LiveKeyHandling × LiveClient) := do
  if setup.args.outputJson ∨ !setup.args.redraw then return (.forward key.bytes, client)
  else
    match key.key with
    | .escape =>
      -- the overlay is looked at first, and an active menu is left alone then
      if client.activeOverlay.isSome then
        let client ← printLiveSurface setup moment.terminal { client with activeOverlay := none }
        return (.handled, client)
      else if client.activeMenuIndex.isSome then
        let client ← printLiveSurface setup moment.terminal { client with activeMenuIndex := none }
        return (.handled, client)
      else return (.forward key.bytes, client)
    | .openMenu action =>
      let client := { client with activeMenuIndex := menuIndex action }
      return (.handled, ← openLiveMenuOverlay setup moment client action)
    | pressed =>
      match client.activeOverlay with
      | some overlay =>
        match pressed with
        | .up | .backTab =>
          let client := { client with activeOverlay := some (moveOverlaySelection overlay (-1)) }
          return (.handled, ← repaintLiveOverlay setup moment client client.activeOverlay)
        | .down | .tab =>
          let client := { client with activeOverlay := some (moveOverlaySelection overlay 1) }
          return (.handled, ← repaintLiveOverlay setup moment client client.activeOverlay)
        | .enter =>
          match selectedOverlayAction overlay with
          | some action =>
            let client := { client with activeOverlay := none, activeMenuIndex := none }
            return (.handled, ← handleLiveOverlayAction setup moment client action)
          | none => return (.handled, client)
        | _ => return (.forward key.bytes, client)
      | none =>
        match client.activeMenuIndex with
        | some index =>
          let cycledIndex : Option (Option ℕ) :=
            match pressed with
            | .left | .backTab => some (cycleLiveMenu index (-1))
            | .right | .tab => some (cycleLiveMenu index 1)
            | .down | .enter => some (some index)
            | _ => none
          match cycledIndex with
          | none => return (.forward key.bytes, client)
          | some activeMenuIndex =>
            let client := { client with activeMenuIndex }
            match menuActions[activeMenuIndex.getD 0]? with
            | some action => return (.handled, ← openLiveMenuOverlay setup moment client action)
            | none => .error "index out of bounds"
        | none => return (.forward key.bytes, client)

/-! ### The mouse -/

/-- The paint of a mouse handler, which needs no other output. -/
def printUnlessJson (client : LiveClient) (overlay : Option Tui.TuiOverlay) : Except String LiveClient :=
  if setup.args.redraw ∧ !setup.args.outputJson then
    printLiveSurfaceWithOverlay setup moment.terminal client overlay
  else .ok client

/-- What goes to a pane of the daemon. -/
inductive SentInput where
  | raw (paneId : String) (bytes : List UInt8)
  | paste (paneId : String) (text : String)
  | mouse (paneId : String) (input : AttachMouseInput)
  | key (paneId : String) (text : String)
deriving DecidableEq, Repr

def handleMouseMenu (client : LiveClient) (action : MenuAction) : Except String LiveClient := do
  let client := { client with activeMenuIndex := menuIndex action }
  if action = .newSession then
    let client := { client with activeOverlay := none, activeMenuIndex := none }
    let client ← showWorkspace setup client (← moment.answers.newSession)
    printUnlessJson setup moment client none
  else
    let sessionInventory ←
      if action = .sessions then some <$> moment.answers.sessionInventory else pure none
    let client := { client with
      activeOverlay :=
        some (menuOverlayForAction action client.currentWorkspace client.surfaceState sessionInventory) }
    printUnlessJson setup moment client client.activeOverlay

def handleMouseOverlay (client : LiveClient) (action : OverlayAction) : Except String LiveClient := do
  let client := { client with activeOverlay := none, activeMenuIndex := none }
  match action with
  | .switchTab tabId =>
    let client ← showWorkspace setup client (← moment.answers.tabSwitch tabId)
    printUnlessJson setup moment client none
  | .switchSession sessionId =>
    if sessionId ≠ client.currentWorkspace.sessionId then switchLiveSession setup moment client sessionId
    else return client
  | .focusPane paneId =>
    let (_, client) ← focusLiveClientPane setup moment client paneId
    return client

def handleLiveMouse (client : LiveClient) (mouse : SgrMouseInput) :
    Except String (List SentInput × LiveClient) := do
  let cols := (min (max moment.terminal.1 1) 65535).toUInt16
  let rows := (min (max moment.terminal.2 1) 65535).toUInt16
  match ← liveMouseDispatchForWorkspaceSize setup.rects mouse client.currentWorkspace
      (some client.surfaceState.currentPaneModes) client.surfaceState.currentModes client.activeOverlay
      cols rows with
  | none => return ([], client)
  | some (.focusPane paneId) =>
    let client := { client with activeOverlay := none, activeMenuIndex := none }
    let (_, client) ← focusLiveClientPane setup moment client paneId
    return ([], client)
  | some (.paneMouse paneId input) =>
    return ([.mouse paneId input], { client with
      activeOverlay := none
      activeMenuIndex := none
      nextInputSeq := client.nextInputSeq + 1 })
  | some (.paneScroll paneId direction visibleRows) =>
    let client := { client with activeOverlay := none, activeMenuIndex := none }
    let (_, client) ← scrollLivePaneView setup moment client paneId direction visibleRows
    return ([], client)
  | some (.menu action) => return ([], ← handleMouseMenu setup moment client action)
  | some (.overlay action) => return ([], ← handleMouseOverlay setup moment client action)
  | some .clearOverlay =>
    if client.activeOverlay.isSome then
      return ([], ← printUnlessJson setup moment { client with activeOverlay := none } none)
    else if client.activeMenuIndex.isSome then
      return ([], ← printUnlessJson setup moment { client with activeMenuIndex := none } none)
    else return ([], client)

/-! ### What is typed -/

/-- Bytes for the attached pane, and the prediction they may give. -/
def forwardRaw (client : LiveClient) (bytes : List UInt8) : List SentInput × Except String LiveClient :=
  let sent := SentInput.raw client.attachedPaneId bytes
  let inputSeq := client.nextInputSeq
  let client := { client with nextInputSeq := inputSeq + 1 }
  match Tui.fromUtf8 bytes with
  | some text =>
    ([sent], repaintSpeculativeEcho setup moment (stdinBytesSpeculativeEchoEnabled setup.args) client
      inputSeq text)
  | none => ([sent], .ok client)

/-- One forward of `stdin_byte_forwards`: what is sent for it, and the client after it. -/
def handleForward (client : LiveClient) (forward : StdinByteForward) :
    List SentInput × Except String LiveClient :=
  match forward with
  | .raw bytes => forwardRaw setup moment client bytes
  | .paste text =>
    ([.paste client.attachedPaneId text], .ok { client with nextInputSeq := client.nextInputSeq + 1 })
  | .key key =>
    match handleLiveTuiKey setup moment client key with
    | .error error => ([], .error error)
    | .ok (.handled, client) => ([], .ok client)
    | .ok (.forward bytes, client) => forwardRaw setup moment client bytes
  | .mouse mouse =>
    match handleLiveMouse setup moment client mouse with
    | .error error => ([], .error error)
    | .ok (sent, client) => (sent, .ok client)

end

/-- The loop over the forwards of one read, up to an error. -/
def handleForwards (setup : Setup) :
    List (Moment × StdinByteForward) → LiveClient → List SentInput × Except String LiveClient
  | [], client => ([], .ok client)
  | (moment, forward) :: rest, client =>
    match handleForward setup moment client forward with
    | (sent, .error error) => (sent, .error error)
    | (sent, .ok client) =>
      let (more, reached) := handleForwards setup rest client
      (sent ++ more, reached)

/-- What is sent for one read, whose forwards are handled one after the other. -/
def sentForRead (setup : Setup) (moments : ℕ → Moment) (client : LiveClient) (read : List UInt8) :
    List SentInput :=
  match splitStdinBytesForDetach read setup.args.detachKey.byte with
  | (none, _) => []
  | (some input, _) =>
    (handleForwards setup ((stdinByteForwards input).mapIdx fun index forward => (moments index, forward))
      client).1

end Nmux.Screen
