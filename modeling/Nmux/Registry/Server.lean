import Nmux.Live.OneShot
import Nmux.Host.Scoped
import Nmux.Lib.OrderedMap
import Nmux.Workspace.WellFormed

/-! The daemon. It holds a registry of sessions over one host, takes one connection after the other, and
finds by the first frame which session a connection is for. A session that is shut down ends the daemon:
the panes of the default session are stopped, whatever session it was. -/
namespace Nmux

open Lib (OrderedMap)
open Live (ServeError ClientStream ClientInitialFrame Connection ServerFrame)
open Protocol (SplitAxis ResizePolicy ControlCommandKind)

/-! ### Scoped hosts -/

/-- `ScopedLocalPtyHost`, over any host. -/
def ProcessHost.scopedTo {η : Type} (host : ProcessHost η) (sessionId : String) : ProcessHost η :=
  let key := ScopedLocalPtyHost.hostPaneId sessionId
  let client {α : Type} (answer : Except HostError α × η) : Except HostError α × η :=
    (mapResult (ScopedLocalPtyHost.clientPaneId sessionId) id answer.1, answer.2)
  { startPane state paneId spec := client (host.startPane state (key paneId) spec)
    checkPane state paneId := client (host.checkPane state (key paneId))
    writeInput state paneId bytes := client (host.writeInput state (key paneId) bytes)
    resizePane state paneId cols rows := client (host.resizePane state (key paneId) cols rows)
    stopPane state paneId := client (host.stopPane state (key paneId))
    tryReadOutput state paneId := client (host.tryReadOutput state (key paneId)) }

/-- Panes in order, up to the first whose call fails. -/
def forPanes {η ε : Type} (call : η → String → Except ε Unit × η) :
    η → List String → Except ε Unit × η
  | state, [] => (.ok (), state)
  | state, paneId :: rest =>
    match call state paneId with
    | (.error error, state) => (.error error, state)
    | (.ok _, state) => forPanes call state rest

/-- `stop_panes`. -/
def ProcessHost.stopPanes {η : Type} (host : ProcessHost η) :
    η → List String → Except HostError Unit × η := forPanes host.stopPane

/-! ### New sessions -/

inductive HostKindArg where
  | localHost
  | sandbox
  | container
deriving DecidableEq, Repr

/-- The arguments of the daemon that its sessions are built from. `inheritedOrigin` is what
`inherited_nmux_origin` reads from the environment, trimmed and not empty. -/
structure DaemonArgs where
  sessionId : String
  command : Option String
  initialSize : Option (UInt32 × UInt32)
  workingDir : Option String
  env : List (String × String)
  hostKind : HostKindArg
  sandboxProfile : Option String
  containerImage : Option String
  initialTabs : Nat
  activeTabId : Option String
  initialSplit : Option SplitAxis
  resizePolicy : ResizePolicy
  transportEndpoint : String
  inheritedOrigin : Option String

/-- `apply_initial_host_kind`. -/
def applyInitialHostKind (args : DaemonArgs) (host : HostSpec) : Except String HostSpec :=
  match args.hostKind with
  | .localHost => .ok { host with id := "local", kind := .localHost }
  | .sandbox =>
    match args.sandboxProfile with
    | none => .error "--host sandbox requires --sandbox-profile"
    | some profile => .ok { host with id := "sandbox", kind := .sandbox profile }
  | .container =>
    match args.containerImage with
    | none => .error "--host container requires --container-image"
    | some image => .ok { host with id := "container", kind := .container image }

namespace Session

/-- The root of the first tab. -/
def firstRoot (session : Session) : Option Pane := session.tabs.head?.map (·.root)

/-- A write to the root of the first tab. -/
def editFirstRoot (session : Session) (edit : PaneState → PaneState) : Session :=
  { session with tabs := session.tabs.modifyHead fun tab =>
      { tab with root := .node (edit tab.root.state) tab.root.children } }

/-- What the arguments make of the root pane, but for the kind of its host. -/
def rootFromArgs (args : DaemonArgs) (state : PaneState) : PaneState :=
  let state := match args.command with
    | none => state
    | some command => { state with host := { state.host with
        command := { CommandSpec.new "sh" with args := ["-lc", command] } } }
  let state := match args.initialSize with
    | none => state
    | some (cols, rows) => { state with
        cols, rows
        host := { state.host with command := { state.host.command with initialSize := some (cols, rows) } } }
  let state := match args.workingDir with
    | none => state
    | some workingDir => { state with host := { state.host with
        command := { state.host.command with workingDir := some workingDir } } }
  { state with host := { state.host with
      command := { state.host.command with env := state.host.command.env ++ args.env } } }

/-- `pane_origin_chain`. -/
def paneOriginChain (parentOriginChain : Option String) (origin : String) : String :=
  match parentOriginChain with
  | some parent => parent ++ ">" ++ origin
  | none => origin

/-- `set_pane_nmux_environment`. -/
def setPaneNmuxEnvironment (session : Session) (paneId socketEndpoint : String)
    (parentOriginChain : Option String) : Session :=
  session.writePane (fun pane =>
    let kept := pane.host.command.env.filter fun (key, _) =>
      key ∉ ["NMUX", "NMUX_SESSION_ID", "NMUX_PANE_ID", "NMUX_SOCKET", "NMUX_ORIGIN"]
    { pane with host := { pane.host with command := { pane.host.command with env := kept ++ [("NMUX", "1"),
      ("NMUX_SESSION_ID", session.id), ("NMUX_PANE_ID", paneId), ("NMUX_SOCKET", socketEndpoint),
      ("NMUX_ORIGIN", paneOriginChain parentOriginChain pane.host.id)] } } }) paneId

end Session

namespace SessionCore

variable {σ : Type} (engine : TerminalEngine σ)

/-- `apply`, with whether there were effects. -/
def apply (core : SessionCore σ) (event : SessionEvent) : SessionCore σ × Bool :=
  let (core, record) := core.acceptPending engine ⟨"legacy", .control, 0, event⟩
  (core, !record.effects.isEmpty)

/-- The tabs of `--initial-tabs`. -/
def addInitialTabs : List Nat → SessionCore σ → Except String (SessionCore σ)
  | [], core => .ok core
  | number :: rest, core =>
    match core.session.paneHost "pane-1" with
    | none => .error "initial pane missing host"
    | some host =>
      let tabId := "tab-" ++ toString number
      match core.apply engine (.addTab tabId tabId (tabId ++ "-pane-1") host) with
      | (_, false) => .error ("failed to create initial tab " ++ toString number)
      | (core, true) => addInitialTabs rest core

def switchInitialTab (activeTabId : Option String) (core : SessionCore σ) : Except String (SessionCore σ) :=
  match activeTabId with
  | none => .ok core
  | some tabId =>
    match core.apply engine (.switchTab tabId) with
    | (core, true) => .ok core
    | (core, false) =>
      if core.session.activeTabId = tabId then .ok core
      else .error ("failed to switch to initial tab " ++ tabId)

def splitInitialPane (axis : Option SplitAxis) (core : SessionCore σ) : Except String (SessionCore σ) :=
  match axis with
  | none => .ok core
  | some axis =>
    match core.session.activePaneId with
    | none => .error "active pane missing before initial split"
    | some activePaneId =>
      match core.session.paneHost activePaneId with
      | none => .error "active pane missing host"
      | some host =>
        match core.apply engine (.splitPane activePaneId axis "pane-2" host) with
        | (_, false) => .error "failed to create initial split pane"
        | (core, true) => .ok core

/-- Every leaf gets the policy and the environment of the arguments. -/
def configurePanes (args : DaemonArgs) : List String → SessionCore σ → SessionCore σ
  | [], core => core
  | paneId :: rest, core =>
    let core := (core.apply engine (.setPaneResizePolicy paneId args.resizePolicy)).1
    configurePanes args rest { core with session :=
      core.session.setPaneNmuxEnvironment paneId args.transportEndpoint args.inheritedOrigin }

end SessionCore

/-- The initial session under another id, and its tab under another title if there is one. -/
def titledSession (sessionId : String) (title : Option String) : Session :=
  let session := { Session.initial with id := sessionId }
  match title with
  | none => session
  | some title => { session with tabs := session.tabs.modifyHead fun tab => { tab with title } }

/-- The session of `build_daemon_session_core` before its first event. -/
def daemonSession (args : DaemonArgs) (sessionId : String) (title : Option String) :
    Except String Session := do
  let session := (titledSession sessionId title).editFirstRoot (Session.rootFromArgs args)
  match session.firstRoot with
  | none => return session
  | some root =>
    let host ← applyInitialHostKind args root.state.host
    return session.editFirstRoot fun state => { state with host }

section
variable {σ η : Type} (engine : TerminalEngine σ) (host : ProcessHost η)

/-- `build_daemon_session_core`. -/
def buildDaemonSessionCore (args : DaemonArgs) (sessionId : String) (title : Option String) :
    Except String (SessionCore σ) := do
  let session ← daemonSession args sessionId title
  let core ← SessionCore.addInitialTabs engine (List.range' 2 (args.initialTabs - 1)) (.new engine session)
  let core ← core.switchInitialTab engine args.activeTabId
  let core ← core.splitInitialPane engine args.initialSplit
  return SessionCore.configurePanes engine args core.session.leafPaneIds core

/-- `wait_for_panes_output`: the panes are polled until there was something, or the time is over. -/
def waitForPanesOutput (paneIds : List String) (reads : Nat) :
    Nat → Daemon σ η → Except HostError Unit × Daemon σ η
  | 0, daemon => (.ok (), daemon)
  | rounds + 1, daemon =>
    match daemon.pollPanes engine host 0 reads paneIds with
    | (.error error, daemon) => (.error error, daemon)
    | (.ok true, daemon) => (.ok (), daemon)
    | (.ok false, daemon) => waitForPanesOutput paneIds reads rounds daemon

def daemonTraceRingCap : Nat := 1024

/-- A pane of a new session, started. -/
def startSessionPane (session : Session) (state : η) (paneId : String) : Except String Unit × η :=
  match session.paneHost paneId with
  | none => (.error ("pane " ++ paneId ++ " missing host"), state)
  | some spec =>
    match host.startPane state paneId spec with
    | (.error error, state) => (.error error.message, state)
    | (.ok _, state) => (.ok (), state)

/-- `create_daemon_session_actor`. -/
def createDaemonSessionActor (args : DaemonArgs) (sessionId : String) (title : Option String)
    (reads rounds : Nat) (state : η) : Except ServeError (SessionActor σ) × η :=
  match buildDaemonSessionCore engine args sessionId title with
  | .error message => (.error (.other message), state)
  | .ok core =>
    let sessionHost := host.scopedTo sessionId
    match forPanes (startSessionPane sessionHost core.session) state core.session.leafPaneIds with
    | (.error message, state) => (.error (.other message), state)
    | (.ok _, state) =>
      match waitForPanesOutput engine sessionHost core.session.leafPaneIds reads rounds
          { actor := .new core daemonTraceRingCap, host := state, calls := [] } with
      | (.error error, daemon) => (.error (.other error.message), daemon.host)
      | (.ok _, daemon) => (.ok daemon.actor, daemon.host)

end

/-! ### The registry -/

/-- The sessions of a daemon by their ids, and the host they share. -/
structure DaemonServer (σ η : Type) where
  registry : OrderedMap String (SessionActor σ)
  host : η

namespace DaemonServer

variable {σ η : Type} (engine : TerminalEngine σ) (host : ProcessHost η)

/-- `SessionRegistry::insert`. -/
def insert (server : DaemonServer σ η) (actor : SessionActor σ) : Bool × DaemonServer σ η :=
  if (server.registry.get? actor.session.id).isSome then (false, server)
  else (true, { server with registry := server.registry.insert actor.session.id actor })

/-- The daemon as it is when it starts to listen. -/
def start (args : DaemonArgs) (reads rounds : Nat) (state : η) :
    Except ServeError (DaemonServer σ η) :=
  match createDaemonSessionActor engine host args args.sessionId none reads rounds state with
  | (.error error, _) => .error error
  | (.ok actor, state) => .ok ({ registry := .empty, host := state : DaemonServer σ η }.insert actor).2

/-- An error frame of the default session. -/
def writeError (args : DaemonArgs) (server : DaemonServer σ η) (stream : ClientStream)
    (code : Protocol.ErrorCode) (message : String) (commandSeq : UInt64) :
    Except ServeError Unit × ClientStream :=
  match server.registry.get? args.sessionId with
  | none => (.error (.other ("daemon session " ++ args.sessionId ++ " missing from registry")), stream)
  | some _ => stream.writeProtocolError code message none commandSeq

/-- `serve_session_new_command`. -/
def serveSessionNewCommand (args : DaemonArgs) (server : DaemonServer σ η) (stream : ClientStream)
    (command : ControlCommandSummary) (connection : Connection) :
    Except ServeError Unit × ClientStream × DaemonServer σ η :=
  match command.sessionId.filter (!·.isEmpty) with
  | none =>
    let (written, stream) := server.writeError args stream .sessionNotFound
      "session new requires a non-empty session id" command.commandSeq
    (written, stream, server)
  | some sessionId =>
    if (server.registry.get? sessionId).isSome then
      let (written, stream) := server.writeError args stream .unknown
        ("session already exists: " ++ sessionId) command.commandSeq
      (written, stream, server)
    else
      match createDaemonSessionActor engine host args sessionId command.title connection.reads
          connection.rounds server.host with
      | (.error error, state) => (.error error, stream, { server with host := state })
      | (.ok actor, state) =>
        match { server with host := state }.insert actor with
        | (false, server) =>
          (.error (.other ("duplicate daemon session id " ++ sessionId)), stream, server)
        | (true, server) =>
          let (written, stream) :=
            stream.write (.workspace (actor.session.workspaceTreeFrame "local-client" 1))
          (written, stream, server)

/-- `serve_session_list_command`. -/
def serveSessionListCommand (args : DaemonArgs) (server : DaemonServer σ η) (stream : ClientStream) :
    Except ServeError Unit × ClientStream :=
  stream.write (.sessionInventory {
    activeSessionId := args.sessionId
    sessions := server.registry.entries.map fun entry =>
      { sessionId := entry.1, title := Live.sessionTitle entry.2.session } })

/-- `initial_target_session_id`. -/
def initialTargetSessionId : ClientInitialFrame → Option String
  | .attach targetSessionId _ => targetSessionId
  | .control command => command.sessionId
  | .healthProbe _ => none

/-- A connection for a session of the registry. -/
def serveSession (server : DaemonServer σ η) (stream : ClientStream) (sessionId : String)
    (actor : SessionActor σ) (initial : ClientInitialFrame) (connection : Connection) :
    Except ServeError Unit × ClientStream × DaemonServer σ η :=
  let (result, stream, daemon) := Live.serveStreamInitial engine (host.scopedTo sessionId) stream initial
    { actor, host := server.host, calls := [] } connection
  (result, stream, { registry := server.registry.insert sessionId daemon.actor, host := daemon.host })

/-- What `serve_unix_registry_once` does with a first frame. -/
def serveInitial (args : DaemonArgs) (server : DaemonServer σ η) (stream : ClientStream)
    (initial : ClientInitialFrame) (connection : Connection) :
    Except ServeError Unit × ClientStream × DaemonServer σ η :=
  match initial with
  | .control command =>
    if command.kind = .sessionNew then serveSessionNewCommand engine host args server stream command connection
    else if command.kind = .sessionList then
      let (written, stream) := server.serveSessionListCommand args stream
      (written, stream, server)
    else route server stream initial
  | initial => route server stream initial
where
  route (server : DaemonServer σ η) (stream : ClientStream) (initial : ClientInitialFrame) :
      Except ServeError Unit × ClientStream × DaemonServer σ η :=
    let sessionId := (initialTargetSessionId initial).getD args.sessionId
    match server.registry.get? sessionId with
    | none =>
      let (written, stream) := server.writeError args stream .sessionNotFound
        ("session not found: " ++ sessionId) 0
      (written, stream, server)
    | some actor => serveSession engine host server stream sessionId actor initial connection

/-- `serve_unix_registry_once`. -/
def serveUnixRegistryOnce (args : DaemonArgs) (server : DaemonServer σ η) (connection : Connection) :
    Except ServeError Unit × ClientStream × DaemonServer σ η :=
  match connection.initial with
  | .error error => (.error error, .fresh connection.writes, server)
  | .ok initial => serveInitial engine host args server (.fresh connection.writes) initial connection

/-! ### The daemon's loop -/

inductive Status where
  | serving
  | exited (result : Except ServeError Unit)

/-- One round of the loop: a connection is served, and an error ends the daemon. -/
def serve (args : DaemonArgs) (server : DaemonServer σ η) (connection : Connection) :
    Status × ClientStream × DaemonServer σ η :=
  match serveUnixRegistryOnce engine host args server connection with
  | (.ok _, stream, server) => (.serving, stream, server)
  | (.error .sessionShutdown, stream, server) =>
    match server.registry.get? args.sessionId with
    | none => (.exited (.ok ()), stream, server)
    | some actor =>
      match (host.scopedTo args.sessionId).stopPanes server.host actor.session.leafPaneIds with
      | (.error error, state) => (.exited (.error (.host error)), stream, { server with host := state })
      | (.ok _, state) => (.exited (.ok ()), stream, { server with host := state })
  | (.error error, stream, server) => (.exited (.error error), stream, server)

/-- The daemons a run of connections reaches. -/
inductive Reached (args : DaemonArgs) : DaemonServer σ η → Prop
  | start {server : DaemonServer σ η} (reads rounds : Nat) (state : η)
      (started : start engine host args reads rounds state = .ok server) : Reached args server
  | serve {server reached : DaemonServer σ η} {stream : ClientStream} (connection : Connection)
      (before : Reached args server)
      (served : server.serve engine host args connection = (.serving, stream, reached)) :
      Reached args reached

end DaemonServer

end Nmux
