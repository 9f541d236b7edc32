import Nmux.Live.OneShot

/-! Connections of the live loop. A first frame that is a control command or a health probe is served at
once; an attach makes a client of the loop, which is sent the workspace and the pane it looks at before
its queue is set up. A client that cannot be shown a pane is told so and stays for one round. -/
namespace Nmux.Live

open Lib (OrderedMap)
open Delivery (ClientOutputError)

/-- A connection the listener accepts: its first frame, what becomes of the writes to its stream and,
once it is attached, of the frames queued for it; the clock, and how often the polls read and repeat. -/
structure Arrival where
  initial : Except ServeError ClientInitialFrame
  writes : Nat → Option WireError
  sends : Nat → Option ClientOutputError
  nowMonoMs : UInt64
  reads : Nat
  rounds : Nat

inductive LiveClientAccept where
  | attached (client : LiveAttachedClient)
  | command
  | shutdown

/-- `usize::MAX`. -/
def usizeMax : Nat := 2 ^ 64 - 1

/-- `known_surface_versions_from_request`. -/
def knownSurfaceVersionsFromRequest (request : AttachRequest) : OrderedMap String UInt64 :=
  request.knownSurfaces.foldl (fun known surface => known.insert surface.paneId surface.version) .empty

/-- The frames of `write_live_attach_initial`. -/
def liveAttachInitialFrames (session : Session) (request : AttachRequest) (paneId : String) :
    List ServerFrame :=
  let response := request.surfaceResponse session paneId
  let surface := response.bind fun response =>
    LiveAttachedClient.surfaceResponseFrame session paneId response 4
  [.workspace (session.workspaceTreeFrame "local-client" 1),
    .presence (presenceUpdate (request.actorForPane paneId)),
    .attachStatus (attachStatus session paneId
      (if surface.isSome then attachSurfaceState response else .current))] ++
  (surface.map .surface).toList

namespace Arrival

/-- A client as it is attached, with what was written to its stream. -/
def client (arrival : Arrival) (request : AttachRequest) (connectionId : String) (actor : Actor)
    (stream : ClientStream) : LiveAttachedClient where
  transport := .async arrival.sends
  connectionId := connectionId
  actor := actor
  hostname := request.hostname
  clientKind := request.clientKind
  inventorySubscribed := request.subscribeClientInventory
  connectedAtMonoMs := arrival.nowMonoMs
  lastSeenMonoMs := arrival.nowMonoMs
  lastInputMonoMs := none
  seq := UInt64.ofNat stream.written.length + 1
  knownSurfaceVersions := .empty
  frontendResizeConstraints := .empty
  completedCycles := 0
  handed := 0
  queued := stream.written

/-- A client that was only told why it is shown nothing. It keeps its stream, and has had all its
cycles. -/
def legacyClient (arrival : Arrival) (request : AttachRequest) (connectionId : String) (actor : Actor)
    (stream : ClientStream) : LiveAttachedClient :=
  { arrival.client request connectionId actor stream with
    transport := .legacy arrival.writes
    completedCycles := usizeMax
    handed := stream.handed }

end Arrival

variable {σ η : Type} (engine : TerminalEngine σ) (host : ProcessHost η)

/-- The attach of `accept_live_client_with_session_actor`, once its target is known. -/
def attachLiveClient (arrival : Arrival) (request : AttachRequest) (connectionId paneId : String)
    (leafPaneIds : List String) (daemon : Daemon σ η) :
    Except ServeError LiveClientAccept × Daemon σ η :=
  let stream := ClientStream.fresh arrival.writes
  match daemon.pollPanesUntilQuiet engine host leafPaneIds arrival.nowMonoMs arrival.reads
      arrival.rounds with
  | (.error error, daemon) =>
    match stream.writeHostOutputError (hostErrorPaneId error) error with
    | (.error error, _) => (.error error, daemon)
    | (.ok _, stream) =>
      (.ok (.attached (arrival.legacyClient request connectionId (request.actorForPane paneId) stream)),
        daemon)
  | (.ok _, daemon) =>
    match stream.writeAll (liveAttachInitialFrames daemon.session request paneId) with
    | (.error error, _) => (.error error, daemon)
    | (.ok _, stream) =>
      let known := knownSurfaceVersionsFromRequest request
      let knownSurfaceVersions := match daemon.session.surfaceVersion paneId with
        | some current => known.insert paneId current
        | none => known
      (.ok (.attached { arrival.client request connectionId (request.actorForPane paneId) stream with
        knownSurfaceVersions }), daemon)

/-- `accept_live_client_with_session_actor`, for a connection there is. -/
def acceptLiveClient (arrival : Arrival) (connectionId : String) (daemon : Daemon σ η) :
    Except ServeError LiveClientAccept × Daemon σ η :=
  let stream := ClientStream.fresh arrival.writes
  match arrival.initial with
  | .error error => (.error error, daemon)
  | .ok (.control command) =>
    match serveControlCommand engine host stream command daemon with
    | (.error error, _, daemon) => (.error error, daemon)
    | (.ok .continue, _, daemon) => (.ok .command, daemon)
    | (.ok .shutdown, _, daemon) => (.ok .shutdown, daemon)
  | .ok (.healthProbe probe) =>
    match serveHealthProbe engine host stream probe daemon arrival.reads arrival.rounds with
    | (.error error, _, daemon) => (.error error, daemon)
    | (.ok _, _, daemon) => (.ok .command, daemon)
  | .ok (.attach targetSessionId request) =>
    match attachTargetSessionMismatch daemon.session targetSessionId with
    | some target =>
      ((stream.writeProtocolError .sessionNotFound ("session not found: " ++ target) none 0).1.map
        fun _ => .command, daemon)
    | none =>
      match request.targetPaneId daemon.session with
      | (session, some paneId) =>
        attachLiveClient engine host arrival request connectionId paneId daemon.session.leafPaneIds
          (daemon.setSession session)
      | (session, none) =>
        match stream.writeTargetNotFoundError session request.focusedPaneId with
        | (.error error, _) => (.error error, daemon.setSession session)
        | (.ok _, stream) =>
          (.ok (.attached (arrival.legacyClient request connectionId request.actor stream)),
            daemon.setSession session)

end Nmux.Live
