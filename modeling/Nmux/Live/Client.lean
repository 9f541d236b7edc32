import Nmux.Core.WorkspaceFrames
import Nmux.Daemon.Attach
import Nmux.Delivery.Output
import Nmux.Host.LocalPty

/-! A client of the live loop, and what the loop sends it. How the client's end behaves is a parameter:
each frame the loop hands over is taken or refused, by the client's queue or by its socket. -/
namespace Nmux.Live

open Protocol (ErrorCode)
open Lib (OrderedMap)
open Delivery (ClientOutputError SurfaceFrameBundle surfaceFrameBundleForPane)

/-! ### Errors -/

inductive WireError where
  | io (error : IoError)
  | frameTooLarge (len max : Nat)
  | protocolVersionUnsupported (version supported : UInt32)
  | invalidFlatbuffer (message : String)
deriving DecidableEq, Repr

/-- An error of the server. What is boxed is kept as its text. -/
inductive ServeError where
  | io (error : IoError)
  | wire (error : WireError)
  | host (error : HostError)
  | sessionShutdown
  | other (message : String)
deriving DecidableEq, Repr

def socketClosedError (error : IoError) : Bool :=
  error.kind ∈ [.invalidInput, .unexpectedEof, .connectionReset, .brokenPipe, .notConnected] ||
    error.rawOsError == some 22

def isSocketClosed : ServeError → Bool
  | .io error => socketClosedError error
  | .wire (.io error) => socketClosedError error
  | _ => false

/-- The derived `Debug` text of an output error. -/
def clientOutputErrorDebug : ClientOutputError → String
  | .reliableFrameQueueFull cap frameLen =>
    "ReliableFrameQueueFull \x7b cap: " ++ toString cap ++ ", frame_len: " ++ toString frameLen ++ " \x7d"
  | .reliableByteQueueFull cap pending frameLen =>
    "ReliableByteQueueFull \x7b cap: " ++ toString cap ++ ", pending: " ++ toString pending ++
      ", frame_len: " ++ toString frameLen ++ " \x7d"
  | .surfaceByteQueueFull cap pending =>
    "SurfaceByteQueueFull \x7b cap: " ++ toString cap ++ ", pending: " ++ toString pending ++ " \x7d"
  | .reliableQueueClosed => "ReliableQueueClosed"
  | .surfaceQueueClosed => "SurfaceQueueClosed"
  | .wire message => "Wire(" ++ message.quote ++ ")"

/-- A queue that is closed is a closed socket; one that is full is not. -/
def liveClientOutputError (error : ClientOutputError) : ServeError :=
  match error with
  | .reliableQueueClosed | .surfaceQueueClosed =>
    .io { kind := .brokenPipe, rawOsError := none, message := clientOutputErrorDebug error }
  | _ => .other ("live client output queue failed: " ++ clientOutputErrorDebug error)

/-! ### Frames -/

structure ErrorFrame where
  code : ErrorCode
  message : String
  retryable : Bool
  paneId : Option String
  inputSeq : UInt64
deriving DecidableEq, Repr

structure ClientConnectionSummary where
  connectionId : String
  actor : Actor
  hostname : String
  clientKind : String
  connectedAtMonoMs : UInt64
  lastSeenMonoMs : UInt64
  lastInputMonoMs : Option UInt64
deriving DecidableEq, Repr

structure ScrollbackFetchSummary where
  paneId : String
  actorId : String
  startLine : UInt64
  lineCount : UInt32
  knownScrollbackVersion : UInt64
deriving DecidableEq, Repr

structure PingSummary where
  actorId : String
  pingSeq : UInt64
deriving DecidableEq, Repr

structure PresenceSummary where
  actorId : String
  userId : String
  displayName : String
  mode : AttachMode
  kind : Protocol.PresenceKind
  focusedPaneId : Option String
deriving DecidableEq, Repr

/-- `presence_update_frame`. -/
def presenceUpdate (actor : Actor) : PresenceSummary where
  actorId := actor.id
  userId := actor.userId
  displayName := actor.displayName
  mode := actor.mode
  kind := .joined
  focusedPaneId := actor.focusedPaneId

structure AttachStatusSummary where
  paneId : String
  surfaceVersion : UInt64
  surfaceState : Protocol.AttachSurfaceState
deriving DecidableEq, Repr

/-- `attach_status_frame`. -/
def attachStatus (session : Session) (paneId : String) (surfaceState : Protocol.AttachSurfaceState) :
    AttachStatusSummary :=
  { paneId, surfaceVersion := (session.surfaceVersion paneId).getD 0, surfaceState }

structure SessionInventoryItemSummary where
  sessionId : String
  title : String
deriving DecidableEq, Repr

structure SessionInventorySummary where
  activeSessionId : String
  sessions : List SessionInventoryItemSummary
deriving DecidableEq, Repr

/-- What the server sends. A scrollback chunk is named by what was asked for. -/
inductive ServerFrame where
  | workspace (frame : WorkspaceFrame)
  | presence (presence : PresenceSummary)
  | attachStatus (status : AttachStatusSummary)
  | surface (frame : SurfaceFrame)
  | surfaceBundle (paneId : String) (bundle : SurfaceFrameBundle)
  | scrollback (fetch : ScrollbackFetchSummary)
  | pong (ping : PingSummary)
  | error (frame : ErrorFrame)
  | sessionInventory (inventory : SessionInventorySummary)
  | inventorySnapshot (version : Nat) (clients : List ClientConnectionSummary)
  | inventoryPatch (baseVersion version : Nat) (joined updated : List ClientConnectionSummary)
      (leftConnectionIds : List String)

/-! ### Clients -/

/-- The client's end: what becomes of the n-th frame that is handed over. A legacy stream is written to
at once, an async one through a queue. -/
inductive LiveClientTransport where
  | legacy (writes : Nat → Option WireError)
  | async (sends : Nat → Option ClientOutputError)

def LiveClientTransport.refuses : LiveClientTransport → Nat → Option ServeError
  | .legacy writes, n => (writes n).map .wire
  | .async sends, n => (sends n).map liveClientOutputError

/-- A client of the loop. `handed` counts the frames handed over and `queued` lists those that were
taken; the source has neither. -/
structure LiveAttachedClient where
  transport : LiveClientTransport
  connectionId : String
  actor : Actor
  hostname : String
  clientKind : String
  inventorySubscribed : Bool
  connectedAtMonoMs : UInt64
  lastSeenMonoMs : UInt64
  lastInputMonoMs : Option UInt64
  seq : UInt64
  knownSurfaceVersions : OrderedMap String UInt64
  frontendResizeConstraints : OrderedMap String (UInt32 × UInt32)
  completedCycles : Nat
  handed : Nat
  queued : List ServerFrame

namespace LiveAttachedClient

def inventoryEntry (client : LiveAttachedClient) : ClientConnectionSummary where
  connectionId := client.connectionId
  actor := client.actor
  hostname := client.hostname
  clientKind := client.clientKind
  connectedAtMonoMs := client.connectedAtMonoMs
  lastSeenMonoMs := client.lastSeenMonoMs
  lastInputMonoMs := client.lastInputMonoMs

/-- A frame handed to the client's end, and taken. -/
def take (client : LiveAttachedClient) (frame : ServerFrame) : LiveAttachedClient :=
  { client with
    seq := client.seq + 1
    handed := client.handed + 1
    queued := client.queued ++ [frame] }

/-- `queue_reliable_frame_to_live_client`. -/
def queueReliableFrame (client : LiveAttachedClient) (frame : ServerFrame) :
    Except ServeError Unit × LiveAttachedClient :=
  match client.transport.refuses client.handed with
  | some error => (.error error, { client with handed := client.handed + 1 })
  | none => (.ok (), client.take frame)

/-- `queue_protocol_error_to_live_client`. -/
def queueProtocolError (client : LiveAttachedClient) (code : ErrorCode) (message : String)
    (paneId : Option String) (inputSeq : UInt64) : Except ServeError Unit × LiveAttachedClient :=
  client.queueReliableFrame (.error { code, message, retryable := false, paneId, inputSeq })

/-- `queue_pane_not_found_error_to_live_client`. -/
def queuePaneNotFoundError (client : LiveAttachedClient) (paneId : String) (inputSeq : UInt64) :
    Except ServeError Unit × LiveAttachedClient :=
  client.queueProtocolError .paneNotFound ("pane not found: " ++ paneId) (some paneId) inputSeq

/-- `queue_host_output_error_to_live_client`. -/
def queueHostOutputError (client : LiveAttachedClient) (paneId : String) (error : HostError) :
    Except ServeError Unit × LiveAttachedClient :=
  client.queueProtocolError .unknown ("output polling failed: " ++ error.message) (some paneId) 0

/-! ### Surfaces -/

/-- `surface_response_frame`. -/
def surfaceResponseFrame (session : Session) (paneId : String) (response : SurfaceResponse)
    (seq : UInt64) : Option SurfaceFrame :=
  match response with
  | .snapshot => session.paneSurfaceFrameForPane "local-client" seq paneId
  | .patch baseVersion => session.paneSurfacePatchFrameForPane "local-client" seq paneId baseVersion

/-- What a client whose version of a pane is known is sent of it: over a legacy stream the frame that
brings it up to date, into a queue the bundle of both. -/
def changedSurfaceFrame (client : LiveAttachedClient) (session : Session) (paneId : String)
    (current : UInt64) : Option ServerFrame :=
  match client.transport with
  | .legacy _ =>
    let response := match client.knownSurfaceVersions.get? paneId with
      | some known => surfaceResponseForKnownVersion current known
          ((session.surfacePatchKind paneId).getD .replaceRows)
      | none => some .snapshot
    (response.bind fun response => surfaceResponseFrame session paneId response client.seq).map .surface
  | .async _ =>
    if client.knownSurfaceVersions.get? paneId = some current then none
    else (surfaceFrameBundleForPane session paneId client.seq).map (.surfaceBundle paneId)

/-- A pane of which nothing is sent: over a legacy stream its version counts as known all the same. -/
def skipSurface (client : LiveAttachedClient) (paneId : String) (current : UInt64) :
    LiveAttachedClient :=
  match client.transport with
  | .legacy _ =>
    { client with knownSurfaceVersions := client.knownSurfaceVersions.insert paneId current }
  | .async _ => client

/-- `signal_changed_surface_frames_to_live_client`, up to the first that fails. -/
def signalChangedSurfaceFrames (session : Session) :
    List String → LiveAttachedClient → Except ServeError Unit × LiveAttachedClient
  | [], client => (.ok (), client)
  | paneId :: rest, client =>
    match session.surfaceVersion paneId with
    | none => signalChangedSurfaceFrames session rest client
    | some current =>
      match client.changedSurfaceFrame session paneId current with
      | none => signalChangedSurfaceFrames session rest (client.skipSurface paneId current)
      | some frame =>
        match client.queueReliableFrame frame with
        | (.error error, client) => (.error error, client)
        | (.ok _, client) =>
          signalChangedSurfaceFrames session rest { client with
            knownSurfaceVersions := client.knownSurfaceVersions.insert paneId current }

/-! ### Inventory -/

/-- `write_client_inventory_snapshot_to_client`. -/
def writeClientInventorySnapshot (client : LiveAttachedClient) (version : Nat)
    (clients : List ClientConnectionSummary) : Except ServeError Unit × LiveAttachedClient :=
  if client.inventorySubscribed then client.queueReliableFrame (.inventorySnapshot version clients)
  else (.ok (), client)

end LiveAttachedClient

/-- The subscribers in order, up to the first that fails otherwise than by a closed socket. -/
def writeToSubscribers (frame : ServerFrame) :
    List LiveAttachedClient → Except ServeError Unit × List LiveAttachedClient
  | [] => (.ok (), [])
  | client :: rest =>
    if client.inventorySubscribed then
      match client.queueReliableFrame frame with
      | (.error error, client) =>
        if isSocketClosed error then
          let (result, rest) := writeToSubscribers frame rest
          (result, client :: rest)
        else (.error error, client :: rest)
      | (.ok _, client) =>
        let (result, rest) := writeToSubscribers frame rest
        (result, client :: rest)
    else
      let (result, rest) := writeToSubscribers frame rest
      (result, client :: rest)

/-- `write_client_inventory_patch_to_subscribers`. -/
def writeClientInventoryPatch (clients : List LiveAttachedClient) (baseVersion version : Nat)
    (joined updated : List ClientConnectionSummary) (leftConnectionIds : List String) :
    Except ServeError Unit × List LiveAttachedClient :=
  if joined.isEmpty && updated.isEmpty && leftConnectionIds.isEmpty then (.ok (), clients)
  else
    writeToSubscribers (.inventoryPatch baseVersion version joined updated leftConnectionIds) clients

end Nmux.Live
