import Nmux.Delivery.Output
import Nmux.Daemon.Attach
import Nmux.Client.Frames
import Nmux.Client.AttachState

/-! The write task of a client, and the client at the other end of the stream. The task takes reliable
frames first; else it takes the set of signals in the watch channel, and for each signal writes the
patch if the client is exactly one version behind and none asked for a snapshot, and the snapshot
otherwise. Between two writes the sender may run. -/
namespace Nmux.Delivery

open Lib (OrderedMap)
open Client

def defaultMaxFrameLen : Nat := 16 * 1024 * 1024

/-- `write_default_frame` on a well-formed frame of that many bytes, its length prefix included. -/
def writeDefaultFrame (bytes : Nat) : Except ClientOutputError Unit :=
  if defaultMaxFrameLen < bytes - 4 then
    .error (.wire ("wire frame too large: " ++ toString (bytes - 4) ++ " bytes exceeds " ++
      toString defaultMaxFrameLen ++ " byte limit"))
  else .ok ()

structure SurfaceFrameSource where
  surfacePatchKind : String → Protocol.PatchKind
  surfaceSnapshotFrame : String → UInt64 → Option SurfaceFrame
  surfacePatchFrame : String → UInt64 → UInt64 → Option SurfaceFrame

/-- Every frame comes with its signal. -/
def bundledSurfaceFrameSource : SurfaceFrameSource where
  surfacePatchKind _ := .fullRefreshRequired
  surfaceSnapshotFrame _ _ := none
  surfacePatchFrame _ _ _ := none

structure ClientWriteTaskState where
  nextSeq : UInt64
  knownSurfaceVersions : OrderedMap String UInt64

def bundledSurfaceFrameForSignal (state : ClientWriteTaskState) (signal : PendingSurfaceSignal) :
    Option SurfaceFrame :=
  match signal.snapshotRequired, state.knownSurfaceVersions.get? signal.paneId, signal.patchFrame with
  | false, some knownVersion, some patch =>
    if patch.baseVersion = knownVersion ∧ checkedSucc64 knownVersion = some signal.version then
      some patch.frame
    else signal.snapshotFrame
  | _, _, _ => signal.snapshotFrame

def surfaceFrameForSignal (surfaceSource : SurfaceFrameSource) (state : ClientWriteTaskState)
    (signal : PendingSurfaceSignal) : Option SurfaceFrame :=
  match bundledSurfaceFrameForSignal state signal with
  | some frame => some frame
  | none =>
    match signal.snapshotRequired, state.knownSurfaceVersions.get? signal.paneId with
    | false, some knownVersion =>
      if checkedSucc64 knownVersion = some signal.version ∧
          surfaceSource.surfacePatchKind signal.paneId ≠ .fullRefreshRequired then
        surfaceSource.surfacePatchFrame signal.paneId knownVersion state.nextSeq
      else surfaceSource.surfaceSnapshotFrame signal.paneId state.nextSeq
    | _, _ => surfaceSource.surfaceSnapshotFrame signal.paneId state.nextSeq

inductive ServerFrame where
  | reliable (frame : ReliableFrame)
  | surface (frame : SurfaceFrame)
deriving DecidableEq, Repr

/-- The write task: its state, the signals of the set it is writing that are left, and the error it
ended with. -/
structure ClientWriter where
  state : ClientWriteTaskState
  writing : List PendingSurfaceSignal
  failed : Option ClientOutputError

/-! ### The system -/

/-- A session, the live loop's end of one client, its write task, what is in the stream, and the client.
`history` is no part of the source: it lists the states each pane has had. -/
structure System where
  session : Session
  history : String → List PaneState
  client : LiveAttachedClient
  writer : ClientWriter
  stream : List ServerFrame
  attached : ClientAttachState
  refused : Option String

namespace System

/-- The write task ends with an error; its receiver is gone. -/
def writerFails (system : System) (err : ClientOutputError) : System :=
  { system with
    writer := { system.writer with failed := some err }
    client := { system.client with
      output := { system.client.output with receiverClosed := true } } }

section
variable (frameLen : SurfaceFrame → Nat)

/-- One round of the loop in `write_surface_signals`. -/
def writeSignal (system : System) (signal : PendingSurfaceSignal) (rest : List PendingSurfaceSignal) :
    System :=
  let state := system.writer.state
  let skipped := { system with writer := { system.writer with writing := rest } }
  if state.knownSurfaceVersions.get? signal.paneId = some signal.version then skipped
  else
    match surfaceFrameForSignal bundledSurfaceFrameSource state signal with
    | none => skipped
    | some frame =>
      match writeDefaultFrame (frameLen frame) with
      | .error err => system.writerFails err
      | .ok _ =>
        { system with
          stream := system.stream ++ [.surface frame]
          writer := { system.writer with
            writing := rest
            state := {
              nextSeq := satAdd64 state.nextSeq 1
              knownSurfaceVersions :=
                state.knownSurfaceVersions.insert signal.paneId signal.version } } }

/-- A reliable frame taken from the queue and written. -/
def writeReliable (system : System) (frame : ReliableFrame) (rest : List ReliableFrame) : System :=
  let system := { system with client := { system.client with output := { system.client.output with
    reliable := rest
    pendingReliableBytes := system.client.output.pendingReliableBytes - frame.bytes.length } } }
  match writeDefaultFrame frame.bytes.length with
  | .error err => system.writerFails err
  | .ok _ => { system with stream := system.stream ++ [.reliable frame] }

/-- The write task runs up to its next write: it goes on with the set it is writing, or receives its
next event, a reliable frame before a changed set. -/
def wake (system : System) : System :=
  match system.writer.failed with
  | some _ => system
  | none =>
    match system.writer.writing with
    | signal :: rest => system.writeSignal frameLen signal rest
    | [] =>
      match system.client.output.reliable with
      | frame :: rest => system.writeReliable frame rest
      | [] =>
        if system.client.output.surfacesChanged then
          { system with
            client := { system.client with
              output := { system.client.output with surfacesChanged := false } }
            writer := { system.writer with writing := system.client.output.surfaces.panes.values } }
        else system

end

/-- A surface frame read, decoded and applied to the client's cache. -/
def readSurfaceFrame (attached : ClientAttachState) (frame : SurfaceFrame) :
    Except String ClientAttachState := do
  let update ← surfaceUpdateFromFrame frame
  let (attached, _) ← attached.applySurfaceUpdate update
  return attached

/-- The client reads the next frame of the stream. -/
def receive (system : System) : System :=
  match system.stream with
  | [] => system
  | .reliable _ :: rest => { system with stream := rest }
  | .surface frame :: rest =>
    match readSurfaceFrame system.attached frame with
    | .ok attached => { system with stream := rest, attached }
    | .error message => { system with stream := rest, refused := some message }

end System

/-- What happens in the system, in any order. -/
inductive Action where
  | session (after : Session)
  | signal (paneIds : List String)
  | requireSnapshot (paneId : String)
  | reliable (frame : ReliableFrame)
  | wake
  | receive

def System.act (frameLen : SurfaceFrame → Nat) (system : System) : Action → System
  | .session after =>
    { system with
      session := after
      history := fun paneId => system.history paneId ++ (after.pane paneId).toList.map (·.state) }
  | .signal paneIds =>
    { system with
      client := (system.client.signalChangedSurfaceFrames frameLen system.session paneIds).2 }
  | .requireSnapshot paneId =>
    { system with client := system.client.requireSurfaceSnapshot frameLen system.session paneId }
  | .reliable frame => { system with client := system.client.queueReliableFrame frame }
  | .wake => system.wake frameLen
  | .receive => system.receive

end Nmux.Delivery
