import Mathlib.Data.String.Basic
import Nmux.Core.Frames
import Nmux.Lib.OrderedMap

/-! The server's end of a client's output: a bounded queue of reliable frames, and a watch channel that
keeps only the last set of surface signals. A signal replaces the one of its pane; a set that grows over
the byte budget gives up its patches, and one that is over it even then is not sent. -/
namespace Nmux.Delivery

open Lib (OrderedMap)

structure ReliableFrame where
  bytes : List UInt8
deriving DecidableEq, Repr

structure SurfacePatchFrame where
  baseVersion : UInt64
  frame : SurfaceFrame
deriving DecidableEq, Repr

structure PendingSurfaceSignal where
  paneId : String
  version : UInt64
  snapshotRequired : Bool
  snapshotFrame : Option SurfaceFrame
  patchFrame : Option SurfacePatchFrame
deriving DecidableEq, Repr

structure SurfaceSignalSet where
  generation : UInt64
  panes : OrderedMap String PendingSurfaceSignal

inductive ClientOutputError where
  | reliableFrameQueueFull (cap frameLen : Nat)
  | reliableByteQueueFull (cap pending frameLen : Nat)
  | surfaceByteQueueFull (cap pending : Nat)
  | reliableQueueClosed
  | surfaceQueueClosed
  | wire (message : String)
deriving DecidableEq, Repr

/-- The sender with what it shares with the receiver: the reliable queue, its pending bytes, and the
watch channel's value with whether the receiver has yet to see it. -/
structure AsyncClientOutput where
  latestSurfaces : SurfaceSignalSet
  reliableFrameCap : Nat
  reliableByteCap : Nat
  surfaceByteCap : Nat
  reliable : List ReliableFrame
  pendingReliableBytes : Nat
  surfaces : SurfaceSignalSet
  surfacesChanged : Bool
  receiverClosed : Bool

/-- `AsyncClientOutput::new`. -/
def AsyncClientOutput.new (reliableFrameCap reliableByteCap : Nat) : AsyncClientOutput where
  latestSurfaces := ⟨0, .empty⟩
  reliableFrameCap := reliableFrameCap
  reliableByteCap := reliableByteCap
  surfaceByteCap := reliableByteCap
  reliable := []
  pendingReliableBytes := 0
  surfaces := ⟨0, .empty⟩
  surfacesChanged := false
  receiverClosed := false

section
variable (frameLen : SurfaceFrame → Nat)

def surfaceSignalSetBytes (surfaces : SurfaceSignalSet) : Nat :=
  (surfaces.panes.values.map fun signal =>
    signal.snapshotFrame.elim 0 frameLen + signal.patchFrame.elim 0 fun patch => frameLen patch.frame).sum

/-- Every signal asks for its snapshot and has no patch. -/
def SurfaceSignalSet.degrade (surfaces : SurfaceSignalSet) : SurfaceSignalSet :=
  { surfaces with panes := surfaces.panes.mapValues fun signal =>
    { signal with snapshotRequired := true, patchFrame := none } }

namespace AsyncClientOutput

def trySendReliable (output : AsyncClientOutput) (frame : ReliableFrame) :
    Except ClientOutputError Unit × AsyncClientOutput :=
  let next := output.pendingReliableBytes + frame.bytes.length
  if output.reliableByteCap < next then
    (.error (.reliableByteQueueFull output.reliableByteCap output.pendingReliableBytes
      frame.bytes.length), output)
  else if output.receiverClosed then (.error .reliableQueueClosed, output)
  else if output.reliableFrameCap ≤ output.reliable.length then
    (.error (.reliableFrameQueueFull output.reliableFrameCap frame.bytes.length), output)
  else
    (.ok (), { output with reliable := output.reliable ++ [frame], pendingReliableBytes := next })

/-- `enforce_surface_budget`: the set it leaves, also when it is refused. -/
def enforceSurfaceBudget (output : AsyncClientOutput) :
    Except ClientOutputError Unit × AsyncClientOutput :=
  if surfaceSignalSetBytes frameLen output.latestSurfaces ≤ output.surfaceByteCap then (.ok (), output)
  else
    let output := { output with latestSurfaces := output.latestSurfaces.degrade }
    let pending := surfaceSignalSetBytes frameLen output.latestSurfaces
    if pending ≤ output.surfaceByteCap then (.ok (), output)
    else (.error (.surfaceByteQueueFull output.surfaceByteCap pending), output)

/-- The latest signals with that of one pane replaced. Once a pane needs a snapshot it keeps needing
one. -/
def withSignal (output : AsyncClientOutput) (paneId : String) (version : UInt64)
    (snapshotRequired : Bool) (snapshotFrame : Option SurfaceFrame)
    (patchFrame : Option SurfacePatchFrame) : AsyncClientOutput :=
  let snapshotRequired := snapshotRequired ||
    (output.latestSurfaces.panes.get? paneId).any (·.snapshotRequired)
  { output with latestSurfaces := {
      generation := satAdd64 output.latestSurfaces.generation 1
      panes := output.latestSurfaces.panes.insert paneId
        { paneId, version, snapshotRequired, snapshotFrame, patchFrame } } }

/-- `surface_tx.send`. -/
def sendSurfaces (output : AsyncClientOutput) : Except ClientOutputError Unit × AsyncClientOutput :=
  if output.receiverClosed then (.error .surfaceQueueClosed, output)
  else (.ok (), { output with surfaces := output.latestSurfaces, surfacesChanged := true })

def updateSurfaceSignal (output : AsyncClientOutput) (paneId : String) (version : UInt64)
    (snapshotRequired : Bool) (snapshotFrame : Option SurfaceFrame)
    (patchFrame : Option SurfacePatchFrame) : Except ClientOutputError Unit × AsyncClientOutput :=
  let output := output.withSignal paneId version snapshotRequired snapshotFrame patchFrame
  match output.enforceSurfaceBudget frameLen with
  | (.error err, output) => (.error err, output)
  | (.ok _, output) => output.sendSurfaces

def signalSurfaceFrameBundle (output : AsyncClientOutput) (paneId : String) (version : UInt64)
    (snapshotFrame : SurfaceFrame) (patchFrame : Option SurfacePatchFrame) :
    Except ClientOutputError Unit × AsyncClientOutput :=
  output.updateSurfaceSignal frameLen paneId version false (some snapshotFrame) patchFrame

def requireSurfaceSnapshotFrame (output : AsyncClientOutput) (paneId : String) (version : UInt64)
    (snapshotFrame : SurfaceFrame) : Except ClientOutputError Unit × AsyncClientOutput :=
  output.updateSurfaceSignal frameLen paneId version true (some snapshotFrame) none

end AsyncClientOutput

end

/-! ### Bundles -/

structure SurfaceFrameBundle where
  version : UInt64
  snapshotFrame : SurfaceFrame
  patchFrame : Option SurfacePatchFrame
deriving DecidableEq, Repr

/-- `checked_sub(1)`. -/
def checkedPred64 (v : UInt64) : Option UInt64 := if v = 0 then none else some (v - 1)

/-- `surface_frame_bundle_for_pane`: the snapshot, and the patch from the version before unless the
pane asks for a full refresh. -/
def surfaceFrameBundleForPane (session : Session) (paneId : String) (seq : UInt64) :
    Option SurfaceFrameBundle := do
  let version ← session.surfaceVersion paneId
  let snapshotFrame ← session.paneSurfaceFrameForPane "local-client" seq paneId
  let patchFrame :=
    if (session.surfacePatchKind paneId).getD .replaceRows = .fullRefreshRequired then none
    else (checkedPred64 version).bind fun baseVersion =>
      (session.paneSurfacePatchFrameForPane "local-client" seq paneId baseVersion).map
        fun frame => { baseVersion, frame }
  return { version, snapshotFrame, patchFrame }

/-- What the live loop keeps of a client it serves. -/
structure LiveAttachedClient where
  seq : UInt64
  knownSurfaceVersions : OrderedMap String UInt64
  output : AsyncClientOutput

namespace LiveAttachedClient

variable (frameLen : SurfaceFrame → Nat)

/-- `signal_changed_surface_frames_to_live_client`, up to the first signal that fails. -/
def signalChangedSurfaceFrames (session : Session) :
    List String → LiveAttachedClient → Except ClientOutputError Unit × LiveAttachedClient
  | [], client => (.ok (), client)
  | paneId :: rest, client =>
    match session.surfaceVersion paneId with
    | none => signalChangedSurfaceFrames session rest client
    | some current =>
      if client.knownSurfaceVersions.get? paneId = some current then
        signalChangedSurfaceFrames session rest client
      else
        match surfaceFrameBundleForPane session paneId client.seq with
        | none => signalChangedSurfaceFrames session rest client
        | some bundle =>
          match client.output.signalSurfaceFrameBundle frameLen paneId bundle.version
              bundle.snapshotFrame bundle.patchFrame with
          | (.error err, output) => (.error err, { client with output })
          | (.ok _, output) =>
            signalChangedSurfaceFrames session rest
              { seq := client.seq + 1
                knownSurfaceVersions := client.knownSurfaceVersions.insert paneId current
                output }

/-- A snapshot required of one pane, with the frame of its current surface. -/
def requireSurfaceSnapshot (session : Session) (paneId : String) (client : LiveAttachedClient) :
    LiveAttachedClient :=
  match session.surfaceVersion paneId,
    session.paneSurfaceFrameForPane "local-client" client.seq paneId with
  | some version, some frame =>
    { client with
      output := (client.output.requireSurfaceSnapshotFrame frameLen paneId version frame).2 }
  | _, _ => client

/-- `queue_reliable_frame_to_live_client`. -/
def queueReliableFrame (frame : ReliableFrame) (client : LiveAttachedClient) : LiveAttachedClient :=
  match client.output.trySendReliable frame with
  | (.error _, output) => { client with output }
  | (.ok _, output) => { client with output, seq := client.seq + 1 }

end LiveAttachedClient

end Nmux.Delivery
