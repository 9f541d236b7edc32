import Nmux.Core.Session
import Nmux.Core.Surface

/-! Surface frames of a session: an envelope with the snapshot or the patch of one pane. The bytes of a
frame are those of its FlatBuffers encoding, which is no part of the model; what depends on their
number takes it as a parameter. -/
namespace Nmux

inductive Protocol.SurfaceBody where
  | snapshot (snapshot : Protocol.PaneSurfaceSnapshot)
  | patch (patch : Protocol.PaneSurfacePatch)
deriving DecidableEq, Repr

/-- `table Envelope` with the body of a surface frame. -/
structure SurfaceFrame where
  sessionId : String
  connectionId : String
  seq : UInt64
  body : Protocol.SurfaceBody
deriving DecidableEq, Repr

namespace Session

variable (session : Session) (connectionId : String) (seq : UInt64) (paneId : String)

def paneSurfaceFrameForPane : Option SurfaceFrame :=
  (session.pane paneId).map fun pane =>
    { sessionId := session.id, connectionId, seq, body := .snapshot pane.state.snapshotTable }

def paneSurfacePatchFrameForPane (baseVersion : UInt64) : Option SurfaceFrame :=
  (session.pane paneId).map fun pane =>
    { sessionId := session.id, connectionId, seq, body := .patch (pane.state.patchTable baseVersion) }

end Session

end Nmux
