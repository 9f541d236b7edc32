import Nmux.Core.SessionNodes

/-! Attach requests: which pane a client attaches to, and whether it is sent a snapshot of it, a patch
or nothing, by the version it says it knows. -/
namespace Nmux

open Protocol (PatchKind AttachSurfaceState)

inductive AttachMode where
  | readOnly
  | readWrite
deriving DecidableEq, Repr

structure Actor where
  id : String
  userId : String
  displayName : String
  mode : AttachMode
  focusedPaneId : Option String
deriving DecidableEq, Repr

def Session.inputAllowed (actor : Actor) : Bool := actor.mode == .readWrite

structure KnownSurfaceVersion where
  paneId : String
  version : UInt64
deriving DecidableEq, Repr

structure AttachRequest where
  actorId : String
  userId : String
  displayName : String
  mode : AttachMode
  focusedPaneId : Option String
  knownSurfaces : List KnownSurfaceVersion
  hostname : String
  clientKind : String
  subscribeClientInventory : Bool
deriving DecidableEq, Repr

inductive SurfaceResponse where
  | snapshot
  | patch (baseVersion : UInt64)
deriving DecidableEq, Repr

/-- `checked_add(1)`. -/
def checkedSucc64 (n : UInt64) : Option UInt64 := if n.toNat + 1 < 2 ^ 64 then some (n + 1) else none

def surfaceResponseForKnownVersion (current known : UInt64) (patchKind : PatchKind) :
    Option SurfaceResponse :=
  if known = current then none
  else if patchKind = .fullRefreshRequired then some .snapshot
  else if checkedSucc64 known = some current then some (.patch known)
  else some .snapshot

namespace AttachRequest

def actor (request : AttachRequest) : Actor where
  id := request.actorId
  userId := request.userId
  displayName := request.displayName
  mode := request.mode
  focusedPaneId := request.focusedPaneId

/-- What the client is sent for the pane; nothing if the pane is missing or known. -/
def surfaceResponse (request : AttachRequest) (session : Session) (paneId : String) :
    Option SurfaceResponse :=
  match session.surfaceVersion paneId with
  | none => none
  | some current =>
    match request.knownSurfaces.find? (·.paneId == paneId) with
    | none => some .snapshot
    | some known =>
      surfaceResponseForKnownVersion current known.version
        ((session.surfacePatchKind paneId).getD .replaceRows)

/-- `request_actor_for_pane`. -/
def actorForPane (request : AttachRequest) (paneId : String) : Actor :=
  { request.actor with focusedPaneId := request.focusedPaneId.or (some paneId) }

/-- `attach_target_pane_id`. The target is a pane, or a tab, which is made the active one. -/
def targetPaneId (request : AttachRequest) (session : Session) : Session × Option String :=
  match request.focusedPaneId with
  | none => (session, session.activePaneId)
  | some targetId =>
    if (session.surfaceVersion targetId).isSome then (session, some targetId)
    else
      match (session.tabs.find? (·.id == targetId)).filter fun tab =>
        (session.surfaceVersion tab.activePaneId).isSome with
      | none => (session, none)
      | some tab =>
        (if session.activeTabId ≠ targetId then (session.switchTab targetId).1 else session,
          some tab.activePaneId)

end AttachRequest

def attachSurfaceState : Option SurfaceResponse → AttachSurfaceState
  | some .snapshot => .snapshot
  | some (.patch _) => .patch
  | none => .current

/-- `attach_target_session_mismatch`. -/
def attachTargetSessionMismatch (session : Session) (targetSessionId : Option String) :
    Option String :=
  targetSessionId.filter (· ≠ session.id)

end Nmux
