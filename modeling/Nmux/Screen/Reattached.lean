import Nmux.Delivery.Convergence
import Nmux.Live.Loop
import Nmux.Screen.Saved

/-! A client that attaches again and again. It says which versions it knows and is sent a snapshot, a patch
or nothing for its pane; whatever the session did in between, it ends up with the surface the pane has. -/
namespace Nmux.Screen

open Client (ClientAttachState ClientPaneSurface SocketIdentity SurfaceUpdate WorkspaceSummary requiredString
  surfaceUpdateFromFrame workspaceSummaryFromFrame)
open Lib.Check
open Live (AttachStatusSummary ErrorFrame PresenceSummary ServerFrame)

/-! ### Reading the attachment -/

/-- The `Debug` text of an envelope's body type. -/
def bodyTypeDebug : ServerFrame → String
  | .workspace _ => "WorkspaceTreeSnapshot"
  | .presence _ => "PresenceUpdate"
  | .attachStatus _ => "AttachStatus"
  | .surface frame =>
    match frame.body with
    | .snapshot _ => "PaneSurfaceSnapshot"
    | .patch _ => "PaneSurfacePatch"
  | .surfaceBundle _ _ => "PaneSurfaceSnapshot"
  | .scrollback _ => "ScrollbackChunk"
  | .pong _ => "Pong"
  | .error _ => "Error"
  | .sessionInventory _ => "SessionInventory"
  | .inventorySnapshot _ _ => "ClientInventorySnapshot"
  | .inventoryPatch _ _ _ _ _ => "ClientInventoryPatch"

def unexpectedBody {α : Type} (frame : ServerFrame) : Except String α :=
  .error ("unexpected envelope body: " ++ bodyTypeDebug frame)

/-- The generated `variant_name` of an error code. -/
def errorCodeName (code : Protocol.ErrorCode) : Option String :=
  ["Unknown", "ProtocolVersionUnsupported", "SessionNotFound", "PaneNotFound", "PermissionDenied",
    "StaleVersion"][code.value.toNat]?

/-- `error_summary_from_frame` and `server_error`. -/
def serverError {α : Type} (frame : ErrorFrame) : Except String α := do
  let paneId ← frame.paneId.elim (pure none) fun paneId =>
    some <$> requiredString (some paneId) "error pane_id"
  let code ← (errorCodeName frame.code).elim
    (.error ("unknown error code " ++ toString frame.code.value)) .ok
  let message ← requiredString (some frame.message) "error message"
  .error ("server error: " ++ message ++ " (code=" ++ code ++
    paneId.elim "" (fun paneId => ", pane_id=" ++ paneId) ++
    (if frame.inputSeq ≠ 0 then ", input_seq=" ++ toString frame.inputSeq else "") ++
    (if frame.retryable then ", retryable=true" else "") ++ ")")

def presenceFromFrame (presence : PresenceSummary) : Except String PresenceSummary := do
  require presence.kind.known ("unknown presence kind " ++ toString presence.kind.value)
  let focusedPaneId ← presence.focusedPaneId.elim (pure none) fun paneId =>
    some <$> requiredString (some paneId) "presence focused_pane_id"
  return {
    actorId := ← requiredString (some presence.actorId) "presence actor_id"
    userId := ← requiredString (some presence.userId) "presence user_id"
    displayName := ← requiredString (some presence.displayName) "presence display_name"
    mode := presence.mode
    kind := presence.kind
    focusedPaneId }

def attachStatusFromFrame (status : AttachStatusSummary) : Except String AttachStatusSummary := do
  let paneId ← requiredString (some status.paneId) "attach status pane_id"
  require status.surfaceState.known ("unknown attach surface state " ++ toString status.surfaceState.value)
  return { status with paneId }

/-- One of the loops of `attach_from_stream`: frames are read up to the first that is waited for, and a
workspace on the way takes the place of the one before. -/
def awaitFrame {α : Type} (read : ServerFrame → Option (Except String α)) :
    WorkspaceSummary → List ServerFrame → Except String (WorkspaceSummary × α × List ServerFrame)
  | _, [] => .error "failed to fill whole buffer"
  | workspace, frame :: rest =>
    match read frame with
    | some result => do return (workspace, ← result, rest)
    | none =>
      match frame with
      | .workspace frame => do awaitFrame read (← workspaceSummaryFromFrame frame) rest
      | .error frame => serverError frame
      | other => unexpectedBody other

def awaitedPresence : ServerFrame → Option (Except String PresenceSummary)
  | .presence presence => some (presenceFromFrame presence)
  | _ => none

def awaitedStatus : ServerFrame → Option (Except String AttachStatusSummary)
  | .attachStatus status => some (attachStatusFromFrame status)
  | _ => none

def awaitedSurface : ServerFrame → Option (Except String SurfaceUpdate)
  | .surface frame => some (surfaceUpdateFromFrame frame)
  | _ => none

/-- The first frame, which is the workspace or says why there is none. -/
def readWorkspace : List ServerFrame → Except String (WorkspaceSummary × List ServerFrame)
  | [] => .error "failed to fill whole buffer"
  | .workspace frame :: rest => do return (← workspaceSummaryFromFrame frame, rest)
  | .error frame :: _ => serverError frame
  | other :: _ => unexpectedBody other

/-- The surface the status announces. -/
def readAttachSurface (status : AttachStatusSummary) (workspace : WorkspaceSummary) (frames : List ServerFrame) :
    Except String (WorkspaceSummary × Option SurfaceUpdate × List ServerFrame) :=
  if status.surfaceState = .current then .ok (workspace, none, frames)
  else if status.surfaceState = .snapshot ∨ status.surfaceState = .patch then do
    let (workspace, update, rest) ← awaitFrame awaitedSurface workspace frames
    validateAttachSurfaceUpdate status update
    return (workspace, some update, rest)
  else .error ("unsupported attach surface state: " ++ status.surfaceState.debug)

/-- `attach_from_stream`, and the frames that are left in the stream. -/
def attachFromStream (frames : List ServerFrame) : Except String (AttachSnapshot × List ServerFrame) := do
  let (workspace, frames) ← readWorkspace frames
  let (workspace, _, frames) ← awaitFrame awaitedPresence workspace frames
  let (workspace, status, frames) ← awaitFrame awaitedStatus workspace frames
  let (workspace, surface, frames) ← readAttachSurface status workspace frames
  return ({ workspace, status, surface, scrollback := none }, frames)

/-! ### A session and a client -/

/-- A session, the states its panes have had, and the cache of a client. -/
structure Reattaching where
  session : Session
  history : History
  cache : ClientAttachState

/-- The session changes, or the client attaches to a pane, under a scope. -/
inductive ReattachStep where
  | change (after : Session)
  | attach (scope : Option SocketIdentity) (request : AttachRequest) (paneId : String)

/-- The request of a client that knows these versions. -/
def knowingRequest (request : AttachRequest) (knownSurfaces : List KnownSurfaceVersion) : AttachRequest :=
  { request with knownSurfaces }

namespace Reattaching

/-- An attachment with what the client knows: what it is sent, read and rendered. -/
def attach (system : Reattaching) (scope : Option SocketIdentity) (request : AttachRequest) (paneId : String) :
    Except String (ClientAttachState × RenderedAttach) := do
  let request := knowingRequest request (knownSurfacesForScope system.cache scope)
  let (snapshot, _) ← attachFromStream (Live.liveAttachInitialFrames system.session request paneId)
  renderAttach (applyScope system.cache scope) snapshot

/-- An attachment that fails leaves the cache as it was. -/
def act (system : Reattaching) : ReattachStep → Reattaching
  | .change after => { system with session := after, history := system.history.record after }
  | .attach scope request paneId =>
    match system.attach scope request paneId with
    | .ok (cache, _) => { system with cache }
    | .error _ => system

end Reattaching

/-- What a client must be given to attach: names that are not empty, and a workspace it accepts. -/
structure Attachable (session : Session) (request : AttachRequest) : Prop where
  actorId : request.actorId.isEmpty = false
  userId : request.userId.isEmpty = false
  displayName : request.displayName.isEmpty = false
  focused : ∀ focused, request.focusedPaneId = some focused → focused.isEmpty = false
  workspace : ∃ workspace,
    workspaceSummaryFromFrame (session.workspaceTreeFrame "local-client" 1) = .ok workspace

theorem Attachable.knowing {session : Session} {request : AttachRequest} (h : Attachable session request)
    (knownSurfaces : List KnownSurfaceVersion) : Attachable session (knowingRequest request knownSurfaces) :=
  ⟨h.actorId, h.userId, h.displayName, h.focused, h.workspace⟩

/-- The session changes along its histories, and the client attaches to a pane there is. -/
def Reattaching.Allowed (system : Reattaching) : ReattachStep → Prop
  | .change after => SessionStep system.history system.session after
  | .attach _ request paneId =>
    (system.session.state paneId).isSome = true ∧ Attachable system.session request

/-- The client can save what it holds, and every surface it holds is one its pane has had. -/
structure Reattaching.Sound (system : Reattaching) : Prop where
  histories : HistoryOf system.history system.session
  held : system.cache.Held
  cached : ∀ paneId surface, system.cache.cachedSurface paneId = some surface →
    ∃ state ∈ system.history paneId, surface = state.clientSurface

/-! ### What the client reads -/

section
variable {session : Session} {request : AttachRequest} {paneId : String} {workspace : WorkspaceSummary}
  {state : PaneState}

theorem presenceFromFrame_actor (h : Attachable session request) (hpane : paneId.isEmpty = false) :
    ∃ presence, presenceFromFrame (Live.presenceUpdate (request.actorForPane paneId)) = .ok presence := by
  obtain ⟨focused, hfocused, hnamed⟩ : ∃ focused, request.focusedPaneId.or (some paneId) = some focused ∧
      focused.isEmpty = false := by
    cases hfocus : request.focusedPaneId with
    | none => exact ⟨paneId, rfl, hpane⟩
    | some focused => exact ⟨focused, rfl, h.focused focused hfocus⟩
  unfold presenceFromFrame Live.presenceUpdate AttachRequest.actorForPane AttachRequest.actor
  dsimp only
  rw [hfocused, Option.elim_some, requiredString_some hnamed, requiredString_some h.actorId,
    requiredString_some h.userId, requiredString_some h.displayName]
  exact ⟨_, rfl⟩

theorem attachStatusFromFrame_status (session : Session) (hpane : paneId.isEmpty = false)
    {surfaceState : Protocol.AttachSurfaceState} (hknown : surfaceState.known = true) :
    attachStatusFromFrame (Live.attachStatus session paneId surfaceState) =
      .ok (Live.attachStatus session paneId surfaceState) := by
  unfold attachStatusFromFrame Live.attachStatus
  dsimp only
  rw [requiredString_some hpane, ok_bind, require_eq_ok.mpr hknown]
  rfl

/-- The frames up to the status. -/
theorem attachFromStream_status (h : Attachable session request) (hpane : paneId.isEmpty = false)
    (hworkspace : workspaceSummaryFromFrame (session.workspaceTreeFrame "local-client" 1) = .ok workspace)
    {surfaceState : Protocol.AttachSurfaceState} (hknown : surfaceState.known = true)
    (rest : List ServerFrame) :
    attachFromStream (.workspace (session.workspaceTreeFrame "local-client" 1) ::
        .presence (Live.presenceUpdate (request.actorForPane paneId)) ::
        .attachStatus (Live.attachStatus session paneId surfaceState) :: rest) =
      (readAttachSurface (Live.attachStatus session paneId surfaceState) workspace rest).map fun read =>
        (⟨read.1, Live.attachStatus session paneId surfaceState, read.2.1, none⟩, read.2.2) := by
  obtain ⟨presence, hpresence⟩ := presenceFromFrame_actor h hpane
  have hread : ∀ frames, readWorkspace (.workspace (session.workspaceTreeFrame "local-client" 1) :: frames) =
      .ok (workspace, frames) := fun frames => by
    rw [readWorkspace, hworkspace]
    rfl
  unfold attachFromStream
  rw [hread]
  simp only [ok_bind, awaitFrame, awaitedPresence, awaitedStatus, hpresence,
    attachStatusFromFrame_status session hpane hknown, pure_bind]
  cases readAttachSurface (Live.attachStatus session paneId surfaceState) workspace rest <;> rfl

theorem readAttachSurface_surface {status : AttachStatusSummary} {frame : SurfaceFrame} {update : SurfaceUpdate}
    (hnot : status.surfaceState ≠ .current)
    (hsurface : status.surfaceState = .snapshot ∨ status.surfaceState = .patch)
    (hupdate : surfaceUpdateFromFrame frame = .ok update)
    (hvalid : validateAttachSurfaceUpdate status update = .ok ()) :
    readAttachSurface status workspace [.surface frame] = .ok (workspace, some update, []) := by
  unfold readAttachSurface
  rw [if_neg hnot, if_pos hsurface]
  simp only [awaitFrame, awaitedSurface, hupdate, ok_bind, pure_bind, hvalid]
  rfl

/-- A client that knows the version of the pane is sent no surface. -/
theorem attachFromStream_current (h : Attachable session request) (hpane : paneId.isEmpty = false)
    (hworkspace : workspaceSummaryFromFrame (session.workspaceTreeFrame "local-client" 1) = .ok workspace)
    (hresponse : request.surfaceResponse session paneId = none) :
    attachFromStream (Live.liveAttachInitialFrames session request paneId) =
      .ok (⟨workspace, Live.attachStatus session paneId .current, none, none⟩, []) := by
  unfold Live.liveAttachInitialFrames
  rw [hresponse]
  exact attachFromStream_status h hpane hworkspace rfl []

/-- Any other is sent the surface that answers what it knows. -/
theorem attachFromStream_surface (h : Attachable session request) (hpane : paneId.isEmpty = false)
    (hworkspace : workspaceSummaryFromFrame (session.workspaceTreeFrame "local-client" 1) = .ok workspace)
    {response : SurfaceResponse} (hresponse : request.surfaceResponse session paneId = some response)
    {frame : SurfaceFrame} {update : SurfaceUpdate}
    (hframe : Live.LiveAttachedClient.surfaceResponseFrame session paneId response 4 = some frame)
    (hupdate : surfaceUpdateFromFrame frame = .ok update)
    (hvalid : validateAttachSurfaceUpdate
      (Live.attachStatus session paneId (attachSurfaceState (some response))) update = .ok ()) :
    attachFromStream (Live.liveAttachInitialFrames session request paneId) =
      .ok (⟨workspace, Live.attachStatus session paneId (attachSurfaceState (some response)), some update,
        none⟩, []) := by
  have hframes : Live.liveAttachInitialFrames session request paneId =
      [.workspace (session.workspaceTreeFrame "local-client" 1),
        .presence (Live.presenceUpdate (request.actorForPane paneId)),
        .attachStatus (Live.attachStatus session paneId (attachSurfaceState (some response))),
        .surface frame] := by
    unfold Live.liveAttachInitialFrames
    dsimp only
    rw [hresponse, Option.bind_some, hframe]
    rfl
  have hknown : (attachSurfaceState (some response)).known = true := by
    cases response <;> rfl
  rw [hframes, attachFromStream_status h hpane hworkspace hknown]
  have hnot : attachSurfaceState (some response) ≠ .current := by
    cases response <;> exact fun heq => by cases heq
  have hsurface : attachSurfaceState (some response) = .snapshot ∨ attachSurfaceState (some response) = .patch := by
    cases response
    · exact .inl rfl
    · exact .inr rfl
  have hread := @readAttachSurface_surface workspace _ _ _ hnot hsurface hupdate hvalid
  rw [hread]
  rfl

end

/-! ### What the client holds -/

theorem validateAttachSurfaceUpdate_ok {status : AttachStatusSummary} {update : SurfaceUpdate}
    (hpane : update.paneId = status.paneId)
    (hkind : (status.surfaceState = .snapshot ∧ update.kind = .snapshot) ∨
      (status.surfaceState = .patch ∧ update.kind = .patch)) :
    validateAttachSurfaceUpdate status update = .ok () := by
  rw [validateAttachSurfaceUpdate, if_neg (not_not.mpr hpane), if_pos hkind]

section
variable {cache reached : ClientAttachState} {snapshot : AttachSnapshot} {surface : ClientPaneSurface}

/-- What a client says it knows of a pane is the version it holds, once the scope is applied. -/
theorem find?_knownSurfaces (cache : ClientAttachState) (scope : Option SocketIdentity) (paneId : String) :
    (knownSurfacesForScope cache scope).find? (·.paneId == paneId) =
      ((applyScope cache scope).cachedSurface paneId).map fun surface => ⟨surface.paneId, surface.version⟩ := by
  unfold knownSurfacesForScope applyScope ClientAttachState.cachedSurface
  by_cases hscope : cache.scope = scope
  · rw [if_pos hscope, if_neg (not_not.mpr hscope), List.find?_map]
    rfl
  · rw [if_neg hscope, if_pos hscope]
    rfl

theorem applyScope_cachedSurface {scope : Option SocketIdentity} {paneId : String}
    (h : (applyScope cache scope).cachedSurface paneId = some surface) :
    cache.cachedSurface paneId = some surface := by
  unfold applyScope at h
  split at h
  · cases h
  · exact h

theorem renderAttach_status {rendered : RenderedAttach}
    (h : renderAttach cache snapshot = .ok (reached, rendered)) : rendered.status = snapshot.status := by
  unfold renderAttach at h
  dsimp only at h
  split at h
  · obtain ⟨-, h⟩ := check_bind_eq_ok.mp h
    obtain ⟨applied, -, h⟩ := bind_eq_ok.mp h
    obtain ⟨text, -, h⟩ := bind_eq_ok.mp h
    obtain ⟨shown, -, h⟩ := bind_eq_ok.mp h
    obtain ⟨surface, -, h⟩ := bind_eq_ok.mp h
    obtain ⟨summary, -, h⟩ := bind_eq_ok.mp h
    obtain ⟨-, rfl⟩ := Prod.mk.inj (Except.ok.inj h)
    rfl
  · split at h
    · cases h
    · obtain ⟨held, -, h⟩ := bind_eq_ok.mp h
      obtain ⟨text, -, h⟩ := bind_eq_ok.mp h
      obtain ⟨shown, -, h⟩ := bind_eq_ok.mp h
      obtain ⟨surface, -, h⟩ := bind_eq_ok.mp h
      obtain ⟨summary, -, h⟩ := bind_eq_ok.mp h
      obtain ⟨-, rfl⟩ := Prod.mk.inj (Except.ok.inj h)
      rfl

/-- An attach whose cache is known renders the surface that is then held. -/
theorem renderAttach_shows (hheld : cache.Held)
    (hread : ∀ update, snapshot.surface = some update → update.Read)
    (hreached : attachedCache cache snapshot = .ok reached)
    (hcached : reached.cachedSurface snapshot.status.paneId = some surface) :
    ∃ rendered, renderAttach cache snapshot = .ok (reached, rendered) ∧
      rendered.status = snapshot.status ∧ surfaceSummary surface = .ok rendered.surface := by
  have hcache := renderAttach_cache hheld hread
  rw [hreached] at hcache
  cases hrender : renderAttach cache snapshot with
  | error message =>
    rw [hrender] at hcache
    cases hcache
  | ok result =>
    rw [hrender] at hcache
    obtain ⟨after, rendered⟩ := result
    obtain rfl : after = reached := Except.ok.inj hcache
    obtain ⟨shown, hshown, hsummary⟩ := renderAttach_cached hrender
    rw [renderAttach_status hrender, hcached] at hshown
    obtain rfl := Option.some.inj hshown
    exact ⟨rendered, rfl, renderAttach_status hrender, hsummary⟩

theorem cachedCurrentSurface_ok {paneId : String} {version : UInt64}
    (hcached : cache.cachedSurface paneId = some surface) (hversion : surface.version = version) :
    cachedCurrentSurface cache paneId version = .ok surface := by
  rw [cachedCurrentSurface, hcached]
  exact if_neg (not_not.mpr hversion)

end

/-! ### The surface that is sent -/

section
variable {session : Session} {request : AttachRequest} {paneId : String} {state : PaneState}
  {cache : ClientAttachState}

theorem pane_of_state (h : session.state paneId = some state) :
    ∃ pane, session.pane paneId = some pane ∧ pane.state = state := by
  obtain ⟨pane, hpane, hstate⟩ := Option.map_eq_some_iff.mp h
  exact ⟨pane, hpane, hstate⟩

theorem attachStatus_version (h : session.state paneId = some state)
    (surfaceState : Protocol.AttachSurfaceState) :
    Live.attachStatus session paneId surfaceState = ⟨paneId, state.surfaceVersion, surfaceState⟩ := by
  obtain ⟨pane, hpane, rfl⟩ := pane_of_state h
  rw [Live.attachStatus, Session.surfaceVersion, hpane]
  rfl

/-- What a client is sent that holds nothing, or a surface of some version. -/
theorem surfaceResponse_eq (h : session.state paneId = some state) (cache : ClientAttachState)
    (scope : Option SocketIdentity) (request : AttachRequest) :
    (knowingRequest request (knownSurfacesForScope cache scope)).surfaceResponse session paneId =
      ((applyScope cache scope).cachedSurface paneId).elim (some .snapshot) fun held =>
        surfaceResponseForKnownVersion state.surfaceVersion held.version state.lastPatchKind := by
  obtain ⟨pane, hpane, rfl⟩ := pane_of_state h
  unfold AttachRequest.surfaceResponse knowingRequest
  rw [Session.surfaceVersion, Session.surfacePatchKind, hpane]
  dsimp only [Option.map_some]
  rw [find?_knownSurfaces]
  cases (applyScope cache scope).cachedSurface paneId <;> rfl

/-- A surface that brings the client to the pane's current one. -/
structure Brings (cache : ClientAttachState) (session : Session) (paneId : String) (state : PaneState)
    (response : SurfaceResponse) : Prop where
  reads : ∃ frame update reached,
    Live.LiveAttachedClient.surfaceResponseFrame session paneId response 4 = some frame ∧
    surfaceUpdateFromFrame frame = .ok update ∧ update.paneId = paneId ∧
    update.kind = (match response with | .snapshot => .snapshot | .patch _ => .patch) ∧
    cache.applySurfaceUpdate update = .ok (reached, state.clientSurface)

theorem brings_snapshot (h : session.state paneId = some state) (hdeliverable : state.Deliverable)
    (cache : ClientAttachState) : Brings cache session paneId state .snapshot := by
  have hid := Session.state_id h
  obtain ⟨pane, hpane, rfl⟩ := pane_of_state h
  have hsurface : ClientPaneSurface.fromSnapshot pane.state.snapshotContent = .ok pane.state.clientSurface :=
    pane.state.fromSnapshot_eq_ok.mpr ⟨hdeliverable.published, rfl⟩
  obtain ⟨reached, hreached⟩ := cache.applySurfaceUpdate_snapshot rfl hsurface
  refine ⟨⟨session.id, "local-client", 4, .snapshot pane.state.snapshotTable⟩, pane.state.snapshotContent,
    reached, ?_, hdeliverable.snapshotFrame, hid, rfl, hreached⟩
  rw [Live.LiveAttachedClient.surfaceResponseFrame, Session.paneSurfaceFrameForPane, hpane]
  rfl

theorem brings_patch (h : session.state paneId = some state) (hdeliverable : state.Deliverable)
    {earlier : PaneState} (hpatch : RetainedPatch earlier state)
    (hheld : cache.cachedSurface paneId = some earlier.clientSurface) :
    Brings cache session paneId state (.patch earlier.surfaceVersion) := by
  have hid := Session.state_id h
  obtain ⟨pane, hpane, rfl⟩ := pane_of_state h
  rw [← hid] at hheld
  have happly : earlier.clientSurface.applyUpdate (pane.state.patchContent earlier.surfaceVersion) =
      .ok pane.state.clientSurface := hpatch.applyPatch hdeliverable.published
  have hread := @Client.ClientAttachState.applySurfaceUpdate_some cache
    (pane.state.patchContent earlier.surfaceVersion) _ _ hheld happly
  refine ⟨⟨session.id, "local-client", 4, .patch (pane.state.patchTable earlier.surfaceVersion)⟩,
    pane.state.patchContent earlier.surfaceVersion, _, ?_, hpatch.patchFrame hdeliverable, hid, rfl, hread⟩
  rw [Live.LiveAttachedClient.surfaceResponseFrame, Session.paneSurfacePatchFrameForPane, hpane]
  rfl

end

/-! ### Attaching -/

namespace Reattaching

variable {system : Reattaching} {request : AttachRequest} {paneId : String} {state : PaneState}

/-- What an attachment leaves: the pane's current surface is held, the others are as they were, and what
is rendered is that surface. -/
structure Shows (system : Reattaching) (scope : Option SocketIdentity) (paneId : String) (state : PaneState)
    (cache : ClientAttachState) (rendered : RenderedAttach) : Prop where
  held : cache.Held
  cached : ∀ other, cache.cachedSurface other =
    if other = paneId then some state.clientSurface else (applyScope system.cache scope).cachedSurface other
  pane : rendered.status.paneId = paneId
  surface : surfaceSummary state.clientSurface = .ok rendered.surface

/-- **The attach succeeds** where the surface that answers the client is one that brings it to the current
one. -/
theorem attach_brings (h : system.Sound) (hstate : system.session.state paneId = some state)
    (hdeliverable : state.Deliverable) (hattachable : Attachable system.session request)
    (scope : Option SocketIdentity) {response : SurfaceResponse}
    (hresponse : (knowingRequest request (knownSurfacesForScope system.cache scope)).surfaceResponse
      system.session paneId = some response)
    (hbrings : Brings (applyScope system.cache scope) system.session paneId state response) :
    ∃ cache rendered, system.attach scope request paneId = .ok (cache, rendered) ∧
      system.Shows scope paneId state cache rendered := by
  obtain ⟨workspace, hworkspace⟩ := hattachable.workspace
  obtain ⟨frame, update, reached, hframe, hupdate, hpane, hkind, happly⟩ := hbrings.reads
  have hid := Session.state_id hstate
  have hscoped := applyScope_held h.held scope
  have hread := Client.surfaceUpdateFromFrame_read hupdate
  have hcached := Client.ClientAttachState.cachedSurface_of_applySurfaceUpdate happly (hid.trans hpane.symm)
  have hcurrent : reached.cachedSurface paneId = some state.clientSurface := by
    rw [hcached, if_pos hpane.symm]
  have hvalid : validateAttachSurfaceUpdate
      (Live.attachStatus system.session paneId (attachSurfaceState (some response))) update = .ok () := by
    refine validateAttachSurfaceUpdate_ok hpane ?_
    cases response with
    | snapshot => exact .inl ⟨rfl, hkind⟩
    | patch base => exact .inr ⟨rfl, hkind⟩
  have hreached : attachedCache (applyScope system.cache scope) ⟨workspace,
      Live.attachStatus system.session paneId (attachSurfaceState (some response)), some update, none⟩ =
        .ok reached := by
    unfold attachedCache
    simp only [hvalid, ok_bind, happly, pure_bind]
    rw [attachStatus_version hstate]
    dsimp only
    rw [show cachedCurrentSurface reached paneId state.surfaceVersion = .ok state.clientSurface from
      cachedCurrentSurface_ok hcurrent rfl]
    rfl
  have hreads := attachFromStream_surface (hattachable.knowing _) (hid ▸ hdeliverable.named) hworkspace hresponse hframe hupdate hvalid
  obtain ⟨rendered, hrender, hstatus, hsurface⟩ := renderAttach_shows hscoped
    (by rintro _ ⟨⟩; exact hread) hreached hcurrent
  refine ⟨reached, rendered, ?_, ⟨Client.applySurfaceUpdate_held hscoped hread happly, fun other => ?_,
    congrArg AttachStatusSummary.paneId hstatus, hsurface⟩⟩
  · unfold attach
    dsimp only
    rw [hreads]
    exact hrender
  · rw [hcached, hpane]

/-- A client that holds the current version is sent no surface, and keeps the one it has. -/
theorem attach_current (h : system.Sound) (hstate : system.session.state paneId = some state)
    (hdeliverable : state.Deliverable) (hattachable : Attachable system.session request)
    (scope : Option SocketIdentity)
    (hresponse : (knowingRequest request (knownSurfacesForScope system.cache scope)).surfaceResponse
      system.session paneId = none)
    (hcurrent : (applyScope system.cache scope).cachedSurface paneId = some state.clientSurface) :
    ∃ cache rendered, system.attach scope request paneId = .ok (cache, rendered) ∧
      system.Shows scope paneId state cache rendered := by
  obtain ⟨workspace, hworkspace⟩ := hattachable.workspace
  have hid := Session.state_id hstate
  have hscoped := applyScope_held h.held scope
  have hreached : attachedCache (applyScope system.cache scope) ⟨workspace,
      Live.attachStatus system.session paneId .current, none, none⟩ = .ok (applyScope system.cache scope) := by
    unfold attachedCache
    dsimp only
    rw [attachStatus_version hstate]
    have hok : cachedCurrentSurface (applyScope system.cache scope) paneId state.surfaceVersion =
        .ok state.clientSurface := cachedCurrentSurface_ok hcurrent rfl
    simp only [ne_eq, not_true_eq_false, if_false, hok, ok_bind, pure_bind]
    rfl
  have hreads := attachFromStream_current (hattachable.knowing _) (hid ▸ hdeliverable.named) hworkspace hresponse
  obtain ⟨rendered, hrender, hstatus, hsurface⟩ := renderAttach_shows hscoped
    (by rintro _ ⟨⟩) hreached hcurrent
  refine ⟨_, rendered, ?_, ⟨hscoped, fun other => ?_, congrArg AttachStatusSummary.paneId hstatus, hsurface⟩⟩
  · unfold attach
    dsimp only
    rw [hreads]
    exact hrender
  · split
    case isTrue hsame => rw [hsame, hcurrent]
    case isFalse => rfl

/-- Every attach to a pane there is succeeds, and shows its current surface. -/
theorem attach_shows (h : system.Sound) (hstate : system.session.state paneId = some state)
    (hattachable : Attachable system.session request) (scope : Option SocketIdentity) :
    ∃ cache rendered, system.attach scope request paneId = .ok (cache, rendered) ∧
      system.Shows scope paneId state cache rendered := by
  obtain ⟨hmem, hlatest⟩ := h.histories.current paneId state hstate
  have hpast := h.histories.histories paneId
  have hdeliverable := hpast.deliverable state hmem
  have hresponse := surfaceResponse_eq hstate system.cache scope request
  cases hheld : (applyScope system.cache scope).cachedSurface paneId with
  | none =>
    rw [hheld] at hresponse
    exact attach_brings h hstate hdeliverable hattachable scope hresponse (brings_snapshot hstate hdeliverable _)
  | some held =>
    obtain ⟨earlier, hearlier, rfl⟩ := h.cached paneId held (applyScope_cachedSurface hheld)
    rw [hheld, Option.elim_some, surfaceResponseForKnownVersion] at hresponse
    by_cases hknown : earlier.clientSurface.version = state.surfaceVersion
    · -- the version names one surface
      rw [if_pos hknown] at hresponse
      have hsame : state.versionNumber = earlier.versionNumber := congrArg UInt64.toNat hknown.symm
      refine attach_current h hstate hdeliverable hattachable scope hresponse ?_
      rw [hheld, clientSurface_congr (hpast.content earlier hearlier state hmem hsame)]
    · rw [if_neg hknown] at hresponse
      split at hresponse
      · exact attach_brings h hstate hdeliverable hattachable scope hresponse
          (brings_snapshot hstate hdeliverable _)
      case isFalse hkind =>
        split at hresponse
        case isTrue hnext =>
          have hversion : state.versionNumber = earlier.versionNumber + 1 :=
            Delivery.checkedSucc64_eq_some hnext
          exact attach_brings h hstate hdeliverable hattachable scope hresponse
            (brings_patch hstate hdeliverable (hpast.patch earlier hearlier state hmem hkind hversion) hheld)
        case isFalse =>
          exact attach_brings h hstate hdeliverable hattachable scope hresponse
            (brings_snapshot hstate hdeliverable _)

/-- What a session and its client keep. -/
theorem Sound.act (h : system.Sound) {step : ReattachStep} (hallowed : system.Allowed step) :
    (system.act step).Sound := by
  cases step with
  | change after =>
    refine ⟨h.histories.step hallowed, h.held, fun other surface hcached => ?_⟩
    obtain ⟨earlier, hearlier, hsurface⟩ := h.cached other surface hcached
    exact ⟨earlier, History.mem_record hearlier, hsurface⟩
  | attach scope request paneId =>
    obtain ⟨hsome, hattachable⟩ := hallowed
    obtain ⟨state, hstate⟩ := Option.isSome_iff_exists.mp hsome
    obtain ⟨cache, rendered, hattach, hshows⟩ := attach_shows h hstate hattachable scope
    unfold Reattaching.act
    dsimp only
    rw [hattach]
    refine ⟨h.histories, hshows.held, fun other surface hcached => ?_⟩
    dsimp only at hcached
    rw [hshows.cached] at hcached
    split at hcached
    case isTrue hsame =>
      rw [hsame]
      exact ⟨state, (h.histories.current paneId state hstate).1, (Option.some.inj hcached).symm⟩
    case isFalse => exact h.cached other surface (applyScope_cachedSurface hcached)

end Reattaching

theorem Reattaching.act_attach (system : Reattaching) (scope : Option SocketIdentity) (request : AttachRequest)
    (paneId : String) : ∃ cache, system.act (.attach scope request paneId) = { system with cache } := by
  unfold act
  dsimp only
  split
  · exact ⟨_, rfl⟩
  · exact ⟨system.cache, rfl⟩

/-- The initial session and a client that holds nothing. -/
def reattachStart : Reattaching where
  session := Session.initial
  history := fun paneId => (Session.initial.state paneId).toList
  cache := .default

/-- The client attaches, and the pane is written one character. -/
def reattachSteps : List ReattachStep :=
  [.attach none Live.plainRequest "pane-1", .change Delivery.echoed]

theorem plainRequest_attachable {session : Session} (h : (workspaceSummaryFromFrame
    (session.workspaceTreeFrame "local-client" 1)).toOption.isSome = true) :
    Attachable session Live.plainRequest := by
  refine ⟨by decide, by decide, by decide, fun focused hfocused => (by cases hfocused), ?_⟩
  cases hread : workspaceSummaryFromFrame (session.workspaceTreeFrame "local-client" 1) with
  | error message =>
    rw [hread] at h
    cases h
  | ok workspace => exact ⟨workspace, rfl⟩

end Nmux.Screen
