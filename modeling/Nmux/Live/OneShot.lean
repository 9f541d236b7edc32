import Nmux.Live.Drain
import Nmux.Daemon.SessionControl

/-! A connection that is served once. Its first frame says what it is: a control command, a health probe
or an attach. An attached client is sent the workspace and the pane it looks at, and what it asks after
that is answered until it stops. Here the session is written to directly where the live loop would have
the actor accept an event. -/
namespace Nmux.Live

open Protocol (ErrorCode ControlCommandKind)

/-! ### Streams -/

/-- A client's stream: which of the writes to it fail, how many there were, and what was written. -/
structure ClientStream where
  writes : Nat → Option WireError
  handed : Nat
  written : List ServerFrame

namespace ClientStream

/-- A stream nothing was written to. -/
def fresh (writes : Nat → Option WireError) : ClientStream := { writes, handed := 0, written := [] }

/-- `write_default_frame`. -/
def write (stream : ClientStream) (frame : ServerFrame) : Except ServeError Unit × ClientStream :=
  match stream.writes stream.handed with
  | some error => (.error (.wire error), { stream with handed := stream.handed + 1 })
  | none =>
    (.ok (), { stream with handed := stream.handed + 1, written := stream.written ++ [frame] })

/-- Frames in order, up to the first that fails. -/
def writeAll (stream : ClientStream) : List ServerFrame → Except ServeError Unit × ClientStream
  | [] => (.ok (), stream)
  | frame :: rest =>
    match stream.write frame with
    | (.error error, stream) => (.error error, stream)
    | (.ok _, stream) => writeAll stream rest

/-- `write_protocol_error_with_retryability`. -/
def writeProtocolErrorWithRetryability (stream : ClientStream) (code : ErrorCode) (message : String)
    (retryable : Bool) (paneId : Option String) (inputSeq : UInt64) :
    Except ServeError Unit × ClientStream :=
  stream.write (.error { code, message, retryable, paneId, inputSeq })

/-- `write_protocol_error`. -/
def writeProtocolError (stream : ClientStream) (code : ErrorCode) (message : String)
    (paneId : Option String) (inputSeq : UInt64) : Except ServeError Unit × ClientStream :=
  stream.writeProtocolErrorWithRetryability code message false paneId inputSeq

/-- `write_pane_not_found_error_with_input_seq`. -/
def writePaneNotFoundError (stream : ClientStream) (paneId : String) (inputSeq : UInt64) :
    Except ServeError Unit × ClientStream :=
  stream.writeProtocolError .paneNotFound ("pane not found: " ++ paneId) (some paneId) inputSeq

/-- `write_active_pane_not_found_error`. -/
def writeActivePaneNotFoundError (stream : ClientStream) (session : Session) :
    Except ServeError Unit × ClientStream :=
  match session.activeTab with
  | none =>
    stream.writeProtocolError .paneNotFound ("active tab not found: " ++ session.activeTabId) none 0
  | some tab =>
    stream.writeProtocolError .paneNotFound ("active pane not found: " ++ tab.activePaneId)
      (some tab.activePaneId) 0

/-- `write_attach_target_not_found_error` and `write_presence_target_not_found_error`. -/
def writeTargetNotFoundError (stream : ClientStream) (session : Session) (focusedPaneId : Option String) :
    Except ServeError Unit × ClientStream :=
  match focusedPaneId with
  | some paneId => stream.writePaneNotFoundError paneId 0
  | none => stream.writeActivePaneNotFoundError session

/-- `write_host_output_error`. -/
def writeHostOutputError (stream : ClientStream) (paneId : String) (error : HostError) :
    Except ServeError Unit × ClientStream :=
  stream.writeProtocolError .unknown ("output polling failed: " ++ error.message) (some paneId) 0

theorem writeAll_ok {stream after : ClientStream} {frames : List ServerFrame}
    (h : stream.writeAll frames = (.ok (), after)) : after.written = stream.written ++ frames := by
  induction frames generalizing stream with
  | nil =>
    obtain ⟨-, rfl⟩ := Prod.mk.inj h
    rw [List.append_nil]
  | cons frame rest ih =>
    unfold writeAll write at h
    cases hwrite : stream.writes stream.handed with
    | some error => simp [hwrite] at h
    | none =>
      simp only [hwrite] at h
      rw [ih h, List.append_assoc, List.singleton_append]

end ClientStream

/-! ### First frames -/

inductive ClientInitialFrame where
  | attach (targetSessionId : Option String) (request : AttachRequest)
  | control (command : ControlCommandSummary)
  | healthProbe (probe : PresenceSummary)

inductive AttachedClientFrame where
  | scrollback (fetch : ScrollbackFetchSummary)
  | input (input : InputSummary)

inductive AttachedClientRead where
  | frame (frame : AttachedClientFrame)
  | noFrame
  | closed

/-- A connection: its first frame, what becomes of the writes to it, what its reads come to after that,
and how often the polls for it read and repeat. -/
structure Connection where
  initial : Except ServeError ClientInitialFrame
  writes : Nat → Option WireError
  frames : List (Except ServeError AttachedClientRead)
  reads : Nat
  rounds : Nat

/-! ### Control commands -/

/-- `session_title`. -/
def sessionTitle (session : Session) : String :=
  ((session.tabs.find? (·.id == session.activeTabId)).map (·.title)).getD session.id

/-- `session_inventory_for_session`. -/
def sessionInventoryForSession (session : Session) : SessionInventorySummary where
  activeSessionId := session.id
  sessions := [{ sessionId := session.id, title := sessionTitle session }]

variable {σ η : Type} (engine : TerminalEngine σ) (host : ProcessHost η)

/-- `serve_control_command_with_session_actor`. -/
def serveControlCommand (stream : ClientStream) (command : ControlCommandSummary) (daemon : Daemon σ η) :
    Except ServeError ControlCommandOutcome × ClientStream × Daemon σ η :=
  if command.kind = .sessionList then
    let (written, stream) := stream.write (.sessionInventory (sessionInventoryForSession daemon.session))
    (written.map fun _ => .continue, stream, daemon)
  else
    match daemon.applyControlCommandWithSessionActor engine (some host) command with
    | (.ok outcome, daemon) =>
      let (written, stream) :=
        stream.write (.workspace (daemon.session.workspaceTreeFrame "local-client" 1))
      (written.map fun _ => outcome, stream, daemon)
    | (.error error, daemon) =>
      let (written, stream) :=
        stream.writeProtocolError error.code error.message error.paneId command.commandSeq
      (written.map fun _ => .continue, stream, daemon)

/-! ### Health probes -/

/-- `presence_target_pane_id`. -/
def presenceTargetPaneId (session : Session) (presence : PresenceSummary) : Option String :=
  match presence.focusedPaneId with
  | none => session.activePaneId
  | some targetId =>
    if (session.surfaceVersion targetId).isSome then some targetId
    else
      ((session.tabs.find? (·.id == targetId)).filter fun tab =>
        (session.surfaceVersion tab.activePaneId).isSome).map (·.activePaneId)

/-- `host_error_pane_id`. -/
def hostErrorPaneId : HostError → String
  | .unsupportedHostKind hostId _ => hostId
  | .unsupportedOperation paneId _ => paneId
  | .alreadyRunning paneId => paneId
  | .notRunning paneId => paneId
  | .io paneId _ _ => paneId

/-- `serve_health_probe_with_session_actor`. -/
def serveHealthProbe (stream : ClientStream) (probe : PresenceSummary) (daemon : Daemon σ η)
    (reads rounds : Nat) : Except ServeError Unit × ClientStream × Daemon σ η :=
  match presenceTargetPaneId daemon.session probe with
  | none =>
    let (written, stream) := stream.writeTargetNotFoundError daemon.session probe.focusedPaneId
    (written, stream, daemon)
  | some paneId =>
    match daemon.pollPanesUntilQuiet engine host daemon.session.leafPaneIds 0 reads rounds with
    | (.error error, daemon) =>
      let (written, stream) := stream.writeProtocolErrorWithRetryability .unknown error.message true
        (some (hostErrorPaneId error)) 0
      (written, stream, daemon)
    | (.ok _, daemon) =>
      match host.checkPane daemon.host paneId with
      | (.error error, state) =>
        let (written, stream) := stream.writeProtocolErrorWithRetryability .unknown error.message true
          (some paneId) 0
        (written, stream, { daemon with host := state })
      | (.ok _, state) =>
        let (written, stream) := stream.write (.presence {
          actorId := "nmuxd", userId := daemon.session.id, displayName := "nmuxd"
          mode := .readOnly, kind := .heartbeat, focusedPaneId := some paneId })
        (written, stream, { daemon with host := state })

/-! ### Attached clients -/

/-- The frames of `write_attach_handshake`. -/
def attachHandshakeFrames (session : Session) (request : AttachRequest) (paneId : String) :
    List ServerFrame :=
  let response := request.surfaceResponse session paneId
  [.workspace (session.workspaceTreeFrame "local-client" 1),
    .presence (presenceUpdate (request.actorForPane paneId)),
    .attachStatus (attachStatus session paneId (attachSurfaceState response))] ++
  ((response.bind fun response =>
    LiveAttachedClient.surfaceResponseFrame session paneId response 4).map .surface).toList

/-- `write_attach_handshake`: the target may make another tab the active one. -/
def writeAttachHandshake (stream : ClientStream) (request : AttachRequest) (session : Session) :
    Except ServeError (Option (String × Actor)) × ClientStream × Session :=
  match request.targetPaneId session with
  | (session, none) =>
    let (written, stream) := stream.writeTargetNotFoundError session request.focusedPaneId
    (written.map fun _ => none, stream, session)
  | (session, some paneId) =>
    let (written, stream) := stream.writeAll (attachHandshakeFrames session request paneId)
    (written.map fun _ => some (paneId, request.actorForPane paneId), stream, session)

end Nmux.Live

namespace Nmux.Daemon

variable {σ η : Type} (engine : TerminalEngine σ) (host : ProcessHost η)

/-- The session written to directly. -/
def setSession (daemon : Daemon σ η) (session : Session) : Daemon σ η :=
  { daemon with actor := { daemon.actor with core := { daemon.actor.core with session } } }

/-- `read_available_pane_output`, for as many reads as the host has output for. -/
def readAvailablePaneOutput (paneId : String) :
    Nat → Daemon σ η → List UInt8 → Except HostError (List UInt8) × Daemon σ η
  | 0, daemon, pumped => (.ok pumped, daemon)
  | reads + 1, daemon, pumped =>
    match daemon.tryReadOutput host paneId with
    | (.error error, daemon) => (.error error, daemon)
    | (.ok [], daemon) => (.ok pumped, daemon)
    | (.ok chunk, daemon) => readAvailablePaneOutput paneId reads daemon (pumped ++ chunk)

/-- `apply_pumped_pane_output`: no event is accepted. -/
def applyPumpedPaneOutput (daemon : Daemon σ η) (paneId : String) (pumped : List UInt8) :
    Daemon σ η × Bool :=
  if pumped.isEmpty then (daemon, false)
  else
    let (session, state, changed) := daemon.session.applyPaneOutputWithEngine engine paneId pumped
      (daemon.actor.core.terminalEngines paneId)
    ((daemon.setSession session).setEngine paneId state, changed)

/-- `poll_pane_output_with_host_and_engines`. -/
def pollPaneOutputUnrecorded (daemon : Daemon σ η) (paneId : String) (reads : Nat) :
    Except HostError Bool × Daemon σ η :=
  match daemon.readAvailablePaneOutput host paneId reads [] with
  | (.error error, daemon) => (.error error, daemon)
  | (.ok pumped, daemon) =>
    let (daemon, changed) := daemon.applyPumpedPaneOutput engine paneId pumped
    match daemon.forwardPtyWrites engine host paneId with
    | (.error error, daemon) => (.error error, daemon)
    | (.ok wrote, daemon) => (.ok (changed || wrote), daemon)

end Nmux.Daemon

namespace Nmux.Live

variable {σ η : Type} (engine : TerminalEngine σ) (host : ProcessHost η)

/-- Input up to the write of `process_one_shot_input`: whether the client is served on. -/
def forwardOneShotInput (stream : ClientStream) (daemon : Daemon σ η) (input : InputSummary) :
    Except ServeError Bool × ClientStream × Daemon σ η :=
  let refused (answer : Except ServeError Unit × ClientStream) (daemon : Daemon σ η) :=
    (answer.1.map fun _ => false, answer.2, daemon)
  if (daemon.session.surfaceVersion input.paneId).isNone then
    refused (stream.writePaneNotFoundError input.paneId input.inputSeq) daemon
  else
    match input.forwardingRejection daemon.session with
    | some rejection =>
      refused (stream.writeProtocolError .permissionDenied rejection.message (some input.paneId)
        input.inputSeq) daemon
    | none =>
      let encoded := input.forwardedBytes engine daemon.session
        (daemon.actor.core.terminalEngines input.paneId)
      let daemon := daemon.setEngine input.paneId encoded.2
      match encoded.1 with
      | .error message =>
        refused (stream.writeProtocolError .unknown message (some input.paneId) input.inputSeq) daemon
      | .ok bytes =>
        match daemon.writeInput host input.paneId bytes with
        | (.ok _, daemon) => (.ok true, stream, daemon)
        | (.error error, daemon) =>
          if inputWriteTargetExited error input.paneId then (.ok false, stream, daemon)
          else
            refused (stream.writeProtocolError .unknown ("input forwarding failed: " ++ error.message)
              (some input.paneId) input.inputSeq) daemon

/-- `process_one_shot_input`: what is written, then a poll of the pane. -/
def processOneShotInput (stream : ClientStream) (daemon : Daemon σ η) (input : InputSummary)
    (reads : Nat) : Except ServeError Bool × ClientStream × Daemon σ η :=
  match forwardOneShotInput engine host stream daemon input with
  | (.error error, stream, daemon) => (.error error, stream, daemon)
  | (.ok false, stream, daemon) => (.ok false, stream, daemon)
  | (.ok true, stream, daemon) =>
    match daemon.pollPaneOutputUnrecorded engine host input.paneId reads with
    | (.error error, daemon) =>
      let (written, stream) := stream.writeHostOutputError input.paneId error
      (written.map fun _ => false, stream, daemon)
    | (.ok _, daemon) => (.ok true, stream, daemon)

/-- The loop of `serve_attached_client`, for what the reads come to; a stream with no more to read is
closed. -/
def serveAttachedFrames (actor : Actor) (reads : Nat) :
    List (Except ServeError AttachedClientRead) → ClientStream → Daemon σ η →
      Except ServeError Unit × ClientStream × Daemon σ η
  | [], stream, daemon => (.ok (), stream, daemon)
  | .error error :: _, stream, daemon => (.error error, stream, daemon)
  | .ok .noFrame :: _, stream, daemon => (.ok (), stream, daemon)
  | .ok .closed :: _, stream, daemon => (.ok (), stream, daemon)
  | .ok (.frame (.input input)) :: rest, stream, daemon =>
    if !Session.inputAllowed actor then
      let (written, stream) := stream.writeProtocolError .permissionDenied
        "input rejected: attach is read-only" (some input.paneId) input.inputSeq
      (written, stream, daemon)
    else
      match processOneShotInput engine host stream daemon input reads with
      | (.error error, stream, daemon) => (.error error, stream, daemon)
      | (.ok false, stream, daemon) => (.ok (), stream, daemon)
      | (.ok true, stream, daemon) => serveAttachedFrames actor reads rest stream daemon
  | .ok (.frame (.scrollback fetch)) :: rest, stream, daemon =>
    if scrollbackFetchStale daemon.session fetch then
      match stream.writeProtocolError .staleVersion ("stale scrollback version for " ++ fetch.paneId ++
          ": client=" ++ toString fetch.knownScrollbackVersion ++ " server=" ++
          toString ((daemon.session.scrollbackVersion fetch.paneId).getD 0)) (some fetch.paneId) 0 with
      | (.error error, stream) => (.error error, stream, daemon)
      | (.ok _, stream) => serveAttachedFrames actor reads rest stream daemon
    else if fetch.startLine = 0 || fetch.lineCount = 0 || (daemon.session.pane fetch.paneId).isNone then
      let (written, stream) := stream.writePaneNotFoundError fetch.paneId 0
      (written, stream, daemon)
    else
      match stream.write (.scrollback fetch) with
      | (.error error, stream) => (.error error, stream, daemon)
      | (.ok _, stream) => serveAttachedFrames actor reads rest stream daemon

/-- `serve_attached_client`. -/
def serveAttachedClient (stream : ClientStream) (request : AttachRequest) (daemon : Daemon σ η)
    (reads : Nat) (frames : List (Except ServeError AttachedClientRead)) :
    Except ServeError Unit × ClientStream × Daemon σ η :=
  match writeAttachHandshake stream request daemon.session with
  | (.error error, stream, session) => (.error error, stream, daemon.setSession session)
  | (.ok none, stream, session) => (.ok (), stream, daemon.setSession session)
  | (.ok (some (_, actor)), stream, session) =>
    serveAttachedFrames engine host actor reads frames stream (daemon.setSession session)

/-- The attach of `serve_stream_impl_with_session_actor_initial`, for a client that is not live. -/
def serveAttach (stream : ClientStream) (targetSessionId : Option String) (request : AttachRequest)
    (daemon : Daemon σ η) (connection : Connection) : Except ServeError Unit × ClientStream × Daemon σ η :=
  match attachTargetSessionMismatch daemon.session targetSessionId with
  | some target =>
    let (written, stream) := stream.writeProtocolError .sessionNotFound ("session not found: " ++ target)
      none 0
    (written, stream, daemon)
  | none =>
    match request.targetPaneId daemon.session with
    | (session, none) =>
      let (written, stream) := stream.writeTargetNotFoundError session request.focusedPaneId
      (written, stream, daemon.setSession session)
    | (session, some paneId) =>
      match (daemon.setSession session).pollPanesOnce engine host [paneId] [paneId] 0
          connection.reads with
      | (.error error, daemon) =>
        let (written, stream) := stream.writeHostOutputError paneId error
        (written, stream, daemon)
      | (.ok _, daemon) =>
        serveAttachedClient engine host stream request daemon connection.reads connection.frames

/-- `serve_stream_impl_with_session_actor_initial`. -/
def serveStreamInitial (stream : ClientStream) (initial : ClientInitialFrame) (daemon : Daemon σ η)
    (connection : Connection) : Except ServeError Unit × ClientStream × Daemon σ η :=
  match initial with
  | .attach targetSessionId request =>
    serveAttach engine host stream targetSessionId request daemon connection
  | .control command =>
    match serveControlCommand engine host stream command daemon with
    | (.error error, stream, daemon) => (.error error, stream, daemon)
    | (.ok .continue, stream, daemon) => (.ok (), stream, daemon)
    | (.ok .shutdown, stream, daemon) => (.error .sessionShutdown, stream, daemon)
  | .healthProbe probe =>
    serveHealthProbe engine host stream probe daemon connection.reads connection.rounds

end Nmux.Live

/-! ### What a connection does to the daemon -/

namespace Nmux.Daemon

variable {σ η : Type}

/-- The server gets from one daemon to the other by events and host calls, and by two writes to the
session that no event stands for: a tab is made active, and a pane takes output. -/
inductive Touches (engine : TerminalEngine σ) (okTab : Session → String → Prop)
    (okOutput : String → List UInt8 → Prop) : Daemon σ η → Daemon σ η → Prop
  | refl (daemon : Daemon σ η) : Touches engine okTab okOutput daemon daemon
  | serves {daemon reached last : Daemon σ η} (before : Touches engine okTab okOutput daemon reached)
      (after : Serves engine (fun _ _ => True) (fun _ => True) reached last) :
      Touches engine okTab okOutput daemon last
  | tab {daemon reached : Daemon σ η} (tabId : String)
      (before : Touches engine okTab okOutput daemon reached) (ok : okTab reached.session tabId) :
      Touches engine okTab okOutput daemon
        (reached.setSession (reached.session.switchTab tabId).1)
  | output {daemon reached : Daemon σ η} (paneId : String) (bytes : List UInt8)
      (before : Touches engine okTab okOutput daemon reached) (ok : okOutput paneId bytes) :
      Touches engine okTab okOutput daemon (reached.applyPumpedPaneOutput engine paneId bytes).1

namespace Touches

variable {engine : TerminalEngine σ} {okTab : Session → String → Prop}
  {okOutput : String → List UInt8 → Prop} {daemon middle reached : Daemon σ η}

theorem trans (first : Touches engine okTab okOutput daemon middle)
    (second : Touches engine okTab okOutput middle reached) :
    Touches engine okTab okOutput daemon reached := by
  induction second with
  | refl => exact first
  | serves _ after ih => exact ih.serves after
  | tab tabId _ ok ih => exact ih.tab tabId ok
  | output paneId bytes _ ok ih => exact ih.output paneId bytes ok

theorem ofServes (h : Serves engine (fun _ _ => True) (fun _ => True) daemon reached) :
    Touches engine okTab okOutput daemon reached := (Touches.refl daemon).serves h

theorem idle (h : Touches engine okTab okOutput daemon reached) (hidle : daemon.actor.Idle) :
    reached.actor.Idle := by
  induction h with
  | refl => exact hidle
  | serves _ after ih => exact after.idle ih
  | tab tabId _ _ ih => exact ih
  | output paneId bytes _ _ ih =>
    rw [applyPumpedPaneOutput]
    split
    · exact ih
    · exact ih

end Touches

end Nmux.Daemon

namespace Nmux.Live

/-- What input is turned into is the engine's doing, if the engine moves at all. -/
theorem InputSummary.forwardedBytes_moves {σ : Type} (engine : TerminalEngine σ) (input : InputSummary)
    (session : Session) (state : σ) :
    (input.forwardedBytes engine session state).2 = state ∨
      engine.Moves state (input.forwardedBytes engine session state).2 := by
  unfold forwardedBytes
  split
  · rename_i keyName _
    have hmoves : engine.Moves state _ := .key ⟨keyName, input.keyModifiers,
      session.paneApplicationKeypad input.paneId, session.paneApplicationCursor input.paneId⟩
    dsimp only
    split
    case h_1 heq => rw [heq] at hmoves; exact .inr hmoves
    case h_2 heq =>
      rw [heq] at hmoves
      refine .inr ?_
      split <;> split <;> exact hmoves
  · split
    · split
      · dsimp only
        refine .inr ?_
        split <;> exact .mouse _
      · exact .inl rfl
    · split <;> exact .inl rfl
end Nmux.Live

namespace Nmux.Daemon

variable {σ η : Type} {engine : TerminalEngine σ} {host : ProcessHost η}
  {okEvent : Session → SessionEvent → Prop} {okCall : HostCall η → Prop} {daemon : Daemon σ η}

@[simp] theorem setSession_session (daemon : Daemon σ η) (session : Session) :
    (daemon.setSession session).session = session := rfl

@[simp] theorem setSession_self (daemon : Daemon σ η) : daemon.setSession daemon.session = daemon := rfl

/-- An engine that encodes, or does nothing. -/
theorem setEngine_serves {paneId : String} {state : σ}
    (h : state = daemon.actor.core.terminalEngines paneId ∨
      engine.Moves (daemon.actor.core.terminalEngines paneId) state) :
    Serves engine okEvent okCall daemon (daemon.setEngine paneId state) := by
  rcases h with rfl | hmoves
  · rw [setEngine, Function.update_eq_self]
    exact .refl _
  · exact (Serves.refl daemon).engine paneId state hmoves

theorem writeInput_serves (host : ProcessHost η) (paneId : String) (bytes : List UInt8)
    (ok : WritesAllowed host okCall paneId daemon.session.leafPaneIds) :
    Serves engine okEvent okCall daemon (daemon.writeInput host paneId bytes).2 :=
  (Serves.refl daemon).called (ok _ _)

theorem readAvailablePaneOutput_serves (paneId : String) (reads : Nat) (pumped : List UInt8) :
    Serves engine okEvent (fun _ => True) daemon
      (readAvailablePaneOutput host paneId reads daemon pumped).2 := by
  induction reads generalizing daemon pumped with
  | zero => exact .refl _
  | succ reads ih =>
    have hread : Serves engine okEvent (fun _ => True) daemon (daemon.tryReadOutput host paneId).2 :=
      (Serves.refl daemon).called trivial
    unfold readAvailablePaneOutput
    split
    case h_1 error reached heq =>
      obtain rfl : _ = reached := congrArg Prod.snd heq
      exact hread
    case h_2 reached heq =>
      obtain rfl : _ = reached := congrArg Prod.snd heq
      exact hread
    case h_3 chunk reached _ heq =>
      obtain rfl : _ = reached := congrArg Prod.snd heq
      exact hread.trans (ih _)

/-- An unrecorded poll touches the session if it reads anything. -/
theorem pollPaneOutputUnrecorded_touches {okTab : Session → String → Prop}
    {okOutput : String → List UInt8 → Prop} (paneId : String) (reads : Nat)
    (ok : ∀ bytes, (daemon.readAvailablePaneOutput host paneId reads []).1 = .ok bytes → bytes ≠ [] →
      okOutput paneId bytes) :
    Touches engine okTab okOutput daemon (daemon.pollPaneOutputUnrecorded engine host paneId reads).2 := by
  have hread : Serves engine (fun _ _ => True) (fun _ => True) daemon
      (readAvailablePaneOutput host paneId reads daemon []).2 := readAvailablePaneOutput_serves _ _ _
  unfold pollPaneOutputUnrecorded
  split
  case h_1 error reached heq =>
    rw [heq] at hread
    exact .ofServes hread
  case h_2 pumped reached heq =>
    rw [heq] at hread ok
    have happlied : Touches engine okTab okOutput daemon
        (reached.applyPumpedPaneOutput engine paneId pumped).1 := by
      cases pumped with
      | nil => exact .ofServes hread
      | cons byte rest => exact (Touches.ofServes hread).output paneId _ (ok _ rfl (by simp))
    have hforward : Serves engine (fun _ _ => True) (fun _ => True)
        (reached.applyPumpedPaneOutput engine paneId pumped).1
        ((reached.applyPumpedPaneOutput engine paneId pumped).1.forwardPtyWrites engine host paneId).2 :=
      forwardPtyWrites_serves host fun _ _ => trivial
    dsimp only
    split
    case h_1 heq => rw [heq] at hforward; exact happlied.serves hforward
    case h_2 heq => rw [heq] at hforward; exact happlied.serves hforward

end Nmux.Daemon

namespace Nmux.Live

open Daemon (Serves Touches)

variable {σ η : Type} {engine : TerminalEngine σ} {host : ProcessHost η} {daemon : Daemon σ η}
  {okTab : Session → String → Prop} {okOutput : String → List UInt8 → Prop} {stream : ClientStream}

theorem serveControlCommand_serves (hidle : daemon.actor.Idle) (command : ControlCommandSummary) :
    Serves engine (fun _ _ => True) (fun _ => True) daemon
      (serveControlCommand engine host stream command daemon).2.2 := by
  have hcommand : Serves engine (fun _ _ => True) (fun _ => True) daemon
      (daemon.applyControlCommand engine host command).2 :=
    Daemon.applyControlCommand_serves hidle
      ⟨fun _ _ _ => trivial, fun _ _ _ => trivial, fun _ _ _ => trivial, fun _ _ => trivial,
        fun _ _ => trivial⟩
  rw [serveControlCommand]
  split
  · exact .refl _
  · split
    case h_1 heq => rw [Daemon.applyControlCommandWithSessionActor] at heq; rw [heq] at hcommand; exact hcommand
    case h_2 heq => rw [Daemon.applyControlCommandWithSessionActor] at heq; rw [heq] at hcommand; exact hcommand

theorem serveHealthProbe_serves {okEvent : Session → SessionEvent → Prop} (hidle : daemon.actor.Idle)
    (probe : PresenceSummary) (reads rounds : Nat)
    (ok : ∀ session paneId bytes, okEvent session (.paneOutput paneId bytes)) :
    Serves engine okEvent (fun _ => True) daemon
      (serveHealthProbe engine host stream probe daemon reads rounds).2.2 := by
  have hpoll : Serves engine okEvent (fun _ => True) daemon
      (daemon.pollPanesUntilQuiet engine host daemon.session.leafPaneIds 0 reads rounds).2 :=
    (Daemon.pollPanesUntilQuiet_serves hidle reads rounds _ (fun _ _ _ _ => ok _ _ _)
      (fun _ _ _ => trivial) fun _ _ _ _ => trivial).1
  rw [serveHealthProbe]
  split
  · exact .refl _
  · split
    case h_1 heq => rw [heq] at hpoll; exact hpoll
    case h_2 heq =>
      rw [heq] at hpoll
      split
      · exact hpoll.onHost _
      · exact hpoll.onHost _

/-- One-shot input is encoded and written; no event is accepted. -/
theorem forwardOneShotInput_serves (input : InputSummary) :
    Serves engine (fun _ _ => True) (fun _ => True) daemon
      (forwardOneShotInput engine host stream daemon input).2.2 := by
  unfold forwardOneShotInput
  dsimp only
  split
  · exact .refl _
  split
  · exact .refl _
  have hencoded : Serves engine (fun _ _ => True) (fun _ => True) daemon
      (daemon.setEngine input.paneId (input.forwardedBytes engine daemon.session
        (daemon.actor.core.terminalEngines input.paneId)).2) :=
    Daemon.setEngine_serves (input.forwardedBytes_moves engine _ _)
  split
  · exact hencoded
  case h_2 bytes _ =>
    have hwrite := hencoded.trans (Daemon.writeInput_serves host input.paneId bytes fun _ _ => trivial)
    split
    case h_1 reached heq =>
      obtain rfl : _ = reached := congrArg Prod.snd heq
      exact hwrite
    case h_2 error reached heq =>
      obtain rfl : _ = reached := congrArg Prod.snd heq
      split <;> exact hwrite


/-- What the input a client sends makes the polls read is allowed, as far as the loop gets. -/
def OutputsAllowed (engine : TerminalEngine σ) (host : ProcessHost η)
    (okOutput : String → List UInt8 → Prop) (actor : Actor) (reads : Nat) :
    List (Except ServeError AttachedClientRead) → ClientStream → Daemon σ η → Prop
  | .ok (.frame (.input input)) :: rest, stream, daemon => Session.inputAllowed actor = true →
    (∀ stream' daemon', forwardOneShotInput engine host stream daemon input = (.ok true, stream', daemon') →
      ∀ bytes, (daemon'.readAvailablePaneOutput host input.paneId reads []).1 = .ok bytes → bytes ≠ [] →
        okOutput input.paneId bytes) ∧
    ∀ stream' daemon', processOneShotInput engine host stream daemon input reads =
      (.ok true, stream', daemon') → OutputsAllowed engine host okOutput actor reads rest stream' daemon'
  | .ok (.frame (.scrollback _)) :: rest, _, daemon =>
    ∀ stream', OutputsAllowed engine host okOutput actor reads rest stream' daemon
  | _, _, _ => True

theorem OutputsAllowed.of_forall (hok : ∀ paneId bytes, okOutput paneId bytes) (actor : Actor)
    (reads : Nat) (frames : List (Except ServeError AttachedClientRead)) (stream : ClientStream)
    (daemon : Daemon σ η) : OutputsAllowed engine host okOutput actor reads frames stream daemon := by
  induction frames generalizing stream daemon with
  | nil => trivial
  | cons read rest ih =>
    match read with
    | .error _ => trivial
    | .ok .noFrame => trivial
    | .ok .closed => trivial
    | .ok (.frame (.input _)) =>
      exact fun _ => ⟨fun _ _ _ _ _ _ => hok _ _, fun stream' daemon' _ => ih stream' daemon'⟩
    | .ok (.frame (.scrollback _)) => exact fun stream' => ih stream' daemon

theorem processOneShotInput_touches (input : InputSummary) (reads : Nat)
    (ok : ∀ stream' daemon', forwardOneShotInput engine host stream daemon input =
      (.ok true, stream', daemon') → ∀ bytes,
      (daemon'.readAvailablePaneOutput host input.paneId reads []).1 = .ok bytes → bytes ≠ [] →
        okOutput input.paneId bytes) :
    Touches engine okTab okOutput daemon
      (processOneShotInput engine host stream daemon input reads).2.2 := by
  have hforward : Serves engine (fun _ _ => True) (fun _ => True) daemon
      (forwardOneShotInput engine host stream daemon input).2.2 := forwardOneShotInput_serves input
  unfold processOneShotInput
  split
  case h_1 heq => rw [heq] at hforward; exact .ofServes hforward
  case h_2 heq => rw [heq] at hforward; exact .ofServes hforward
  case h_3 written reached heq =>
    rw [heq] at hforward
    have hpoll : Touches engine okTab okOutput reached
        (reached.pollPaneOutputUnrecorded engine host input.paneId reads).2 :=
      Daemon.pollPaneOutputUnrecorded_touches _ _ (ok _ _ heq)
    split
    case h_1 heq => rw [heq] at hpoll; exact (Touches.ofServes hforward).trans hpoll
    case h_2 heq => rw [heq] at hpoll; exact (Touches.ofServes hforward).trans hpoll

theorem serveAttachedFrames_touches (actor : Actor) (reads : Nat)
    (frames : List (Except ServeError AttachedClientRead))
    (ok : OutputsAllowed engine host okOutput actor reads frames stream daemon) :
    Touches engine okTab okOutput daemon
      (serveAttachedFrames engine host actor reads frames stream daemon).2.2 := by
  induction frames generalizing stream daemon with
  | nil => exact .refl _
  | cons read rest ih =>
    match read with
    | .error _ => exact .refl _
    | .ok .noFrame => exact .refl _
    | .ok .closed => exact .refl _
    | .ok (.frame (.input input)) =>
      unfold serveAttachedFrames
      split
      · exact .refl _
      case isFalse hallowed =>
        obtain ⟨houtput, hrest⟩ := ok (by simpa using hallowed)
        have hinput : Touches engine okTab okOutput daemon
            (processOneShotInput engine host stream daemon input reads).2.2 :=
          processOneShotInput_touches input reads houtput
        split
        case h_1 heq => rw [heq] at hinput; exact hinput
        case h_2 heq => rw [heq] at hinput; exact hinput
        case h_3 heq => rw [heq] at hinput; exact hinput.trans (ih (hrest _ _ heq))
    | .ok (.frame (.scrollback fetch)) =>
      unfold serveAttachedFrames
      split
      · split
        · exact .refl _
        · exact ih (ok _)
      · split
        · exact .refl _
        · split
          · exact .refl _
          · exact ih (ok _)

/-- The target of an attach leaves the session alone, or makes a tab the active one. -/
theorem targetPaneId_session (request : AttachRequest) (session : Session) :
    (request.targetPaneId session).1 = session ∨
      ∃ tabId, (request.targetPaneId session).1 = (session.switchTab tabId).1 := by
  unfold AttachRequest.targetPaneId
  split
  · exact .inl rfl
  case h_2 targetId _ =>
    split
    · exact .inl rfl
    · split
      · exact .inl rfl
      · dsimp only
        split
        · exact .inr ⟨targetId, rfl⟩
        · exact .inl rfl

/-- An attach may switch tabs if it does. -/
def AttachAllowed (okTab : Session → String → Prop) (request : AttachRequest) (session : Session) : Prop :=
  (request.targetPaneId session).1 = session ∨ ∀ session tabId, okTab session tabId

theorem attach_touches {request : AttachRequest} (ok : AttachAllowed okTab request daemon.session) :
    Touches engine okTab okOutput daemon
      (daemon.setSession (request.targetPaneId daemon.session).1) := by
  rcases ok with hsame | hall
  · rw [hsame]
    exact .refl _
  · rcases targetPaneId_session request daemon.session with hsame | ⟨tabId, hswitch⟩
    · rw [hsame]
      exact .refl _
    · rw [hswitch]
      exact (Touches.refl daemon).tab tabId (hall _ _)

/-- What `write_attach_handshake` leaves is the target's session, whatever becomes of the writes. -/
theorem writeAttachHandshake_session (request : AttachRequest) (session : Session) :
    (writeAttachHandshake stream request session).2.2 = (request.targetPaneId session).1 := by
  unfold writeAttachHandshake
  split
  case h_1 heq => rw [heq]
  case h_2 heq => rw [heq]

theorem serveAttachedClient_touches {request : AttachRequest} (reads : Nat)
    (frames : List (Except ServeError AttachedClientRead))
    (okAttach : AttachAllowed okTab request daemon.session)
    (okFrames : ∀ actor stream, OutputsAllowed engine host okOutput actor reads frames stream
      (daemon.setSession (request.targetPaneId daemon.session).1)) :
    Touches engine okTab okOutput daemon
      (serveAttachedClient engine host stream request daemon reads frames).2.2 := by
  have hattach : Touches engine okTab okOutput daemon
      (daemon.setSession (request.targetPaneId daemon.session).1) := attach_touches okAttach
  have hsession : (writeAttachHandshake stream request daemon.session).2.2 = _ :=
    writeAttachHandshake_session request daemon.session
  unfold serveAttachedClient
  rcases hhandshake : writeAttachHandshake stream request daemon.session with ⟨result, written, session⟩
  obtain rfl : session = (request.targetPaneId daemon.session).1 := by rwa [hhandshake] at hsession
  rcases result with error | _ | ⟨_, actor⟩
  · exact hattach
  · exact hattach
  · exact hattach.trans (serveAttachedFrames_touches actor reads frames (okFrames actor written))

/-- What a first frame that is served may do: an attach may switch tabs if it does, before its pane is
polled and after, and the input that follows may make the polls read. -/
def InitialAllowed (engine : TerminalEngine σ) (host : ProcessHost η)
    (okTab : Session → String → Prop) (okOutput : String → List UInt8 → Prop) (daemon : Daemon σ η)
    (connection : Connection) : ClientInitialFrame → Prop
  | .attach _ request =>
    AttachAllowed okTab request daemon.session ∧
    ∀ paneId, (request.targetPaneId daemon.session).2 = some paneId → ∀ reached,
      ((daemon.setSession (request.targetPaneId daemon.session).1).pollPanesOnce engine host [paneId]
        [paneId] 0 connection.reads).2 = reached →
      AttachAllowed okTab request reached.session ∧
      ∀ actor stream, OutputsAllowed engine host okOutput actor connection.reads connection.frames stream
        (reached.setSession (request.targetPaneId reached.session).1)
  | _ => True

theorem InitialAllowed.of_forall (htab : ∀ session tabId, okTab session tabId)
    (houtput : ∀ paneId bytes, okOutput paneId bytes) (connection : Connection)
    (initial : ClientInitialFrame) :
    InitialAllowed engine host okTab okOutput daemon connection initial := by
  cases initial with
  | attach targetSessionId request =>
    exact ⟨.inr htab, fun _ _ _ _ => ⟨.inr htab, fun _ _ => .of_forall houtput _ _ _ _ _⟩⟩
  | control => trivial
  | healthProbe => trivial

/-- **A connection** does to the daemon only what events, host calls and the two direct writes do. -/
theorem serveStreamInitial_touches (hidle : daemon.actor.Idle) (initial : ClientInitialFrame)
    (connection : Connection)
    (ok : InitialAllowed engine host okTab okOutput daemon connection initial) :
    Touches engine okTab okOutput daemon
      (serveStreamInitial engine host stream initial daemon connection).2.2 := by
  cases initial with
  | attach targetSessionId request =>
    obtain ⟨okFirst, okRest⟩ := ok
    have hattach : Touches engine okTab okOutput daemon
        (daemon.setSession (request.targetPaneId daemon.session).1) := attach_touches okFirst
    show Touches engine okTab okOutput daemon
      (serveAttach engine host stream targetSessionId request daemon connection).2.2
    unfold serveAttach
    split
    · exact .refl _
    rcases htarget : request.targetPaneId daemon.session with ⟨session, target⟩
    rw [htarget] at hattach okRest
    cases target with
    | none => exact hattach
    | some paneId =>
      have hidle' : (daemon.setSession session).actor.Idle := hidle
      have hpoll : Serves engine (fun _ _ => True) (fun _ => True) (daemon.setSession session)
          ((daemon.setSession session).pollPanesOnce engine host [paneId] [paneId] 0
            connection.reads).2 :=
        (Daemon.pollPanes_serves hidle' _ _ (fun _ _ _ _ => trivial) (fun _ _ _ => trivial)
          fun _ _ _ _ => trivial).1
      obtain ⟨okAgain, okFrames⟩ := okRest paneId rfl _ rfl
      dsimp only at okAgain okFrames ⊢
      rcases hresult : (daemon.setSession session).pollPanesOnce engine host [paneId] [paneId] 0
        connection.reads with ⟨result, reached⟩
      rw [hresult] at hpoll okAgain okFrames
      cases result with
      | error error => exact hattach.serves hpoll
      | ok changed =>
        exact (hattach.serves hpoll).trans
          (serveAttachedClient_touches connection.reads connection.frames okAgain okFrames)
  | control command =>
    have hcommand : Serves engine (fun _ _ => True) (fun _ => True) daemon
        (serveControlCommand engine host stream command daemon).2.2 :=
      serveControlCommand_serves hidle command
    unfold serveStreamInitial
    dsimp only
    rcases hresult : serveControlCommand engine host stream command daemon with ⟨result, written, reached⟩
    rw [hresult] at hcommand
    rcases result with error | _ | _ <;> exact .ofServes hcommand
  | healthProbe probe => exact .ofServes (serveHealthProbe_serves hidle probe _ _ fun _ _ _ => trivial)

end Nmux.Live
