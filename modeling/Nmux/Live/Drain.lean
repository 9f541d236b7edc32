import Nmux.Live.Input

/-! What the live loop does with the frames of one client: resize intents, input, scrollback fetches and
pings, in the order they came. A viewport is remembered with the client and applied later, in the
smallest size the clients agree on; any other resize is made at once. -/
namespace Nmux.Live

open Protocol (ResizePolicy ResizeReason)
open Lib (OrderedMap)

structure ResizeIntentSummary where
  paneId : String
  actorId : String
  cols : UInt32
  rows : UInt32
  reason : ResizeReason
deriving DecidableEq, Repr

inductive LiveClientFrame where
  | resize (resize : ResizeIntentSummary)
  | scrollback (fetch : ScrollbackFetchSummary)
  | input (input : InputSummary)
  | ping (ping : PingSummary)
deriving DecidableEq, Repr

inductive LiveClientRead where
  | frame (frame : LiveClientFrame)
  | closed
deriving DecidableEq, Repr

/-- `resize_intent_allowed`. -/
def resizeIntentAllowed (policy : ResizePolicy) (reason : ResizeReason) : Bool :=
  if policy = .manual then reason == .userCommand else true

/-! ### Viewports -/

/-- The smaller of two sizes, each way. -/
def smallerSize (size other : UInt32 × UInt32) : UInt32 × UInt32 :=
  (min size.1 other.1, min size.2 other.2)

/-- The viewports of a pane that clients who may write have asked for. -/
def readWriteFrontendResizes (clients : List LiveAttachedClient) (paneId : String) :
    List (UInt32 × UInt32) :=
  (clients.filter fun client => Session.inputAllowed client.actor).filterMap
    fun client => client.frontendResizeConstraints.get? paneId

/-- `smallest_read_write_frontend_resize`. -/
def smallestReadWriteFrontendResize (clients : List LiveAttachedClient) (paneId : String) :
    Option (UInt32 × UInt32) :=
  match readWriteFrontendResizes clients paneId with
  | [] => none
  | size :: rest => some (rest.foldl smallerSize size)

section
variable {σ η : Type} (engine : TerminalEngine σ) (host : ProcessHost η)

/-- `apply_concurrent_frontend_resize_with_session_actor`. -/
def applyConcurrentFrontendResize (clients : List LiveAttachedClient) (daemon : Daemon σ η)
    (paneId : String) (sessionMonoMs : UInt64) : Except HostError Bool × Daemon σ η :=
  match smallestReadWriteFrontendResize clients paneId with
  | none => (.ok false, daemon)
  | some (cols, rows) =>
    if daemon.session.paneSize paneId = some (cols, rows) then (.ok false, daemon)
    else
      match daemon.resizePane host paneId cols rows with
      | (.error error, daemon) => (.error error, daemon)
      | (.ok _, daemon) =>
        daemon.commitPaneResize engine host (paneId ++ ":frontend-resize") paneId cols rows sessionMonoMs

/-- The viewports of several panes, applied in order up to the first that fails. -/
def applyFrontendResizes (clients : List LiveAttachedClient) (sessionMonoMs : UInt64) :
    Daemon σ η → List String → Except HostError Bool × Daemon σ η
  | daemon, [] => (.ok false, daemon)
  | daemon, paneId :: rest =>
    match applyConcurrentFrontendResize engine host clients daemon paneId sessionMonoMs with
    | (.error error, daemon) => (.error error, daemon)
    | (.ok changed, daemon) =>
      match applyFrontendResizes clients sessionMonoMs daemon rest with
      | (.error error, daemon) => (.error error, daemon)
      | (.ok more, daemon) => (.ok (changed || more), daemon)

/-! ### Frames -/

/-- What a drain has seen so far. -/
structure ClientDrain where
  hadInput : Bool
  inputPaneIds : List String
  frontendResizePaneIds : List String
  changedWorkspace : Bool

def ClientDrain.none : ClientDrain where
  hadInput := false
  inputPaneIds := []
  frontendResizePaneIds := []
  changedWorkspace := false

inductive ClientDrainStatus where
  | open (drain : ClientDrain) (closeAfterDrain : Bool)
  | closed

/-- What one frame comes to: the drain goes on, is over, or fails. -/
inductive FrameResult where
  | next (drain : ClientDrain)
  | closed
  | failed (error : ServeError)

/-- The drain goes on once an answer is taken, or is over with it. -/
def answered (after : FrameResult) (answer : Except ServeError Unit × LiveAttachedClient)
    (daemon : Daemon σ η) : FrameResult × LiveAttachedClient × Daemon σ η :=
  match answer with
  | (.ok _, client) => (after, client, daemon)
  | (.error error, client) => (.failed error, client, daemon)

/-- A resize intent. -/
def drainResize (client : LiveAttachedClient) (daemon : Daemon σ η) (drain : ClientDrain)
    (resize : ResizeIntentSummary) (nowMonoMs : UInt64) :
    FrameResult × LiveAttachedClient × Daemon σ η :=
  let client := { client with lastSeenMonoMs := nowMonoMs }
  if !Session.inputAllowed client.actor then
    answered .closed (client.queueProtocolError .permissionDenied "resize rejected: actor is read-only"
      (some resize.paneId) 0) daemon
  else if (daemon.session.surfaceVersion resize.paneId).isNone then
    answered .closed (client.queuePaneNotFoundError resize.paneId 0) daemon
  else if !resizeIntentAllowed ((daemon.session.paneResizePolicy resize.paneId).getD .fixed)
      resize.reason then
    (.next drain, client, daemon)
  else if resize.reason = .frontendViewport then
    (.next { drain with frontendResizePaneIds := drain.frontendResizePaneIds ++ [resize.paneId] },
      { client with frontendResizeConstraints :=
          client.frontendResizeConstraints.insert resize.paneId (resize.cols, resize.rows) }, daemon)
  else
    match daemon.resizePane host resize.paneId resize.cols resize.rows with
    | (.error error, daemon) =>
      answered .closed (client.queueProtocolError .unknown ("resize failed: " ++ error.message)
        (some resize.paneId) 0) daemon
    | (.ok _, daemon) =>
      match daemon.commitPaneResize engine host client.actor.id resize.paneId resize.cols resize.rows
          nowMonoMs with
      | (.error error, daemon) => (.failed (.host error), client, daemon)
      | (.ok changed, daemon) =>
        (.next { drain with changedWorkspace := drain.changedWorkspace || changed }, client, daemon)

/-- `scrollback_fetch_error_code`: whether the client's version is stale. -/
def scrollbackFetchStale (session : Session) (fetch : ScrollbackFetchSummary) : Bool :=
  (session.scrollbackVersion fetch.paneId).any fun current =>
    fetch.knownScrollbackVersion != 0 && fetch.knownScrollbackVersion != current

/-- A scrollback fetch. A stale one is answered with an error and the client may try again. -/
def drainScrollback (client : LiveAttachedClient) (daemon : Daemon σ η) (drain : ClientDrain)
    (fetch : ScrollbackFetchSummary) (nowMonoMs : UInt64) :
    FrameResult × LiveAttachedClient × Daemon σ η :=
  let client := { client with lastSeenMonoMs := nowMonoMs }
  if scrollbackFetchStale daemon.session fetch then
    answered (.next drain) (client.queueProtocolError .staleVersion
      ("stale scrollback version for " ++ fetch.paneId ++ ": client=" ++
        toString fetch.knownScrollbackVersion ++ " server=" ++
        toString ((daemon.session.scrollbackVersion fetch.paneId).getD 0)) (some fetch.paneId) 0) daemon
  else if fetch.startLine = 0 || fetch.lineCount = 0 || (daemon.session.pane fetch.paneId).isNone then
    answered .closed (client.queuePaneNotFoundError fetch.paneId 0) daemon
  else answered (.next drain) (client.queueReliableFrame (.scrollback fetch)) daemon

/-- Input. -/
def drainInput (client : LiveAttachedClient) (daemon : Daemon σ η) (drain : ClientDrain)
    (input : InputSummary) (nowMonoMs : UInt64) : FrameResult × LiveAttachedClient × Daemon σ η :=
  let client := { client with lastSeenMonoMs := nowMonoMs, lastInputMonoMs := some nowMonoMs }
  if !Session.inputAllowed client.actor then
    answered .closed (client.queueProtocolError .permissionDenied "input rejected: actor is read-only"
      (some input.paneId) input.inputSeq) daemon
  else
    match forwardLiveInput engine host client daemon input nowMonoMs with
    | (.error error, client, daemon) => (.failed error, client, daemon)
    | (.ok _, client, daemon) =>
      (.next { drain with hadInput := true, inputPaneIds := drain.inputPaneIds ++ [input.paneId] },
        client, daemon)

def drainFrame (client : LiveAttachedClient) (daemon : Daemon σ η) (drain : ClientDrain)
    (nowMonoMs : UInt64) : LiveClientFrame → FrameResult × LiveAttachedClient × Daemon σ η
  | .resize resize => drainResize engine host client daemon drain resize nowMonoMs
  | .scrollback fetch => drainScrollback client daemon drain fetch nowMonoMs
  | .input input => drainInput engine host client daemon drain input nowMonoMs
  | .ping ping =>
    answered (.next drain)
      ({ client with lastSeenMonoMs := nowMonoMs }.queueReliableFrame (.pong ping)) daemon

/-- `drain_live_client_frames_with_session_actor`, for what the client's reads come to: frames, the
end, or an error of a legacy stream. No more reads means no frame. -/
def drainLiveClientFrames (nowMonoMs : UInt64) : LiveAttachedClient → Daemon σ η → ClientDrain →
    List (Except ServeError LiveClientRead) →
    Except ServeError ClientDrainStatus × LiveAttachedClient × Daemon σ η
  | client, daemon, drain, [] => (.ok (.open drain false), client, daemon)
  | client, daemon, _, .error error :: _ => (.error error, client, daemon)
  | client, daemon, drain, .ok .closed :: _ => (.ok (.open drain true), client, daemon)
  | client, daemon, drain, .ok (.frame frame) :: rest =>
    match drainFrame engine host client daemon drain nowMonoMs frame with
    | (.failed error, client, daemon) => (.error error, client, daemon)
    | (.closed, client, daemon) => (.ok .closed, client, daemon)
    | (.next drain, client, daemon) => drainLiveClientFrames nowMonoMs client daemon drain rest

/-! ### What sizes the panes -/

/-- What a resize of a pane does to the daemon: the host is called, and the size is committed if the
host took it. -/
inductive Resizes (daemon : Daemon σ η) (paneId : String) (cols rows : UInt32) : Daemon σ η → Prop
  | refused (error : HostError) (refused : (daemon.resizePane host paneId cols rows).1 = .error error) :
      Resizes daemon paneId cols rows (daemon.resizePane host paneId cols rows).2
  | committed (sourceId : String) (sessionMonoMs : UInt64)
      (taken : (daemon.resizePane host paneId cols rows).1 = .ok ()) :
      Resizes daemon paneId cols rows
        ((daemon.resizePane host paneId cols rows).2.commitPaneResize engine host sourceId paneId cols rows
          sessionMonoMs).2

variable {engine host}

/-- A viewport resizes its pane, unless there is none or the pane has that size. -/
theorem applyConcurrentFrontendResize_daemon (clients : List LiveAttachedClient) (daemon : Daemon σ η)
    (paneId : String) (sessionMonoMs : UInt64) :
    (applyConcurrentFrontendResize engine host clients daemon paneId sessionMonoMs).2 = daemon ∨
      ∃ cols rows, smallestReadWriteFrontendResize clients paneId = some (cols, rows) ∧
        daemon.session.paneSize paneId ≠ some (cols, rows) ∧
        Resizes engine host daemon paneId cols rows
          (applyConcurrentFrontendResize engine host clients daemon paneId sessionMonoMs).2 := by
  unfold applyConcurrentFrontendResize
  split
  · exact .inl rfl
  case h_2 cols rows hsmallest =>
    split
    · exact .inl rfl
    case isFalse hsize =>
      refine .inr ⟨cols, rows, hsmallest, hsize, ?_⟩
      split
      case h_1 error reached hcall =>
        have hrefused : Resizes engine host daemon paneId cols rows _ :=
          .refused error (congrArg Prod.fst hcall)
        rwa [show (daemon.resizePane host paneId cols rows).2 = reached from congrArg Prod.snd hcall]
          at hrefused
      case h_2 reached hcall =>
        have htaken : Resizes engine host daemon paneId cols rows _ :=
          .committed (paneId ++ ":frontend-resize") sessionMonoMs (congrArg Prod.fst hcall)
        rwa [show (daemon.resizePane host paneId cols rows).2 = reached from congrArg Prod.snd hcall]
          at htaken

/-- A resize intent leaves the daemon alone, or it may be made at once and is. -/
theorem drainResize_daemon (client : LiveAttachedClient) (daemon : Daemon σ η) (drain : ClientDrain)
    (resize : ResizeIntentSummary) (nowMonoMs : UInt64) :
    (drainResize engine host client daemon drain resize nowMonoMs).2.2 = daemon ∨
      (Session.inputAllowed client.actor = true ∧
        (daemon.session.surfaceVersion resize.paneId).isSome = true ∧
        resizeIntentAllowed ((daemon.session.paneResizePolicy resize.paneId).getD .fixed) resize.reason =
          true ∧
        resize.reason ≠ .frontendViewport ∧
        Resizes engine host daemon resize.paneId resize.cols resize.rows
          (drainResize engine host client daemon drain resize nowMonoMs).2.2) := by
  have hanswered : ∀ (after : FrameResult) (answer : Except ServeError Unit × LiveAttachedClient)
      (reached : Daemon σ η), (answered after answer reached).2.2 = reached := by
    intro after answer reached
    obtain ⟨error | _, answered⟩ := answer <;> rfl
  unfold drainResize
  dsimp only
  by_cases hallowed : Session.inputAllowed client.actor = true
  case neg => exact .inl (by simp only [hallowed, Bool.not_false, if_true, hanswered])
  by_cases hpane : (daemon.session.surfaceVersion resize.paneId).isSome = true
  case neg =>
    rw [if_neg (by simp [hallowed]), if_pos (by simpa [Option.isSome_iff_ne_none] using hpane)]
    exact .inl (hanswered _ _ _)
  rw [if_neg (by simp [hallowed]), if_neg (by simpa [Option.isSome_iff_ne_none] using hpane)]
  split
  · exact .inl rfl
  case isFalse hintent =>
    split
    · exact .inl rfl
    case isFalse hreason =>
      refine .inr ⟨hallowed, hpane, by simpa using hintent, hreason, ?_⟩
      split
      case h_1 error reached hcall =>
        have hrefused : Resizes engine host daemon resize.paneId resize.cols resize.rows _ :=
          .refused error (congrArg Prod.fst hcall)
        rw [show (daemon.resizePane host resize.paneId resize.cols resize.rows).2 = reached from
          congrArg Prod.snd hcall] at hrefused
        rwa [hanswered]
      case h_2 reached hcall =>
        have htaken : Resizes engine host daemon resize.paneId resize.cols resize.rows _ :=
          .committed client.actor.id nowMonoMs (congrArg Prod.fst hcall)
        rw [show (daemon.resizePane host resize.paneId resize.cols resize.rows).2 = reached from
          congrArg Prod.snd hcall] at htaken
        split
        case h_1 error committed hcommit =>
          rwa [hcommit] at htaken
        case h_2 changed committed hcommit =>
          rwa [hcommit] at htaken

end

end Nmux.Live
