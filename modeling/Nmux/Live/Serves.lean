import Nmux.Core.SessionShape
import Nmux.Live.Sent

/-! What the clients of the loop do to the daemon. Their frames, the viewports and the polls reach the
session by output, sizes and input of panes alone, so its shape stays; what they call on the host is
allowed if every frame and every viewport is. -/
namespace Nmux

def SessionEvent.OfInput : SessionEvent → Prop
  | .forwardPaneInput _ _ _ => True
  | _ => False

namespace Daemon

variable {σ η : Type}

/-- The server gets from one daemon to the other by events of panes and allowed host calls. -/
abbrev ServesPanes (engine : TerminalEngine σ) (okCall : HostCall η → Prop) :
    Daemon σ η → Daemon σ η → Prop :=
  Serves engine (fun _ event => event.OfPanes) okCall

variable {engine : TerminalEngine σ} {host : ProcessHost η} {okCall : HostCall η → Prop}
  {daemon reached : Daemon σ η}

/-- Serving panes keeps the shape of the session. -/
theorem ServesPanes.shape (h : ServesPanes engine okCall daemon reached) :
    reached.session.shape = daemon.session.shape :=
  h.invariant (I := fun session => session.shape = daemon.session.shape)
    (fun _ _ hshape hevent => (Session.applyAccepted_shape engine _ hevent).trans hshape) rfl

theorem ServesPanes.leafPaneIds (h : ServesPanes engine okCall daemon reached) :
    reached.session.leafPaneIds = daemon.session.leafPaneIds := by
  rw [Session.leafPaneIds_shape, Session.leafPaneIds_shape, h.shape]

/-- A pane may be resized and written to while these are the leaves. -/
structure PaneAllowed (host : ProcessHost η) (okCall : HostCall η → Prop) (paneId : String)
    (leafPaneIds : List String) : Prop where
  resize : ∀ state cols rows, okCall ⟨.resizePane, paneId, leafPaneIds, state,
    failureOf (host.resizePane state paneId cols rows).1⟩
  write : WritesAllowed host okCall paneId leafPaneIds

/-- A pane may be read and written to while these are the leaves. -/
structure PollAllowed (host : ProcessHost η) (okCall : HostCall η → Prop) (paneId : String)
    (leafPaneIds : List String) : Prop where
  read : ReadsAllowed host okCall paneId leafPaneIds
  write : WritesAllowed host okCall paneId leafPaneIds

/-! ### Polls -/

theorem pollPanesOnce_servesPanes (hidle : daemon.actor.Idle) {sessionMonoMs : UInt64} (reads : Nat)
    (paneIds priorityPaneIds : List String)
    (ok : ∀ paneId ∈ paneIds ++ priorityPaneIds, PollAllowed host okCall paneId daemon.session.leafPaneIds) :
    ServesPanes engine okCall daemon
      (daemon.pollPanesOnce engine host paneIds priorityPaneIds sessionMonoMs reads).2 := by
  have hmem : ∀ paneId ∈ priorityPaneIds ++ paneIds.filter (fun paneId => paneId ∉ priorityPaneIds),
      PollAllowed host okCall paneId daemon.session.leafPaneIds := by
    intro paneId hmem
    refine ok paneId (List.mem_append.mpr ?_)
    rcases List.mem_append.mp hmem with hmem | hmem
    · exact .inr hmem
    · exact .inl (List.mem_filter.mp hmem).1
  exact (pollPanes_serves hidle reads _ (fun _ _ _ _ => trivial) (fun paneId h => (hmem paneId h).read)
    fun paneId h => (hmem paneId h).write).1

theorem pollPanesUntilQuiet_servesPanes (hidle : daemon.actor.Idle) {sessionMonoMs : UInt64}
    (reads rounds : Nat) (paneIds : List String)
    (ok : ∀ paneId ∈ paneIds, PollAllowed host okCall paneId daemon.session.leafPaneIds) :
    ServesPanes engine okCall daemon
      (daemon.pollPanesUntilQuiet engine host paneIds sessionMonoMs reads rounds).2 :=
  (pollPanesUntilQuiet_serves hidle reads rounds paneIds (fun _ _ _ _ => trivial)
    (fun paneId h => (ok paneId h).read) fun paneId h => (ok paneId h).write).1

end Daemon

namespace Live

open Daemon (ServesPanes PaneAllowed PollAllowed)

variable {σ η : Type} {engine : TerminalEngine σ} {host : ProcessHost η} {okCall : HostCall η → Prop}
  {daemon reached : Daemon σ η}

/-! ### Sizes -/

theorem Resizes.servesPanes {paneId : String} {cols rows : UInt32}
    (h : Resizes engine host daemon paneId cols rows reached) (hidle : daemon.actor.Idle)
    (ok : PaneAllowed host okCall paneId daemon.session.leafPaneIds) :
    ServesPanes engine okCall daemon reached := by
  have hcall : ServesPanes engine okCall daemon (daemon.resizePane host paneId cols rows).2 :=
    (Daemon.Serves.refl daemon).called (ok.resize _ _ _)
  have hidle' : (daemon.resizePane host paneId cols rows).2.actor.Idle := hidle
  cases h with
  | refused => exact hcall
  | committed => exact hcall.trans (Daemon.commitPaneResize_serves hidle' trivial ok.write)

/-- A resize of a pane leaves the size of every other one. -/
theorem Resizes.paneSize_other {paneId other : String} {cols rows : UInt32}
    (h : Resizes engine host daemon paneId cols rows reached) (hidle : daemon.actor.Idle)
    (hne : other ≠ paneId) : reached.session.paneSize other = daemon.session.paneSize other := by
  have hidle' : (daemon.resizePane host paneId cols rows).2.actor.Idle := hidle
  cases h with
  | refused => rfl
  | committed =>
    rw [Daemon.commitPaneResize_session hidle', Session.commitPaneResize_size_other engine _ hne]
    rfl

/-- A viewport may be applied, or is in place. -/
def ViewportAllowed (host : ProcessHost η) (okCall : HostCall η → Prop)
    (clients : List LiveAttachedClient) (session : Session) (paneId : String) : Prop :=
  ∀ size, smallestReadWriteFrontendResize clients paneId = some size →
    session.paneSize paneId = some size ∨ PaneAllowed host okCall paneId session.leafPaneIds

theorem applyConcurrentFrontendResize_servesPanes {clients : List LiveAttachedClient} {paneId : String}
    (hidle : daemon.actor.Idle) (ok : ViewportAllowed host okCall clients daemon.session paneId)
    (sessionMonoMs : UInt64) :
    ServesPanes engine okCall daemon
      (applyConcurrentFrontendResize engine host clients daemon paneId sessionMonoMs).2 := by
  rcases applyConcurrentFrontendResize_daemon clients daemon paneId sessionMonoMs with
    hsame | ⟨cols, rows, hsmallest, hsize, hresizes⟩
  · rw [hsame]
    exact .refl _
  · exact hresizes.servesPanes hidle ((ok _ hsmallest).resolve_left hsize)

/-- What is applied for one pane leaves the other viewports as they were. -/
theorem ViewportAllowed.applied {clients : List LiveAttachedClient} {paneId other : String}
    (hidle : daemon.actor.Idle) (okPane : ViewportAllowed host okCall clients daemon.session paneId)
    (ok : ViewportAllowed host okCall clients daemon.session other) (sessionMonoMs : UInt64) :
    ViewportAllowed host okCall clients
      (applyConcurrentFrontendResize engine host clients daemon paneId sessionMonoMs).2.session other := by
  have hserves : ServesPanes engine okCall daemon
      (applyConcurrentFrontendResize engine host clients daemon paneId sessionMonoMs).2 :=
    applyConcurrentFrontendResize_servesPanes hidle okPane sessionMonoMs
  rcases applyConcurrentFrontendResize_daemon clients daemon paneId sessionMonoMs with
    hsame | ⟨cols, rows, hsmallest, hsize, hresizes⟩
  · rw [hsame]
    exact ok
  · intro size hother
    rw [hserves.leafPaneIds]
    by_cases hne : other = paneId
    · subst hne
      exact .inr ((okPane _ hsmallest).resolve_left hsize)
    · rw [hresizes.paneSize_other hidle hne]
      exact ok size hother

theorem applyFrontendResizes_servesPanes {clients : List LiveAttachedClient} (sessionMonoMs : UInt64)
    (hidle : daemon.actor.Idle) {paneIds : List String}
    (ok : ∀ paneId ∈ paneIds, ViewportAllowed host okCall clients daemon.session paneId) :
    ServesPanes engine okCall daemon
      (applyFrontendResizes engine host clients sessionMonoMs daemon paneIds).2 := by
  induction paneIds generalizing daemon with
  | nil => exact .refl _
  | cons paneId rest ih =>
    have hpane := ok paneId List.mem_cons_self
    have hfirst : ServesPanes engine okCall daemon
        (applyConcurrentFrontendResize engine host clients daemon paneId sessionMonoMs).2 :=
      applyConcurrentFrontendResize_servesPanes hidle hpane sessionMonoMs
    have hrest := ih (hfirst.idle hidle) fun other hmem =>
      ViewportAllowed.applied hidle hpane (ok other (List.mem_cons_of_mem _ hmem)) sessionMonoMs
    unfold applyFrontendResizes
    split
    case h_1 heq => rwa [heq] at hfirst
    case h_2 heq =>
      rw [heq] at hfirst hrest
      split
      case h_1 heq => rw [heq] at hrest; exact hfirst.trans hrest
      case h_2 heq => rw [heq] at hrest; exact hfirst.trans hrest

/-! ### Frames -/

/-- What a frame calls on the host is allowed: a resize that is made at once, input that is written. -/
def FrameAllowed (host : ProcessHost η) (okCall : HostCall η → Prop) (client : LiveAttachedClient)
    (daemon : Daemon σ η) : LiveClientFrame → Prop
  | .resize resize => Session.inputAllowed client.actor = true →
    (daemon.session.surfaceVersion resize.paneId).isSome = true →
    resizeIntentAllowed ((daemon.session.paneResizePolicy resize.paneId).getD .fixed) resize.reason = true →
    resize.reason ≠ .frontendViewport → PaneAllowed host okCall resize.paneId daemon.session.leafPaneIds
  | .input input => Session.inputAllowed client.actor = true →
    (daemon.session.surfaceVersion input.paneId).isSome = true →
    input.forwardingRejection daemon.session = none →
    Daemon.WritesAllowed host okCall input.paneId daemon.session.leafPaneIds
  | _ => True

/-- A condition on the frames of a drain, as far as it gets. -/
def FramesAllowed (engine : TerminalEngine σ) (host : ProcessHost η)
    (ok : LiveAttachedClient → Daemon σ η → LiveClientFrame → Prop) (nowMonoMs : UInt64) :
    LiveAttachedClient → Daemon σ η → ClientDrain → List (Except ServeError LiveClientRead) → Prop
  | client, daemon, drain, .ok (.frame frame) :: rest => ok client daemon frame ∧
    ∀ drain' client' daemon', drainFrame engine host client daemon drain nowMonoMs frame =
      (.next drain', client', daemon') → FramesAllowed engine host ok nowMonoMs client' daemon' drain' rest
  | _, _, _, _ => True

/-- A condition on the drains of the readable clients. -/
def DrainsAllowed (engine : TerminalEngine σ) (host : ProcessHost η)
    (ok : LiveAttachedClient → Daemon σ η → ClientReads → Prop) (reads : Nat → Option ClientReads) :
    Nat → List LiveAttachedClient → Daemon σ η → Prop
  | _, [], _ => True
  | index, client :: rest, daemon =>
    match reads index with
    | none => DrainsAllowed engine host ok reads (index + 1) rest daemon
    | some clientReads => ok client daemon clientReads ∧
      DrainsAllowed engine host ok reads (index + 1) rest
        (drainLiveClientFrames engine host clientReads.nowMonoMs client daemon .none clientReads.frames).2.2

/-- Whether drains are allowed is decided by running them. -/
instance DrainsAllowed.decidable (engine : TerminalEngine σ) (host : ProcessHost η)
    (ok : LiveAttachedClient → Daemon σ η → ClientReads → Prop)
    [∀ client daemon clientReads, Decidable (ok client daemon clientReads)]
    (reads : Nat → Option ClientReads) (index : Nat) (clients : List LiveAttachedClient)
    (daemon : Daemon σ η) : Decidable (DrainsAllowed engine host ok reads index clients daemon) :=
  match clients with
  | [] => isTrue trivial
  | client :: rest =>
    match hreads : reads index with
    | none =>
      have := DrainsAllowed.decidable engine host ok reads (index + 1) rest daemon
      decidable_of_iff (DrainsAllowed engine host ok reads (index + 1) rest daemon) (by
        conv_rhs => unfold DrainsAllowed
        rw [hreads])
    | some clientReads =>
      let drained := (drainLiveClientFrames engine host clientReads.nowMonoMs client daemon .none
        clientReads.frames).2.2
      have := DrainsAllowed.decidable engine host ok reads (index + 1) rest drained
      decidable_of_iff (ok client daemon clientReads ∧
        DrainsAllowed engine host ok reads (index + 1) rest drained) (by
          conv_rhs => unfold DrainsAllowed
          rw [hreads])

/-- Input is encoded by the engine of its pane, accepted as an event and written. -/
theorem forwardLiveInput_serves {okEvent : Session → SessionEvent → Prop} (hidle : daemon.actor.Idle)
    (client : LiveAttachedClient) {input : InputSummary} (nowMonoMs : UInt64)
    (okInput : ∀ session bytes, okEvent session (.forwardPaneInput input.paneId input.inputSeq bytes))
    (okWrite : (daemon.session.surfaceVersion input.paneId).isSome = true →
      input.forwardingRejection daemon.session = none → ∀ leafPaneIds,
      leafPaneIds = daemon.session.leafPaneIds → Daemon.WritesAllowed host okCall input.paneId leafPaneIds) :
    Daemon.Serves engine okEvent okCall daemon
      (forwardLiveInput engine host client daemon input nowMonoMs).2.2 := by
  unfold forwardLiveInput
  dsimp only
  split
  · exact .refl _
  case isFalse hpane =>
    split
    · exact .refl _
    case h_2 hrejection =>
      have hencoded : Daemon.Serves engine okEvent okCall daemon (daemon.setEngine input.paneId
          (input.forwardedBytes engine daemon.session (daemon.actor.core.terminalEngines input.paneId)).2) :=
        Daemon.setEngine_serves (input.forwardedBytes_moves engine _ _)
      split
      · exact hencoded
      case h_2 bytes _ =>
        have hidle' := hencoded.idle hidle
        have haccept := hencoded.acceptEvent hidle
          ⟨client.actor.id, .client, nowMonoMs, .forwardPaneInput input.paneId input.inputSeq bytes⟩
          (okInput _ _)
        have hwrite := haccept.trans (Daemon.writeInput_serves host input.paneId bytes
          (okWrite (by simpa [Option.isSome_iff_ne_none] using hpane) hrejection _ (by
            rw [Daemon.acceptEvent_session hidle']
            rfl)))
        split
        case h_1 heq =>
          obtain rfl := congrArg Prod.snd heq
          exact hwrite
        case h_2 heq =>
          obtain rfl := congrArg Prod.snd heq
          split <;> exact hwrite

/-- Input of a client never changes the session. -/
theorem forwardLiveInput_session (hidle : daemon.actor.Idle) (client : LiveAttachedClient)
    (input : InputSummary) (nowMonoMs : UInt64) :
    (forwardLiveInput engine host client daemon input nowMonoMs).2.2.session = daemon.session := by
  have hserves : Daemon.Serves engine (fun _ event => event.OfInput) (fun _ => True) daemon
      (forwardLiveInput engine host client daemon input nowMonoMs).2.2 :=
    forwardLiveInput_serves hidle client nowMonoMs (fun _ _ => trivial) fun _ _ _ _ _ _ => trivial
  refine hserves.invariant (I := fun session => session = daemon.session)
    (fun core pending hsame hinput => ?_) rfl
  obtain ⟨sourceId, lane, now, event⟩ := pending
  cases event <;> first | exact hinput.elim | exact hsame

/-- The daemon after an answer is the daemon before it. -/
@[simp] theorem answered_daemon (after : FrameResult) (answer : Except ServeError Unit × LiveAttachedClient)
    (daemon : Daemon σ η) : (answered after answer daemon).2.2 = daemon := by
  obtain ⟨error | _, answering⟩ := answer <;> rfl

theorem drainInput_servesPanes (hidle : daemon.actor.Idle) (client : LiveAttachedClient)
    (drain : ClientDrain) {input : InputSummary} (nowMonoMs : UInt64)
    (ok : FrameAllowed host okCall client daemon (.input input)) :
    ServesPanes engine okCall daemon
      (drainInput engine host client daemon drain input nowMonoMs).2.2 := by
  unfold drainInput
  dsimp only
  split
  · rw [answered_daemon]
    exact .refl _
  case isFalse hallowed =>
    have hforward : ServesPanes engine okCall daemon (forwardLiveInput engine host
        { client with lastSeenMonoMs := nowMonoMs, lastInputMonoMs := some nowMonoMs } daemon input
        nowMonoMs).2.2 :=
      forwardLiveInput_serves hidle _ nowMonoMs (fun _ _ => trivial) fun hpane hrejection leafPaneIds heq =>
        heq ▸ ok (by simpa using hallowed) hpane hrejection
    split
    case h_1 heq => rwa [heq] at hforward
    case h_2 heq => rwa [heq] at hforward

theorem drainScrollback_daemon (client : LiveAttachedClient) (daemon : Daemon σ η) (drain : ClientDrain)
    (fetch : ScrollbackFetchSummary) (nowMonoMs : UInt64) :
    (drainScrollback client daemon drain fetch nowMonoMs).2.2 = daemon := by
  unfold drainScrollback
  dsimp only
  repeat' split
  all_goals rw [answered_daemon]

theorem drainFrame_servesPanes (hidle : daemon.actor.Idle) (client : LiveAttachedClient)
    (drain : ClientDrain) (nowMonoMs : UInt64) {frame : LiveClientFrame}
    (ok : FrameAllowed host okCall client daemon frame) :
    ServesPanes engine okCall daemon
      (drainFrame engine host client daemon drain nowMonoMs frame).2.2 := by
  cases frame with
  | resize resize =>
    rcases drainResize_daemon client daemon drain resize nowMonoMs with
      hsame | ⟨hallowed, hpane, hintent, hreason, hresizes⟩
    · rw [drainFrame, hsame]
      exact .refl _
    · exact hresizes.servesPanes hidle (ok hallowed hpane hintent hreason)
  | scrollback fetch =>
    rw [drainFrame, drainScrollback_daemon]
    exact .refl _
  | input input => exact drainInput_servesPanes hidle client drain nowMonoMs ok
  | ping ping =>
    rw [drainFrame, answered_daemon]
    exact .refl _

theorem drainLiveClientFrames_servesPanes (hidle : daemon.actor.Idle) {client : LiveAttachedClient}
    {drain : ClientDrain} {nowMonoMs : UInt64} {reads : List (Except ServeError LiveClientRead)}
    (ok : FramesAllowed engine host (FrameAllowed host okCall) nowMonoMs client daemon drain reads) :
    ServesPanes engine okCall daemon
      (drainLiveClientFrames engine host nowMonoMs client daemon drain reads).2.2 := by
  induction reads generalizing client daemon drain with
  | nil => exact .refl _
  | cons read rest ih =>
    match read with
    | .error error => exact .refl _
    | .ok .closed => exact .refl _
    | .ok (.frame frame) =>
      obtain ⟨hframe, hrest⟩ := ok
      have hfirst : ServesPanes engine okCall daemon
          (drainFrame engine host client daemon drain nowMonoMs frame).2.2 :=
        drainFrame_servesPanes hidle client drain nowMonoMs hframe
      unfold drainLiveClientFrames
      split
      case h_1 heq => rwa [heq] at hfirst
      case h_2 heq => rwa [heq] at hfirst
      case h_3 heq =>
        have hnext := hrest _ _ _ heq
        rw [heq] at hfirst
        exact hfirst.trans (ih (hfirst.idle hidle) hnext)

theorem drainReadableClients_servesPanes (hidle : daemon.actor.Idle) {reads : Nat → Option ClientReads}
    {index : Nat} {clients : List LiveAttachedClient} (round : LiveRound)
    (ok : DrainsAllowed engine host (fun client daemon clientReads => FramesAllowed engine host
      (FrameAllowed host okCall) clientReads.nowMonoMs client daemon .none clientReads.frames) reads index
      clients daemon) :
    ServesPanes engine okCall daemon
      (drainReadableClients engine host reads index clients daemon round).2.2 := by
  induction clients generalizing index daemon round with
  | nil => exact .refl _
  | cons client rest ih =>
    unfold DrainsAllowed at ok
    unfold drainReadableClients
    split
    case h_1 hnone =>
      rw [hnone] at ok
      exact ih hidle round ok
    case h_2 clientReads hsome =>
      rw [hsome] at ok
      have hdrain : ServesPanes engine okCall daemon (drainLiveClientFrames engine host
          clientReads.nowMonoMs client daemon .none clientReads.frames).2.2 :=
        drainLiveClientFrames_servesPanes hidle ok.1
      dsimp only
      split
      · exact hdrain
      · exact hdrain.trans (ih (hdrain.idle hidle) _ ok.2)

/-! ### Connections -/

/-- A connection that is accepted touches the session as its first frame does: a command by events, an
attach by the tab it may switch to. -/
theorem acceptLiveClient_touches {okTab : Session → String → Prop} {okOutput : String → List UInt8 → Prop}
    (hidle : daemon.actor.Idle) (arrival : Arrival) (connectionId : String)
    (ok : ∀ targetSessionId request, arrival.initial = .ok (.attach targetSessionId request) →
      attachTargetSessionMismatch daemon.session targetSessionId = none →
      AttachAllowed okTab request daemon.session) :
    Daemon.Touches engine okTab okOutput daemon
      (acceptLiveClient engine host arrival connectionId daemon).2 := by
  unfold acceptLiveClient
  dsimp only
  split
  · exact .refl _
  case h_2 command _ =>
    have hcommand : Daemon.Touches engine okTab okOutput daemon
        (serveControlCommand engine host (.fresh arrival.writes) command daemon).2.2 :=
      .ofServes (serveControlCommand_serves hidle command)
    split
    all_goals (rename_i heq; rwa [heq] at hcommand)
  case h_3 probe _ =>
    have hprobe : Daemon.Touches engine okTab okOutput daemon (serveHealthProbe engine host
        (.fresh arrival.writes) probe daemon arrival.reads arrival.rounds).2.2 :=
      .ofServes (serveHealthProbe_serves hidle probe arrival.reads arrival.rounds fun _ _ _ => trivial)
    split
    all_goals (rename_i heq; rwa [heq] at hprobe)
  case h_4 targetSessionId request hinitial =>
    split
    · exact .refl _
    case h_2 hmismatch =>
      have hattach : Daemon.Touches engine okTab okOutput daemon
          (daemon.setSession (request.targetPaneId daemon.session).1) :=
        attach_touches (ok _ _ hinitial hmismatch)
      split
      case h_1 session paneId htarget =>
        rw [htarget] at hattach
        have hpoll : Daemon.Serves engine (fun _ _ => True) (fun _ => True) (daemon.setSession session)
            ((daemon.setSession session).pollPanesUntilQuiet engine host daemon.session.leafPaneIds
              arrival.nowMonoMs arrival.reads arrival.rounds).2 :=
          (Daemon.pollPanesUntilQuiet_serves (hattach.idle hidle) _ _ _ (fun _ _ _ _ => trivial)
            (fun _ _ _ => trivial) fun _ _ _ _ => trivial).1
        unfold attachLiveClient
        dsimp only
        split
        all_goals
          rename_i heq
          rw [heq] at hpoll
          split <;> exact hattach.serves hpoll
      case h_2 session htarget =>
        rw [htarget] at hattach
        split <;> exact hattach

theorem LiveLoop.acceptArrival_touches {okTab : Session → String → Prop}
    {okOutput : String → List UInt8 → Prop} {loop : LiveLoop σ η} (hidle : loop.daemon.actor.Idle)
    (arrival : Arrival)
    (ok : ∀ targetSessionId request, arrival.initial = .ok (.attach targetSessionId request) →
      attachTargetSessionMismatch loop.daemon.session targetSessionId = none →
      AttachAllowed okTab request loop.daemon.session) :
    Daemon.Touches engine okTab okOutput loop.daemon
      (loop.acceptArrival engine host arrival).2.daemon := by
  have haccept : Daemon.Touches engine okTab okOutput loop.daemon (acceptLiveClient engine host arrival
      ("conn-" ++ toString loop.nextConnectionId) loop.daemon).2 :=
    acceptLiveClient_touches hidle arrival _ ok
  unfold acceptArrival
  split
  case h_1 heq => rwa [heq] at haccept
  case h_2 heq => rwa [heq] at haccept
  case h_3 heq => rwa [heq] at haccept
  case h_4 client daemon heq =>
    rw [heq] at haccept
    have hjoin := LiveLoop.join_daemon { loop with daemon } client
    split
    all_goals
      rename_i heq
      rw [heq] at hjoin
      rwa [hjoin]

theorem LiveLoop.acceptArrival_idle {loop : LiveLoop σ η} (arrival : Arrival)
    (hidle : loop.daemon.actor.Idle) : (loop.acceptArrival engine host arrival).2.daemon.actor.Idle := by
  have htouches : Daemon.Touches engine (fun _ _ => True) (fun _ _ => True) loop.daemon
      (loop.acceptArrival engine host arrival).2.daemon :=
    loop.acceptArrival_touches hidle arrival fun _ _ _ _ => .inr fun _ _ => trivial
  exact htouches.idle hidle

end Live

end Nmux
