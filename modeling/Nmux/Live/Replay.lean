import Nmux.Live.Rounds
import Nmux.Live.Updates
import Nmux.Daemon.Replay
import Nmux.Lib.Run

/-! Runs of a session actor and their traces. The actor is served by rounds of the live loop and by
connections that are served once. Two of the things these do write to the session past the actor: an
attach that makes another tab the active one, and the poll that follows one-shot input. A run without
them is on record from its first event to its last. -/
namespace Nmux

namespace AttachRequest

/-- The attach names a tab that is not the active one and can be attached to. -/
def namesBackgroundTab (request : AttachRequest) (session : Session) : Bool :=
  match request.focusedPaneId with
  | none => false
  | some targetId =>
    (session.surfaceVersion targetId).isNone && session.activeTabId != targetId &&
      (session.tabs.find? (·.id == targetId)).any fun tab =>
        (session.surfaceVersion tab.activePaneId).isSome

/-- Any other attach leaves the session alone. -/
theorem targetPaneId_session_of_not {request : AttachRequest} {session : Session}
    (h : request.namesBackgroundTab session = false) : (request.targetPaneId session).1 = session := by
  unfold namesBackgroundTab at h
  unfold targetPaneId
  split
  · rfl
  case h_2 targetId heq =>
    simp only [heq] at h
    split
    · rfl
    case isFalse hpane =>
      cases htab : (session.tabs.find? (·.id == targetId)).filter fun tab =>
          (session.surfaceVersion tab.activePaneId).isSome with
      | none => rfl
      | some tab =>
        obtain ⟨hfound, hsome⟩ := Option.filter_eq_some_iff.mp htab
        dsimp only
        split
        case isTrue hactive =>
          have hnone : session.surfaceVersion targetId = none := by simpa using hpane
          simp [hnone, hactive, hfound, hsome] at h
        case isFalse => rfl

/-- Which tab an attach names is read off the shape of the session. -/
theorem namesBackgroundTab_shape (request : AttachRequest) {session other : Session}
    (h : session.shape = other.shape) :
    request.namesBackgroundTab session = request.namesBackgroundTab other := by
  have hshape : ∀ session : Session, request.namesBackgroundTab session =
      match request.focusedPaneId with
      | none => false
      | some targetId => !session.shape.panes.any (·.2 == targetId) &&
        session.shape.activeTabId != targetId &&
          (session.shape.tabs.find? (·.id == targetId)).any fun tab =>
            session.shape.panes.any (·.2 == tab.activePaneId) := by
    intro session
    unfold namesBackgroundTab
    split
    · rfl
    case h_2 targetId _ =>
      rw [← Session.surfaceVersion_isSome, Option.not_isSome]
      congr 1
      rw [Session.shape, List.find?_map, Option.any_map]
      congr 1
      funext tab
      exact Session.surfaceVersion_isSome session tab.activePaneId
  rw [hshape session, hshape other, h]

end AttachRequest

namespace Live

open Daemon (Serves Touches)

variable {σ η : Type}

/-! ### Operations -/

/-- What a session actor is served: a connection that is served once, or a round of the live loop. -/
inductive SessionOperation where
  | connection (connection : Connection)
  | round (config : LiveConfig) (inputs : RoundInputs)

/-- The loop and its actor after an operation, whatever it came to. -/
def SessionOperation.serve (engine : TerminalEngine σ) (host : ProcessHost η) (loop : LiveLoop σ η) :
    SessionOperation → LiveLoop σ η
  | .connection once =>
    match once.initial with
    | .error _ => loop
    | .ok first => { loop with
        daemon := (serveStreamInitial engine host (.fresh once.writes) first loop.daemon once).2.2 }
  | .round config inputs => (loop.round engine host config inputs).2

/-- An attach that is let in names no background tab. -/
def AttachOnRecord (session : Session) (targetSessionId : Option String) (request : AttachRequest) : Prop :=
  attachTargetSessionMismatch session targetSessionId = none → request.namesBackgroundTab session = false

/-- A connection of the loop that writes nothing past the actor. -/
def Arrival.OnRecord (daemon : Daemon σ η) (arrival : Arrival) : Prop :=
  ∀ targetSessionId request, arrival.initial = .ok (.attach targetSessionId request) →
    AttachOnRecord daemon.session targetSessionId request

/-- A connection that is served once and writes nothing past the actor: it does not switch tabs, and the
polls that follow its input read nothing. -/
def Connection.OnRecord (engine : TerminalEngine σ) (host : ProcessHost η) (daemon : Daemon σ η)
    (connection : Connection) : Prop :=
  ∀ targetSessionId request, connection.initial = .ok (.attach targetSessionId request) →
    attachTargetSessionMismatch daemon.session targetSessionId = none →
    request.namesBackgroundTab daemon.session = false ∧
    ∀ paneId, (request.targetPaneId daemon.session).2 = some paneId → ∀ actor stream,
      OutputsAllowed engine host (fun _ _ => False) actor connection.reads connection.frames stream
        (daemon.pollPanesOnce engine host [paneId] [paneId] 0 connection.reads).2

/-- An operation that writes nothing past the actor. -/
def SessionOperation.OnRecord (engine : TerminalEngine σ) (host : ProcessHost η) (loop : LiveLoop σ η) :
    SessionOperation → Prop
  | .connection once => once.OnRecord engine host loop.daemon
  | .round config inputs =>
    LiveLoop.ArrivalsAllowed engine host Arrival.OnRecord config inputs.arrivals loop

/-! ### What an operation leaves on record -/

/-- An actor between two operations. -/
structure IdleRecorded (engine : TerminalEngine σ) (initial : Session) (daemon : Daemon σ η) : Prop where
  idle : daemon.actor.Idle
  recorded : daemon.actor.Recorded engine initial

variable {engine : TerminalEngine σ} {host : ProcessHost η} {initial : Session} {daemon : Daemon σ η}
  {loop : LiveLoop σ η}

theorem IdleRecorded.serves {okEvent : Session → SessionEvent → Prop} {okCall : HostCall η → Prop}
    {reached : Daemon σ η} (hstill : engine.Still) (h : IdleRecorded engine initial daemon)
    (hserves : Serves engine okEvent okCall daemon reached) : IdleRecorded engine initial reached :=
  ⟨hserves.idle h.idle, hserves.recorded hstill h.recorded⟩

/-- Touches that switch no tab and take no output are events. -/
theorem IdleRecorded.touches {reached : Daemon σ η} (hstill : engine.Still)
    (h : IdleRecorded engine initial daemon)
    (htouches : Touches engine (fun _ _ => False) (fun _ _ => False) daemon reached) :
    IdleRecorded engine initial reached := by
  induction htouches with
  | refl => exact h
  | serves _ after ih => exact ih.serves hstill after
  | tab _ _ ok => exact ok.elim
  | output _ _ _ ok => exact ok.elim

theorem Connection.OnRecord.allowed {connection : Connection} {first : ClientInitialFrame}
    (hidle : daemon.actor.Idle) (h : connection.OnRecord engine host daemon)
    (hfirst : connection.initial = .ok first)
    (hmatches : ∀ targetSessionId request, first = .attach targetSessionId request →
      attachTargetSessionMismatch daemon.session targetSessionId = none) :
    InitialAllowed engine host (fun _ _ => False) (fun _ _ => False) daemon connection first := by
  cases first with
  | control => trivial
  | healthProbe => trivial
  | attach targetSessionId request =>
    obtain ⟨hnames, houtputs⟩ := h _ _ hfirst (hmatches _ _ rfl)
    have hsame := AttachRequest.targetPaneId_session_of_not hnames
    refine ⟨.inl hsame, fun paneId hpane reached hreached => ?_⟩
    rw [hsame, Daemon.setSession_self] at hreached
    have hshape : reached.session.shape = daemon.session.shape := by
      have hpoll : Daemon.ServesPanes engine (fun _ => True) daemon
          (daemon.pollPanesOnce engine host [paneId] [paneId] 0 connection.reads).2 :=
        Daemon.pollPanesOnce_servesPanes hidle _ _ _ fun _ _ =>
          ⟨fun _ => trivial, fun _ _ => trivial⟩
      rw [← hreached]
      exact hpoll.shape
    have hagain := AttachRequest.targetPaneId_session_of_not
      ((request.namesBackgroundTab_shape hshape).trans hnames)
    refine ⟨.inl hagain, fun actor stream => ?_⟩
    rw [hagain, Daemon.setSession_self, ← hreached]
    exact houtputs paneId hpane actor stream

/-- A connection on record leaves the actor recorded. -/
theorem serveStreamInitial_recorded {connection : Connection} {first : ClientInitialFrame}
    {stream : ClientStream} (hstill : engine.Still) (h : IdleRecorded engine initial daemon)
    (hfirst : connection.initial = .ok first) (hrecord : connection.OnRecord engine host daemon) :
    IdleRecorded engine initial
      (serveStreamInitial engine host stream first daemon connection).2.2 := by
  by_cases hmatches : ∀ targetSessionId request, first = .attach targetSessionId request →
      attachTargetSessionMismatch daemon.session targetSessionId = none
  · exact h.touches hstill (serveStreamInitial_touches h.idle first connection
      (hrecord.allowed h.idle hfirst hmatches))
  · push Not at hmatches
    obtain ⟨targetSessionId, request, rfl, hmismatch⟩ := hmatches
    obtain ⟨target, hmismatch⟩ := Option.ne_none_iff_exists'.mp hmismatch
    have hsame : (serveStreamInitial engine host stream (.attach targetSessionId request) daemon
        connection).2.2 = daemon := by
      show (serveAttach engine host stream targetSessionId request daemon connection).2.2 = daemon
      unfold serveAttach
      rw [hmismatch]
    rwa [hsame]

/-- So does a connection of the loop. -/
theorem acceptArrival_recorded {arrival : Arrival} (hstill : engine.Still)
    (h : IdleRecorded engine initial loop.daemon) (hrecord : arrival.OnRecord loop.daemon) :
    IdleRecorded engine initial (loop.acceptArrival engine host arrival).2.daemon :=
  h.touches hstill (loop.acceptArrival_touches h.idle arrival fun _ _ hinitial hmismatch =>
    .inl (AttachRequest.targetPaneId_session_of_not (hrecord _ _ hinitial hmismatch)))

theorem leavesPolled_all : LeavesPolled host fun _ => True :=
  fun _ _ _ => ⟨fun _ => trivial, fun _ _ => trivial⟩

theorem viewportsAllowed_all (clients : List LiveAttachedClient) (session : Session)
    (paneIds : List String) : ViewportsAllowed host (fun _ => True) clients session paneIds :=
  fun _ _ _ _ => .inr ⟨fun _ _ _ => trivial, fun _ _ => trivial⟩

theorem framesAllowed_all (nowMonoMs : UInt64) (client : LiveAttachedClient) (daemon : Daemon σ η)
    (drain : ClientDrain) (reads : List (Except ServeError LiveClientRead)) :
    FramesAllowed engine host (FrameAllowed host fun _ => True) nowMonoMs client daemon drain reads := by
  induction reads generalizing client daemon drain with
  | nil => trivial
  | cons read rest ih =>
    match read with
    | .error _ => trivial
    | .ok .closed => trivial
    | .ok (.frame frame) =>
      refine ⟨?_, fun drain' client' daemon' _ => ih client' daemon' drain'⟩
      cases frame with
      | resize => exact fun _ _ _ _ => ⟨fun _ _ _ => trivial, fun _ _ => trivial⟩
      | input => exact fun _ _ _ _ _ => trivial
      | _ => trivial

theorem drainsAllowed_all {ok : LiveAttachedClient → Daemon σ η → ClientReads → Prop}
    (h : ∀ client daemon clientReads, ok client daemon clientReads) (reads : Nat → Option ClientReads)
    (index : Nat) (clients : List LiveAttachedClient) (daemon : Daemon σ η) :
    DrainsAllowed engine host ok reads index clients daemon := by
  induction clients generalizing index daemon with
  | nil => trivial
  | cons client rest ih =>
    unfold DrainsAllowed
    split
    · exact ih _ _
    · exact ⟨h _ _ _, ih _ _⟩

theorem clientsAllowed_all (inputs : RoundInputs) (loop : LiveLoop σ η) :
    loop.ClientsAllowed engine host (fun _ => True) inputs where
  drains := drainsAllowed_all (fun _ _ _ => framesAllowed_all _ _ _ _ _) _ _ _ _
  settles _ _ _ _ := ⟨viewportsAllowed_all _ _ _, viewportsAllowed_all _ _ _⟩
  inputs _ _ _ _ _ _ := ⟨fun _ => trivial, fun _ _ => trivial⟩

/-- So does a round. -/
theorem round_recorded {config : LiveConfig} {inputs : RoundInputs} (hstill : engine.Still)
    (h : IdleRecorded engine initial loop.daemon)
    (hrecord : LiveLoop.ArrivalsAllowed engine host Arrival.OnRecord config inputs.arrivals loop) :
    IdleRecorded engine initial (loop.round engine host config inputs).2.daemon := by
  have haccept : IdleRecorded engine initial
      (loop.acceptArrivals engine host config inputs.arrivals).2.daemon :=
    LiveLoop.acceptArrivals_invariant
      (fun _ _ hbefore hok => acceptArrival_recorded hstill hbefore hok) h hrecord
  unfold LiveLoop.round
  split
  · split
    case h_1 heq => rwa [heq] at haccept
    case h_2 accepted heq =>
      rw [heq] at haccept
      have hserve : IdleRecorded engine initial
          (accepted.serveClients engine host config inputs).2.daemon :=
        haccept.serves hstill (LiveLoop.serveClients_servesPanes haccept.idle leavesPolled_all
          (clientsAllowed_all inputs accepted))
      split
      case h_1 heq => rwa [heq] at hserve
      case h_2 marked served heq =>
        rw [heq] at hserve
        exact hserve.serves hstill (LiveLoop.depart_servesPanes hserve.idle
          (viewportsAllowed_all _ _ _))
  · exact h

/-- So does an operation. -/
theorem SessionOperation.serve_recorded (hstill : engine.Still)
    (h : IdleRecorded engine initial loop.daemon) {operation : SessionOperation}
    (hrecord : operation.OnRecord engine host loop) :
    IdleRecorded engine initial (operation.serve engine host loop).daemon := by
  cases operation with
  | round config inputs => exact round_recorded hstill h hrecord
  | connection once =>
    simp only [SessionOperation.serve]
    cases hfirst : once.initial with
    | error => exact h
    | ok first => exact serveStreamInitial_recorded hstill h hfirst hrecord

/-- An actor with the interim engine that was served a run of operations. -/
def servedLoop (host : ProcessHost η) (session : Session) (traceCap : ℕ) (state : η)
    (operations : List SessionOperation) : LiveLoop InterimAnsiState η :=
  Lib.run (fun loop operation => operation.serve interimTextTerminalEngine host loop)
    (.start (.start interimTextTerminalEngine session traceCap state)) operations

/-- Every operation of the run writes nothing past the actor. -/
def RunOnRecord (host : ProcessHost η) (session : Session) (traceCap : ℕ) (state : η)
    (operations : List SessionOperation) : Prop :=
  Lib.Along (fun loop operation => operation.serve interimTextTerminalEngine host loop)
    (fun loop operation => operation.OnRecord interimTextTerminalEngine host loop)
    (.start (.start interimTextTerminalEngine session traceCap state)) operations

/-- A client attaches, another connection opens a tab, and the client resizes its pane. -/
def recordedOperations : List SessionOperation := [
  .round plainConfig (plainRound [plainArrival (.attach none plainRequest)] []),
  .round plainConfig (plainRound [plainArrival (.control tabNewCommand)]
    [.resize ⟨"pane-1", "actor", 100, 30, .userCommand⟩])]

/-- A tab is opened, and a client attaches to the first one by its id. -/
def switchingOperations : List SessionOperation := [
  .round plainConfig (plainRound [plainArrival (.control tabNewCommand)] []),
  .round plainConfig (plainRound
    [plainArrival (.attach none { plainRequest with focusedPaneId := some "tab-1" })] [])]

end Live

end Nmux
