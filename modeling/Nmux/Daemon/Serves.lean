import Nmux.Core.Actor
import Nmux.Core.Host

/-! What the server does to a session. A daemon is a session actor with the host that runs its panes,
and all a call of the server does to it is accept events, call the host, and let an engine write or
encode. `Serves` says so, with a condition on the events and one on the host calls; every function of
the server has a lemma of that form, and what every accepted event keeps, the server keeps. -/
namespace Nmux

inductive HostOperation where
  | resizePane
  | writeInput
  | tryReadOutput
deriving DecidableEq, Repr

/-- A call on the host: the panes that were leaves and the state of the host when it was made, and
the error it was answered with, if any. -/
structure HostCall (η : Type) where
  operation : HostOperation
  paneId : String
  leafPaneIds : List String
  host : η
  failure : Option HostError

/-- A session actor and the state of the host that runs its panes. `calls` is no part of the source:
it lists the calls made on panes that run. -/
structure Daemon (σ η : Type) where
  actor : SessionActor σ
  host : η
  calls : List (HostCall η)

/-- The error of a result, if it is one. -/
def failureOf {α : Type} : Except HostError α → Option HostError
  | .error err => some err
  | .ok _ => none

namespace Daemon

variable {σ η : Type} (engine : TerminalEngine σ) (host : ProcessHost η)

def session (daemon : Daemon σ η) : Session := daemon.actor.session

/-- A daemon at its start: the actor has accepted nothing. -/
def start (session : Session) (traceCap : Nat) (state : η) : Daemon σ η where
  actor := .new (.new engine session) traceCap
  host := state
  calls := []

/-- An event through the actor, and whether it had an effect. -/
def acceptEvent (daemon : Daemon σ η) (pending : PendingSessionEvent) : Daemon σ η × Bool :=
  ({ daemon with actor := (daemon.actor.acceptEvent engine pending).1 },
    (daemon.actor.acceptEvent engine pending).2)

/-- A call on a running pane, with its result and the host's next state. -/
def called {α : Type} (daemon : Daemon σ η) (operation : HostOperation) (paneId : String)
    (result : Except HostError α × η) : Except HostError α × Daemon σ η :=
  (result.1, { daemon with
    host := result.2
    calls := daemon.calls ++
      [⟨operation, paneId, daemon.session.leafPaneIds, daemon.host, failureOf result.1⟩] })

def resizePane (daemon : Daemon σ η) (paneId : String) (cols rows : UInt32) :
    Except HostError Unit × Daemon σ η :=
  daemon.called .resizePane paneId (host.resizePane daemon.host paneId cols rows)

def writeInput (daemon : Daemon σ η) (paneId : String) (bytes : List UInt8) :
    Except HostError Unit × Daemon σ η :=
  daemon.called .writeInput paneId (host.writeInput daemon.host paneId bytes)

def tryReadOutput (daemon : Daemon σ η) (paneId : String) :
    Except HostError (List UInt8) × Daemon σ η :=
  daemon.called .tryReadOutput paneId (host.tryReadOutput daemon.host paneId)

/-- The engine of a pane in a new state. -/
def setEngine (daemon : Daemon σ η) (paneId : String) (state : σ) : Daemon σ η :=
  { daemon with actor := { daemon.actor with core := { daemon.actor.core with
    terminalEngines := Function.update daemon.actor.core.terminalEngines paneId state } } }

@[simp] theorem setEngine_session (daemon : Daemon σ η) (paneId : String) (state : σ) :
    (daemon.setEngine paneId state).session = daemon.session := rfl

end Daemon

/-- What an engine does outside of events: it hands over what it has for the process, or encodes a key
or a mouse event. -/
inductive TerminalEngine.Moves {σ : Type} (engine : TerminalEngine σ) (state : σ) : σ → Prop
  | drain : Moves engine state (engine.drainPtyWrites state).1
  | key (input : KeyTerminalInput) : Moves engine state (engine.encodeKeyInput state input).1
  | mouse (input : MouseTerminalInput) : Moves engine state (engine.encodeMouseInput state input).1

namespace Daemon

variable {σ η : Type} (engine : TerminalEngine σ)

/-- The server gets from one daemon to the other by accepting events, each allowed by `okEvent` in the
session it finds, by calls on the host, those on running panes allowed by `okCall`, and by moves of
engines. -/
inductive Serves (okEvent : Session → SessionEvent → Prop) (okCall : HostCall η → Prop) :
    Daemon σ η → Daemon σ η → Prop
  | refl (daemon : Daemon σ η) : Serves okEvent okCall daemon daemon
  | event {daemon reached : Daemon σ η} (pending : PendingSessionEvent)
      (before : Serves okEvent okCall daemon reached)
      (ok : okEvent reached.session pending.event) :
      Serves okEvent okCall daemon { reached with actor := reached.actor.accepted engine pending }
  | host {daemon reached : Daemon σ η} (state : η) (calls : List (HostCall η))
      (before : Serves okEvent okCall daemon reached) (ok : ∀ call ∈ calls, okCall call) :
      Serves okEvent okCall daemon { reached with host := state, calls := reached.calls ++ calls }
  | engine {daemon reached : Daemon σ η} (paneId : String) (state : σ)
      (before : Serves okEvent okCall daemon reached)
      (moves : engine.Moves (reached.actor.core.terminalEngines paneId) state) :
      Serves okEvent okCall daemon (reached.setEngine paneId state)

namespace Serves

variable {engine} {okEvent : Session → SessionEvent → Prop} {okCall : HostCall η → Prop}
  {daemon middle reached : Daemon σ η}

theorem trans (first : Serves engine okEvent okCall daemon middle)
    (second : Serves engine okEvent okCall middle reached) :
    Serves engine okEvent okCall daemon reached := by
  induction second with
  | refl => exact first
  | event pending _ ok ih => exact ih.event pending ok
  | host state calls _ ok ih => exact ih.host state calls ok
  | engine paneId state _ moves ih => exact ih.engine paneId state moves

/-- The server leaves an idle actor idle. -/
theorem idle (h : Serves engine okEvent okCall daemon reached) (hidle : daemon.actor.Idle) :
    reached.actor.Idle := by
  induction h with
  | refl => exact hidle
  | event => rfl
  | host state calls _ _ ih => exact ih
  | engine paneId state _ _ ih => exact ih

/-- The host changes, and no pane is called. -/
theorem onHost (state : η) (h : Serves engine okEvent okCall daemon reached) :
    Serves engine okEvent okCall daemon { reached with host := state } := by
  simpa using h.host state [] (by simp)

/-- An event of a call is accepted. -/
theorem acceptEvent (h : Serves engine okEvent okCall daemon reached) (hidle : daemon.actor.Idle)
    (pending : PendingSessionEvent) (ok : okEvent reached.session pending.event) :
    Serves engine okEvent okCall daemon (reached.acceptEvent engine pending).1 := by
  have haccept := h.event pending ok
  rwa [← SessionActor.acceptEvent_actor engine (h.idle hidle)] at haccept

/-- A call on a pane the condition allows. -/
theorem called {α : Type} (h : Serves engine okEvent okCall daemon reached)
    {operation : HostOperation} {paneId : String} {result : Except HostError α × η}
    (ok : okCall ⟨operation, paneId, reached.session.leafPaneIds, reached.host, failureOf result.1⟩) :
    Serves engine okEvent okCall daemon (reached.called operation paneId result).2 :=
  h.host result.2 [_] (by simpa using ok)

/-- **What every event keeps, the server keeps.** An invariant of sessions under the allowed events
holds of every session the server reaches. -/
theorem invariant {I : Session → Prop}
    (hstep : ∀ (core : SessionCore σ) (pending : PendingSessionEvent), I core.session →
      okEvent core.session pending.event → I (core.acceptPending engine pending).1.session)
    (h : Serves engine okEvent okCall daemon reached) (hinit : I daemon.session) :
    I reached.session := by
  induction h with
  | refl => exact hinit
  | event pending _ ok ih => exact hstep _ pending ih ok
  | host state calls _ _ ih => exact ih
  | engine paneId state _ _ ih => exact ih

/-- Weaker conditions allow more. -/
theorem imp {okEvent' : Session → SessionEvent → Prop} {okCall' : HostCall η → Prop}
    (hevent : ∀ session event, okEvent session event → okEvent' session event)
    (hcall : ∀ call, okCall call → okCall' call)
    (h : Serves engine okEvent okCall daemon reached) :
    Serves engine okEvent' okCall' daemon reached := by
  induction h with
  | refl => exact .refl _
  | event pending _ ok ih => exact ih.event pending (hevent _ _ ok)
  | host state calls _ ok ih => exact ih.host state calls fun call hmem => hcall call (ok call hmem)
  | engine paneId state _ moves ih => exact ih.engine paneId state moves

end Serves

end Daemon

end Nmux
