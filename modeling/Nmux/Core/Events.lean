import Nmux.Core.Session

/-! Session events, the core that applies them, and the actor around it. The core numbers an event
when it accepts it and answers with the effects; the actor queues events by source, takes the one of
the most urgent lane, and keeps a trace of what was accepted. Replay applies a trace to a fresh core. -/
namespace Nmux

open Protocol (SplitAxis ResizePolicy PatchKind)

inductive SessionEvent where
  | addTab (tabId title paneId : String) (host : HostSpec)
  | switchTab (tabId : String)
  | closeTab (tabId : String)
  | focusPane (paneId : String)
  | splitPane (paneId : String) (axis : SplitAxis) (newPaneId : String) (newHost : HostSpec)
  | setPaneResizePolicy (paneId : String) (policy : ResizePolicy)
  | paneOutput (paneId : String) (bytes : List UInt8)
  | commitPaneResize (paneId : String) (cols rows : UInt32)
  | requestSessionShutdown (sessionId : Option String)
  | forwardPaneInput (paneId : String) (inputSeq : UInt64) (bytes : List UInt8)
deriving DecidableEq, Repr

inductive SessionEventLane where
  | control
  | client
  | pane
  | timer
  | lifecycle
deriving DecidableEq, Repr

def SessionEventLane.priority : SessionEventLane → Nat
  | .lifecycle => 0
  | .control => 1
  | .client => 2
  | .pane => 3
  | .timer => 4

structure AcceptedEventMetadata where
  eventIndex : UInt64
  sessionMonoMs : UInt64
  sourceId : String
  lane : SessionEventLane
deriving DecidableEq, Repr

structure AcceptedSessionEvent where
  metadata : AcceptedEventMetadata
  event : SessionEvent
deriving DecidableEq, Repr

inductive SessionEffect where
  | workspaceChanged (eventIndex version : UInt64)
  | paneSurfaceChanged (eventIndex : UInt64) (paneId : String)
      (surfaceVersion scrollbackVersion : UInt64) (patchKind : PatchKind)
  | paneResized (eventIndex : UInt64) (paneId : String) (cols rows : UInt32)
deriving DecidableEq, Repr

structure PendingSessionEvent where
  sourceId : String
  lane : SessionEventLane
  sessionMonoMs : UInt64
  event : SessionEvent
deriving DecidableEq, Repr

/-- `SessionTraceRecord`, and `SessionTransition`, which has the same fields. -/
structure SessionTraceRecord where
  accepted : AcceptedSessionEvent
  effects : List SessionEffect
deriving DecidableEq, Repr

/-! ### The core -/

structure SessionCore (σ : Type) where
  session : Session
  terminalEngines : PaneTerminalEngines σ
  nextEventIndex : UInt64

namespace SessionCore

variable {σ : Type} (engine : TerminalEngine σ)

/-- `with_terminal_engine_kind`, and `new` for the kind's engine. -/
def new (session : Session) : SessionCore σ :=
  { session, terminalEngines := .new engine, nextEventIndex := 0 }

def paneSurfaceEffect (session : Session) (eventIndex : UInt64) (paneId : String) :
    Option SessionEffect := do
  return .paneSurfaceChanged eventIndex paneId (← session.surfaceVersion paneId)
    (← session.scrollbackVersion paneId) (← session.surfacePatchKind paneId)

/-- An event that only rearranges the session, with its effect if it changed anything. -/
def workspaceEvent (core : SessionCore σ) (eventIndex : UInt64) (result : Session × Bool) :
    SessionCore σ × List SessionEffect :=
  ({ core with session := result.1 },
    if result.2 then [.workspaceChanged eventIndex result.1.version] else [])

def applyPaneOutputEvent (core : SessionCore σ) (eventIndex : UInt64) (paneId : String)
    (bytes : List UInt8) : SessionCore σ × List SessionEffect :=
  let (session, state, changed) :=
    core.session.applyPaneOutputWithEngine engine paneId bytes (core.terminalEngines paneId)
  ({ core with session, terminalEngines := Function.update core.terminalEngines paneId state },
    if changed then (paneSurfaceEffect session eventIndex paneId).toList else [])

def applyPaneResizeEvent (core : SessionCore σ) (eventIndex : UInt64) (paneId : String)
    (cols rows : UInt32) : SessionCore σ × List SessionEffect :=
  let (session, state, changed) :=
    core.session.commitPaneResizeWithEngine engine paneId cols rows (core.terminalEngines paneId)
  ({ core with session, terminalEngines := Function.update core.terminalEngines paneId state },
    if changed then
      [.paneResized eventIndex paneId cols rows] ++
        (paneSurfaceEffect session eventIndex paneId).toList ++
        [.workspaceChanged eventIndex session.version]
    else [])

def applyAccepted (core : SessionCore σ) (accepted : AcceptedSessionEvent) :
    SessionCore σ × List SessionEffect :=
  let eventIndex := accepted.metadata.eventIndex
  match accepted.event with
  | .addTab tabId title paneId host =>
    core.workspaceEvent eventIndex (core.session.addTab tabId title paneId host)
  | .switchTab tabId => core.workspaceEvent eventIndex (core.session.switchTab tabId)
  | .closeTab tabId => core.workspaceEvent eventIndex (core.session.closeTab tabId)
  | .focusPane paneId => core.workspaceEvent eventIndex (core.session.focusPane paneId)
  | .splitPane paneId axis newPaneId newHost =>
    core.workspaceEvent eventIndex (core.session.splitPane paneId axis newPaneId newHost)
  | .setPaneResizePolicy paneId policy =>
    core.workspaceEvent eventIndex (core.session.setPaneResizePolicy paneId policy)
  | .paneOutput paneId bytes => core.applyPaneOutputEvent engine eventIndex paneId bytes
  | .commitPaneResize paneId cols rows =>
    core.applyPaneResizeEvent engine eventIndex paneId cols rows
  | .requestSessionShutdown _ => (core, [])
  | .forwardPaneInput _ _ _ => (core, [])

/-- The event as the core accepts it: under its next index. -/
def accepting (core : SessionCore σ) (pending : PendingSessionEvent) : AcceptedSessionEvent where
  metadata := {
    eventIndex := core.nextEventIndex
    sessionMonoMs := pending.sessionMonoMs
    sourceId := pending.sourceId
    lane := pending.lane }
  event := pending.event

def acceptPending (core : SessionCore σ) (pending : PendingSessionEvent) :
    SessionCore σ × SessionTraceRecord :=
  let accepted := core.accepting pending
  let (core, effects) :=
    { core with nextEventIndex := satAdd64 core.nextEventIndex 1 }.applyAccepted engine accepted
  (core, ⟨accepted, effects⟩)

/-- One event of a replay: the next index moves past the event's own. -/
def replayEvent (state : SessionCore σ × List SessionTraceRecord) (accepted : AcceptedSessionEvent) :
    SessionCore σ × List SessionTraceRecord :=
  let core := { state.1 with
    nextEventIndex := max state.1.nextEventIndex (satAdd64 accepted.metadata.eventIndex 1) }
  let (core, effects) := core.applyAccepted engine accepted
  (core, state.2 ++ [⟨accepted, effects⟩])

def replayAcceptedEvents (session : Session) (events : List AcceptedSessionEvent) :
    SessionCore σ × List SessionTraceRecord :=
  events.foldl (replayEvent engine) (new engine session, [])

end SessionCore

/-! ### The scheduler -/

/-- `DeterministicSessionScheduler`: a queue for each source, in the order of the source ids. -/
structure DeterministicSessionScheduler where
  queues : List (String × List PendingSessionEvent)
deriving DecidableEq, Repr

namespace DeterministicSessionScheduler

def new : DeterministicSessionScheduler := ⟨[]⟩

/-- A `BTreeMap` entry: the queue of the source, created in its place if there is none. -/
def pushQueue (pending : PendingSessionEvent) :
    List (String × List PendingSessionEvent) → List (String × List PendingSessionEvent)
  | [] => [(pending.sourceId, [pending])]
  | (sourceId, queue) :: rest =>
    if sourceId = pending.sourceId then (sourceId, queue ++ [pending]) :: rest
    else if pending.sourceId < sourceId then (pending.sourceId, [pending]) :: (sourceId, queue) :: rest
    else (sourceId, queue) :: pushQueue pending rest

def push (scheduler : DeterministicSessionScheduler) (pending : PendingSessionEvent) :
    DeterministicSessionScheduler :=
  ⟨pushQueue pending scheduler.queues⟩

/-- The head of each queue that has one, with its source. -/
def fronts (scheduler : DeterministicSessionScheduler) : List (String × PendingSessionEvent) :=
  scheduler.queues.filterMap fun (sourceId, queue) => queue.head?.map fun front => (sourceId, front)

/-- The front of the most urgent lane; of several the one of the smallest source, which comes
first. -/
def urgent : List (String × PendingSessionEvent) → Option (String × PendingSessionEvent)
  | [] => none
  | front :: rest =>
    match urgent rest with
    | some other => if other.2.lane.priority < front.2.lane.priority then some other else some front
    | none => some front

/-- The queues without the head of one; an emptied queue is removed. -/
def popQueue (sourceId : String) (queues : List (String × List PendingSessionEvent)) :
    List (String × List PendingSessionEvent) :=
  (queues.map fun (source, queue) => (source, if source = sourceId then queue.tail else queue)).filter
    fun (source, queue) => source ≠ sourceId || !queue.isEmpty

def popNext (scheduler : DeterministicSessionScheduler) :
    Option (PendingSessionEvent × DeterministicSessionScheduler) :=
  (urgent scheduler.fronts).map fun (sourceId, pending) =>
    (pending, ⟨popQueue sourceId scheduler.queues⟩)

/-- The number of events that wait. -/
def size (scheduler : DeterministicSessionScheduler) : Nat :=
  (scheduler.queues.map (·.2.length)).sum

end DeterministicSessionScheduler

/-! ### The trace and the actor -/

/-- `SessionTraceRing`: the last `cap` records. -/
structure SessionTraceRing where
  cap : Nat
  records : List SessionTraceRecord
deriving DecidableEq, Repr

namespace SessionTraceRing

def new (cap : Nat) : SessionTraceRing := { cap, records := [] }

/-- A full ring drops its oldest records to make room; a ring of capacity zero keeps nothing. -/
def push (ring : SessionTraceRing) (record : SessionTraceRecord) : SessionTraceRing :=
  if ring.cap = 0 then ring
  else
    { ring with
      records := ring.records.drop (ring.records.length + 1 - ring.cap) ++ [record] }

def acceptedEvents (ring : SessionTraceRing) : List AcceptedSessionEvent :=
  ring.records.map (·.accepted)

end SessionTraceRing

structure SessionActor (σ : Type) where
  core : SessionCore σ
  scheduler : DeterministicSessionScheduler
  trace : SessionTraceRing

namespace SessionActor

variable {σ : Type} (engine : TerminalEngine σ)

def new (core : SessionCore σ) (traceCap : Nat) : SessionActor σ :=
  { core, scheduler := .new, trace := .new traceCap }

def enqueue (actor : SessionActor σ) (pending : PendingSessionEvent) : SessionActor σ :=
  { actor with scheduler := actor.scheduler.push pending }

def drainNext (actor : SessionActor σ) : Option (SessionTraceRecord × SessionActor σ) :=
  actor.scheduler.popNext.map fun (pending, scheduler) =>
    let (core, record) := actor.core.acceptPending engine pending
    (record, { core, scheduler, trace := actor.trace.push record })

/-- `drain_ready`, for as many events as may be waiting. -/
def drainReadyFrom (actor : SessionActor σ) : Nat → SessionActor σ × List SessionTraceRecord
  | 0 => (actor, [])
  | fuel + 1 =>
    match actor.drainNext engine with
    | none => (actor, [])
    | some (record, actor) =>
      let (actor, records) := drainReadyFrom actor fuel
      (actor, record :: records)

/-- Every drain takes one event out of the queues, so their number is enough. -/
def drainReady (actor : SessionActor σ) : SessionActor σ × List SessionTraceRecord :=
  actor.drainReadyFrom engine actor.scheduler.size

end SessionActor

end Nmux
