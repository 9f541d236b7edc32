import Nmux.Core.Events

/-! The actor between two calls of the server. Every call enqueues one event and drains, so the actor
is found idle and left idle, and what a call does to it is to accept that event. -/
namespace Nmux

variable {σ : Type} (engine : TerminalEngine σ)

namespace SessionActor

/-- No event waits. -/
def Idle (actor : SessionActor σ) : Prop := actor.scheduler = .new

def session (actor : SessionActor σ) : Session := actor.core.session

theorem new_idle (core : SessionCore σ) (traceCap : Nat) : (new core traceCap).Idle := rfl

/-- The actor with one event accepted and recorded. -/
def accepted (actor : SessionActor σ) (pending : PendingSessionEvent) : SessionActor σ where
  core := (actor.core.acceptPending engine pending).1
  scheduler := .new
  trace := actor.trace.push (actor.core.acceptPending engine pending).2

@[simp] theorem accepted_idle (actor : SessionActor σ) (pending : PendingSessionEvent) :
    (actor.accepted engine pending).Idle := rfl

/-- A lone event is the one that is popped, and leaves no queue behind. -/
theorem popNext_push_new (pending : PendingSessionEvent) :
    (DeterministicSessionScheduler.new.push pending).popNext = some (pending, .new) := by
  simp [DeterministicSessionScheduler.new, DeterministicSessionScheduler.push,
    DeterministicSessionScheduler.pushQueue, DeterministicSessionScheduler.popNext,
    DeterministicSessionScheduler.fronts, DeterministicSessionScheduler.urgent,
    DeterministicSessionScheduler.popQueue]

theorem drainNext_new (actor : SessionActor σ) (h : actor.Idle) : actor.drainNext engine = none := by
  rw [drainNext, h]
  rfl

/-- Draining an idle actor with one more event accepts that event and no other. -/
theorem enqueue_drainReady {actor : SessionActor σ} (h : actor.Idle) (pending : PendingSessionEvent) :
    (actor.enqueue pending).drainReady engine =
      (actor.accepted engine pending, [(actor.core.acceptPending engine pending).2]) := by
  have hsize : (actor.enqueue pending).scheduler.size = 1 := by
    rw [enqueue, h]
    rfl
  have hpop : (actor.enqueue pending).drainNext engine =
      some ((actor.core.acceptPending engine pending).2, actor.accepted engine pending) := by
    rw [drainNext, enqueue, h]
    show Option.map _ (DeterministicSessionScheduler.new.push pending).popNext = _
    rw [popNext_push_new]
    rfl
  rw [drainReady, hsize, drainReadyFrom, hpop]
  rfl

/-! ### Calls of the server -/

/-- The event of a call, accepted, and whether any drained event had an effect: what
`enqueue_control_session_event` and the calls around it do. -/
def acceptEvent (actor : SessionActor σ) (pending : PendingSessionEvent) : SessionActor σ × Bool :=
  let (actor, records) := (actor.enqueue pending).drainReady engine
  (actor, records.any fun record => !record.effects.isEmpty)

theorem acceptEvent_actor {actor : SessionActor σ} (h : actor.Idle) (pending : PendingSessionEvent) :
    (actor.acceptEvent engine pending).1 = actor.accepted engine pending := by
  rw [acceptEvent, enqueue_drainReady engine h]

/-- The call reports whether that event had an effect. -/
theorem acceptEvent_changed {actor : SessionActor σ} (h : actor.Idle) (pending : PendingSessionEvent) :
    (actor.acceptEvent engine pending).2 =
      !(actor.core.acceptPending engine pending).2.effects.isEmpty := by
  rw [acceptEvent, enqueue_drainReady engine h]
  simp

end SessionActor

end Nmux
