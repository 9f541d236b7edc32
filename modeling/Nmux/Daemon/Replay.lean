import Nmux.Core.PaneUpdate
import Nmux.Core.InterimText
import Nmux.Daemon.Serves

/-! Replay of a trace. An actor numbers the events it accepts and keeps them with their effects; the
same events applied to a fresh core rebuild the core. What the ring drops is lost, and so is what is
written to the session past the actor. -/
namespace Nmux

variable {σ η : Type}

namespace SessionActor

/-- The ring holds every record: the oldest goes first, so it holds the record of index zero, if any
event was accepted. -/
def KeepsTrace (actor : SessionActor σ) : Prop :=
  actor.core.nextEventIndex = 0 ∨
    ∃ record ∈ actor.trace.records, record.accepted.metadata.eventIndex = 0

/-- Replaying the trace from the session the actor began with ends where the actor is. -/
structure Replays (engine : TerminalEngine σ) (initial : Session) (actor : SessionActor σ) : Prop where
  session : (SessionCore.replayAcceptedEvents engine initial actor.trace.acceptedEvents).1.session =
    actor.session
  effects : (SessionCore.replayAcceptedEvents engine initial actor.trace.acceptedEvents).2 =
    actor.trace.records
  index : (SessionCore.replayAcceptedEvents engine initial actor.trace.acceptedEvents).1.nextEventIndex =
    actor.core.nextEventIndex

/-- What the actor and its trace know of each other. -/
structure Recorded (engine : TerminalEngine σ) (initial : Session) (actor : SessionActor σ) : Prop where
  none : actor.core.nextEventIndex = 0 ∨ actor.trace.cap = 0 → actor.trace.records = []
  later : ∀ record ∈ actor.trace.records.tail, record.accepted.metadata.eventIndex ≠ 0
  replays : actor.KeepsTrace →
    SessionCore.replayAcceptedEvents engine initial actor.trace.acceptedEvents =
      (actor.core, actor.trace.records)

variable {engine : TerminalEngine σ} {initial : Session} {actor : SessionActor σ}

theorem Recorded.toReplays (h : actor.Recorded engine initial) (hkeeps : actor.KeepsTrace) :
    actor.Replays engine initial := by
  have hreplay := h.replays hkeeps
  exact ⟨by rw [hreplay]; rfl, by rw [hreplay], by rw [hreplay]⟩

theorem new_recorded (traceCap : ℕ) : (new (.new engine initial) traceCap).Recorded engine initial where
  none _ := rfl
  later _ hmem := by cases hmem
  replays _ := rfl

theorem satAdd64_one_ne_zero (index : UInt64) : satAdd64 index 1 ≠ 0 := by
  intro h
  have hnat := satAdd64_one_toNat index
  have hlt := index.toNat_lt
  rw [h] at hnat
  rw [UInt64.toNat_zero] at hnat
  split at hnat <;> omega

/-- An event that is accepted is replayed to the same core and the same effects. -/
theorem replayEvent_accepted (core : SessionCore σ) (pending : PendingSessionEvent)
    (records : List SessionTraceRecord) :
    SessionCore.replayEvent engine (core, records) (core.acceptPending engine pending).2.accepted =
      ((core.acceptPending engine pending).1, records ++ [(core.acceptPending engine pending).2]) := by
  have hmax : max core.nextEventIndex (satAdd64 core.nextEventIndex 1) =
      satAdd64 core.nextEventIndex 1 := by
    have hnat := satAdd64_one_toNat core.nextEventIndex
    rw [show max core.nextEventIndex (satAdd64 core.nextEventIndex 1) =
      if core.nextEventIndex ≤ satAdd64 core.nextEventIndex 1 then _ else _ from rfl, if_pos]
    rw [UInt64.le_iff_toNat_le, hnat]
    split <;> omega
  show SessionCore.replayEvent engine (core, records) (core.accepting pending) = _
  unfold SessionCore.replayEvent
  dsimp only
  rw [show (core.accepting pending).metadata.eventIndex = core.nextEventIndex from rfl, hmax]
  rfl

/-- What a push leaves in the ring. -/
theorem push_records (ring : SessionTraceRing) (record : SessionTraceRecord) (h : ring.cap ≠ 0) :
    (ring.push record).records =
      ring.records.drop (ring.records.length + 1 - ring.cap) ++ [record] := by
  rw [SessionTraceRing.push, if_neg h]

theorem acceptPending_nextEventIndex (core : SessionCore σ) (pending : PendingSessionEvent) :
    (core.acceptPending engine pending).1.nextEventIndex = satAdd64 core.nextEventIndex 1 := by
  obtain ⟨sourceId, lane, sessionMonoMs, event⟩ := pending
  cases event <;> rfl

/-- A ring that keeps the record of index zero has dropped nothing. -/
theorem Recorded.drop_eq (h : actor.Recorded engine initial) {record : SessionTraceRecord} {count : ℕ}
    (hmem : record ∈ actor.trace.records.drop count)
    (hzero : record.accepted.metadata.eventIndex = 0) : count = 0 := by
  by_contra hne
  obtain ⟨count, rfl⟩ := Nat.exists_eq_succ_of_ne_zero hne
  rw [← List.drop_tail] at hmem
  exact h.later record (List.mem_of_mem_drop hmem) hzero

/-- Accepting an event keeps the trace in step. -/
theorem Recorded.accepted (h : actor.Recorded engine initial) (pending : PendingSessionEvent) :
    (actor.accepted engine pending).Recorded engine initial := by
  have hindex : (actor.accepted engine pending).core.nextEventIndex ≠ 0 := by
    rw [SessionActor.accepted, acceptPending_nextEventIndex]
    exact satAdd64_one_ne_zero _
  have hcap : (actor.accepted engine pending).trace.cap = actor.trace.cap := by
    rw [SessionActor.accepted, SessionTraceRing.push]
    split <;> rfl
  by_cases hzero : actor.trace.cap = 0
  · have hrecords : (actor.accepted engine pending).trace.records = [] := by
      rw [SessionActor.accepted, SessionTraceRing.push, if_pos hzero]
      exact h.none (.inr hzero)
    refine ⟨fun _ => hrecords, fun record hmem => ?_, fun hkeeps => ?_⟩
    · rw [hrecords] at hmem
      cases hmem
    · obtain ⟨record, hmem, -⟩ := hkeeps.resolve_left hindex
      rw [hrecords] at hmem
      cases hmem
  · have hrecords : (actor.accepted engine pending).trace.records =
        actor.trace.records.drop (actor.trace.records.length + 1 - actor.trace.cap) ++
          [(actor.core.acceptPending engine pending).2] := push_records _ _ hzero
    generalize actor.trace.records.length + 1 - actor.trace.cap = dropped at hrecords
    refine ⟨fun hnone => ?_, fun record hmem => ?_, fun hkeeps => ?_⟩
    · rw [hcap] at hnone
      exact absurd hnone (not_or.mpr ⟨hindex, hzero⟩)
    · rw [hrecords] at hmem
      cases hkept : actor.trace.records.drop dropped with
      | nil =>
        rw [hkept] at hmem
        cases hmem
      | cons oldest rest =>
        rw [hkept, List.cons_append, List.tail_cons, List.mem_append] at hmem
        rcases hmem with hmem | hmem
        · have htail : (actor.trace.records.drop dropped).tail = rest := by rw [hkept]; rfl
          rw [← htail, List.tail_drop, ← List.drop_tail] at hmem
          exact h.later record (List.mem_of_mem_drop hmem)
        · obtain rfl := List.mem_singleton.mp hmem
          intro hfirst
          rw [h.none (.inl hfirst), List.drop_nil] at hkept
          cases hkept
    · obtain ⟨record, hmem, hfirst⟩ := hkeeps.resolve_left hindex
      have hkept : actor.KeepsTrace ∧ actor.trace.records.drop dropped = actor.trace.records := by
        rw [hrecords, List.mem_append] at hmem
        rcases hmem with hmem | hmem
        · obtain rfl := h.drop_eq hmem hfirst
          exact ⟨.inr ⟨record, hmem, hfirst⟩, rfl⟩
        · obtain rfl := List.mem_singleton.mp hmem
          refine ⟨.inl hfirst, ?_⟩
          rw [h.none (.inl hfirst), List.drop_nil]
      rw [SessionTraceRing.acceptedEvents, hrecords, hkept.2, List.map_append,
        SessionCore.replayAcceptedEvents, List.foldl_append]
      have hbefore := h.replays hkept.1
      rw [SessionCore.replayAcceptedEvents, SessionTraceRing.acceptedEvents] at hbefore
      rw [hbefore]
      exact replayEvent_accepted _ _ _

end SessionActor

/-- Engines that answer without changing. -/
def TerminalEngine.Still (engine : TerminalEngine σ) : Prop :=
  ∀ state after, engine.Moves state after → after = state

theorem interimTextTerminalEngine_still : interimTextTerminalEngine.Still := by
  intro state after h
  cases h <;> rfl

namespace Daemon

variable {engine : TerminalEngine σ} {initial : Session}

/-- **What the server does is on record**: if engines answer without changing, events, host calls and
engines leave a trace that replays. -/
theorem Serves.recorded {okEvent : Session → SessionEvent → Prop} {okCall : HostCall η → Prop}
    {daemon reached : Daemon σ η} (hstill : engine.Still)
    (h : Serves engine okEvent okCall daemon reached) (hinit : daemon.actor.Recorded engine initial) :
    reached.actor.Recorded engine initial := by
  induction h with
  | refl => exact hinit
  | event pending _ _ ih => exact ih.accepted pending
  | host state calls _ _ ih => exact ih
  | engine paneId state _ moves ih =>
    rw [hstill _ _ moves, setEngine, Function.update_eq_self]
    exact ih

end Daemon

end Nmux
