import Nmux.Daemon.Serves
import Nmux.Core.SessionNodes

/-! Pane output and pane sizes. The server reads what a pane's process wrote, hands it to the session
in bounded pieces, and writes back what the engine answers; a committed resize goes the same way. -/
namespace Nmux

def paneOutputHandoffMaxChunks : Nat := 16

namespace Daemon

variable {σ η : Type} (engine : TerminalEngine σ) (host : ProcessHost η)

/-- `flush_pane_output_handoff_to_session_actor`: the chunks read so far, as one event. -/
def flushPaneOutputHandoff (daemon : Daemon σ η) (paneId : String) (chunks : List (List UInt8))
    (sessionMonoMs : UInt64) : Daemon σ η × Bool :=
  if chunks.isEmpty then (daemon, false)
  else daemon.acceptEvent engine ⟨paneId ++ ":pty", .pane, sessionMonoMs, .paneOutput paneId chunks.flatten⟩

/-- `drain_pane_pty_writes`. -/
def drainPanePtyWrites (daemon : Daemon σ η) (paneId : String) : Daemon σ η × List (List UInt8) :=
  let (state, writes) := engine.drainPtyWrites (daemon.actor.core.terminalEngines paneId)
  (daemon.setEngine paneId state, writes)

/-- Writes to a pane in order, up to the first that fails. -/
def writeInputs (daemon : Daemon σ η) (paneId : String) :
    List (List UInt8) → Except HostError Unit × Daemon σ η
  | [] => (.ok (), daemon)
  | bytes :: rest =>
    match daemon.writeInput host paneId bytes with
    | (.error err, daemon) => (.error err, daemon)
    | (.ok _, daemon) => writeInputs daemon paneId rest

/-- What the engine has for the process, written; whether there was any. -/
def forwardPtyWrites (daemon : Daemon σ η) (paneId : String) : Except HostError Bool × Daemon σ η :=
  let (daemon, writes) := daemon.drainPanePtyWrites engine paneId
  match daemon.writeInputs host paneId writes with
  | (.error err, daemon) => (.error err, daemon)
  | (.ok _, daemon) => (.ok !writes.isEmpty, daemon)

/-- The read loop of `poll_pane_output_with_session_actor`, for as many reads as the host has output
for. A full handoff is flushed at once, what is left at the end. -/
def readPaneOutput (paneId : String) (sessionMonoMs : UInt64) :
    Nat → Daemon σ η → List (List UInt8) → Bool → Except HostError Bool × Daemon σ η
  | 0, daemon, chunks, changed =>
    let (daemon, flushed) := daemon.flushPaneOutputHandoff engine paneId chunks sessionMonoMs
    (.ok (changed || flushed), daemon)
  | reads + 1, daemon, chunks, changed =>
    match daemon.tryReadOutput host paneId with
    | (.error err, daemon) => (.error err, daemon)
    | (.ok [], daemon) =>
      let (daemon, flushed) := daemon.flushPaneOutputHandoff engine paneId chunks sessionMonoMs
      (.ok (changed || flushed), daemon)
    | (.ok chunk, daemon) =>
      if paneOutputHandoffMaxChunks ≤ (chunks ++ [chunk]).length then
        let (daemon, flushed) :=
          daemon.flushPaneOutputHandoff engine paneId (chunks ++ [chunk]) sessionMonoMs
        readPaneOutput paneId sessionMonoMs reads daemon [] (changed || flushed)
      else readPaneOutput paneId sessionMonoMs reads daemon (chunks ++ [chunk]) changed

/-- `poll_pane_output_with_session_actor`. -/
def pollPaneOutput (daemon : Daemon σ η) (paneId : String) (sessionMonoMs : UInt64) (reads : Nat) :
    Except HostError Bool × Daemon σ η :=
  match readPaneOutput engine host paneId sessionMonoMs reads daemon [] false with
  | (.error err, daemon) => (.error err, daemon)
  | (.ok changed, daemon) =>
    match daemon.forwardPtyWrites engine host paneId with
    | (.error err, daemon) => (.error err, daemon)
    | (.ok wrote, daemon) => (.ok (changed || wrote), daemon)

/-- Panes polled in order, up to the first that fails. -/
def pollPanes (daemon : Daemon σ η) (sessionMonoMs : UInt64) (reads : Nat) :
    List String → Except HostError Bool × Daemon σ η
  | [] => (.ok false, daemon)
  | paneId :: rest =>
    match daemon.pollPaneOutput engine host paneId sessionMonoMs reads with
    | (.error err, daemon) => (.error err, daemon)
    | (.ok changed, daemon) =>
      match pollPanes daemon sessionMonoMs reads rest with
      | (.error err, daemon) => (.error err, daemon)
      | (.ok rest, daemon) => (.ok (changed || rest), daemon)

/-- `poll_panes_output_with_session_actor_once`: the panes that had input first. -/
def pollPanesOnce (daemon : Daemon σ η) (paneIds priorityPaneIds : List String)
    (sessionMonoMs : UInt64) (reads : Nat) : Except HostError Bool × Daemon σ η :=
  daemon.pollPanes engine host sessionMonoMs reads
    (priorityPaneIds ++ paneIds.filter fun paneId => paneId ∉ priorityPaneIds)

/-- The loops that poll until the panes are quiet. When they stop is a matter of time, so the number
of rounds is given. -/
def pollPanesUntilQuiet (daemon : Daemon σ η) (paneIds : List String) (sessionMonoMs : UInt64)
    (reads : Nat) : Nat → Except HostError Bool × Daemon σ η
  | 0 => (.ok false, daemon)
  | rounds + 1 =>
    match daemon.pollPanes engine host sessionMonoMs reads paneIds with
    | (.error err, daemon) => (.error err, daemon)
    | (.ok changed, daemon) =>
      match pollPanesUntilQuiet daemon paneIds sessionMonoMs reads rounds with
      | (.error err, daemon) => (.error err, daemon)
      | (.ok rest, daemon) => (.ok (changed || rest), daemon)

/-- `commit_pane_resize_with_session_actor`. -/
def commitPaneResize (daemon : Daemon σ η) (sourceId paneId : String) (cols rows : UInt32)
    (sessionMonoMs : UInt64) : Except HostError Bool × Daemon σ η :=
  let (daemon, changed) := daemon.acceptEvent engine
    ⟨sourceId, .client, sessionMonoMs, .commitPaneResize paneId cols rows⟩
  match daemon.forwardPtyWrites engine host paneId with
  | (.error err, daemon) => (.error err, daemon)
  | (.ok _, daemon) => (.ok changed, daemon)

/-- `accept_pane_input_with_session_actor`. -/
def acceptPaneInput (daemon : Daemon σ η) (sourceId paneId : String) (inputSeq : UInt64)
    (bytes : List UInt8) (sessionMonoMs : UInt64) : Daemon σ η :=
  (daemon.acceptEvent engine
    ⟨sourceId, .client, sessionMonoMs, .forwardPaneInput paneId inputSeq bytes⟩).1

end Daemon

/-! ### What they do to the daemon -/

namespace Daemon

variable {σ η : Type} {engine : TerminalEngine σ} {host : ProcessHost η}
  {okEvent : Session → SessionEvent → Prop} {okCall : HostCall η → Prop} {daemon : Daemon σ η}
  {paneId : String} {sessionMonoMs : UInt64} {reads : Nat}

/-- What is allowed of a pane that is written to. -/
def WritesAllowed (host : ProcessHost η) (okCall : HostCall η → Prop) (paneId : String)
    (leafPaneIds : List String) : Prop :=
  ∀ state bytes, okCall ⟨.writeInput, paneId, leafPaneIds, state,
    failureOf (host.writeInput state paneId bytes).1⟩

@[simp] theorem called_session {α : Type} (daemon : Daemon σ η) (operation : HostOperation)
    (paneId : String) (result : Except HostError α × η) :
    (daemon.called operation paneId result).2.session = daemon.session := rfl

theorem flushPaneOutputHandoff_serves (hidle : daemon.actor.Idle) (chunks : List (List UInt8))
    (ok : ∀ session bytes, okEvent session (.paneOutput paneId bytes)) :
    Serves engine okEvent okCall daemon
      (daemon.flushPaneOutputHandoff engine paneId chunks sessionMonoMs).1 := by
  rw [flushPaneOutputHandoff]
  split
  · exact .refl _
  · exact (Serves.refl daemon).acceptEvent hidle _ (ok _ _)

theorem writeInputs_serves (host : ProcessHost η) (writes : List (List UInt8))
    (ok : WritesAllowed host okCall paneId daemon.session.leafPaneIds) :
    Serves engine okEvent okCall daemon (daemon.writeInputs host paneId writes).2 := by
  induction writes generalizing daemon with
  | nil => exact .refl _
  | cons bytes rest ih =>
    have hwrite : Serves engine okEvent okCall daemon (daemon.writeInput host paneId bytes).2 :=
      (Serves.refl daemon).called (ok _ _)
    rw [writeInputs]
    split
    case h_1 err reached heq =>
      obtain rfl : _ = reached := congrArg Prod.snd heq
      exact hwrite
    case h_2 reached heq =>
      obtain rfl : _ = reached := congrArg Prod.snd heq
      exact hwrite.trans (ih ok)

theorem drainPanePtyWrites_serves :
    Serves engine okEvent okCall daemon (daemon.drainPanePtyWrites engine paneId).1 :=
  (Serves.refl daemon).engine paneId _ .drain

theorem forwardPtyWrites_serves (host : ProcessHost η)
    (ok : WritesAllowed host okCall paneId daemon.session.leafPaneIds) :
    Serves engine okEvent okCall daemon (daemon.forwardPtyWrites engine host paneId).2 := by
  have hdrain : Serves engine okEvent okCall daemon (daemon.drainPanePtyWrites engine paneId).1 :=
    drainPanePtyWrites_serves
  have hwrites := hdrain.trans
    (writeInputs_serves host (daemon.drainPanePtyWrites engine paneId).2 ok)
  simp only [forwardPtyWrites]
  split
  case h_1 err reached heq =>
    obtain rfl : _ = reached := congrArg Prod.snd heq
    exact hwrites
  case h_2 reached heq =>
    obtain rfl : _ = reached := congrArg Prod.snd heq
    exact hwrites

/-- Output, resizes and input of a pane change no leaf. -/
theorem acceptPending_leafPaneIds {core : SessionCore σ} {pending : PendingSessionEvent}
    (h : (∃ paneId bytes, pending.event = .paneOutput paneId bytes) ∨
      (∃ paneId cols rows, pending.event = .commitPaneResize paneId cols rows) ∨
      ∃ paneId inputSeq bytes, pending.event = .forwardPaneInput paneId inputSeq bytes) :
    (core.acceptPending engine pending).1.session.leafPaneIds = core.session.leafPaneIds := by
  show (SessionCore.applyAccepted engine { core with nextEventIndex := _ }
    (core.accepting pending)).1.session.leafPaneIds = _
  rcases h with ⟨paneId, bytes, hevent⟩ | ⟨paneId, cols, rows, hevent⟩ | ⟨paneId, inputSeq, bytes, hevent⟩
  · simp only [SessionCore.applyAccepted, SessionCore.accepting, hevent]
    exact Session.applyPaneOutput_leafPaneIds _ _ _ _ _
  · simp only [SessionCore.applyAccepted, SessionCore.accepting, hevent]
    exact Session.commitPaneResize_leafPaneIds _ _ _ _ _ _
  · simp only [SessionCore.applyAccepted, SessionCore.accepting, hevent]

theorem acceptEvent_session (hidle : daemon.actor.Idle) (pending : PendingSessionEvent) :
    (daemon.acceptEvent engine pending).1.session =
      (daemon.actor.core.acceptPending engine pending).1.session := by
  show (daemon.actor.acceptEvent engine pending).1.session = _
  rw [SessionActor.acceptEvent_actor engine hidle]
  rfl

theorem commitPaneResize_serves (hidle : daemon.actor.Idle) {sourceId : String} {cols rows : UInt32}
    (ok : okEvent daemon.session (.commitPaneResize paneId cols rows))
    (okWrites : WritesAllowed host okCall paneId daemon.session.leafPaneIds) :
    Serves engine okEvent okCall daemon
      (daemon.commitPaneResize engine host sourceId paneId cols rows sessionMonoMs).2 := by
  have haccept : Serves engine okEvent okCall daemon (daemon.acceptEvent engine
      ⟨sourceId, .client, sessionMonoMs, .commitPaneResize paneId cols rows⟩).1 :=
    (Serves.refl daemon).acceptEvent hidle _ ok
  have hleaves : WritesAllowed host okCall paneId (daemon.acceptEvent engine
      ⟨sourceId, .client, sessionMonoMs, .commitPaneResize paneId cols rows⟩).1.session.leafPaneIds := by
    rw [acceptEvent_session hidle, acceptPending_leafPaneIds (.inr (.inl ⟨_, _, _, rfl⟩))]
    exact okWrites
  have hforward := haccept.trans (forwardPtyWrites_serves host hleaves)
  simp only [commitPaneResize]
  split
  case h_1 err reached heq =>
    obtain rfl : _ = reached := congrArg Prod.snd heq
    exact hforward
  case h_2 reached heq =>
    obtain rfl : _ = reached := congrArg Prod.snd heq
    exact hforward

theorem writeInputs_session (host : ProcessHost η) (daemon : Daemon σ η) (paneId : String)
    (writes : List (List UInt8)) : (daemon.writeInputs host paneId writes).2.session = daemon.session := by
  induction writes generalizing daemon with
  | nil => rfl
  | cons bytes rest ih =>
    rw [writeInputs]
    split
    case h_1 err reached heq =>
      obtain rfl : _ = reached := congrArg Prod.snd heq
      rfl
    case h_2 reached heq =>
      obtain rfl : _ = reached := congrArg Prod.snd heq
      exact ih _

theorem forwardPtyWrites_session (host : ProcessHost η) (daemon : Daemon σ η) (paneId : String) :
    (daemon.forwardPtyWrites engine host paneId).2.session = daemon.session := by
  have hwrites := writeInputs_session host (daemon.drainPanePtyWrites engine paneId).1 paneId
    (daemon.drainPanePtyWrites engine paneId).2
  simp only [forwardPtyWrites]
  split
  case h_1 err reached heq =>
    obtain rfl : _ = reached := congrArg Prod.snd heq
    exact hwrites
  case h_2 reached heq =>
    obtain rfl : _ = reached := congrArg Prod.snd heq
    exact hwrites

/-- A committed resize leaves the session as the event does; the writes that follow are the host's. -/
theorem commitPaneResize_session (hidle : daemon.actor.Idle) (sourceId : String) (cols rows : UInt32) :
    (daemon.commitPaneResize engine host sourceId paneId cols rows sessionMonoMs).2.session =
      (daemon.session.commitPaneResizeWithEngine engine paneId cols rows
        (daemon.actor.core.terminalEngines paneId)).1 := by
  have haccept : (daemon.acceptEvent engine
      ⟨sourceId, .client, sessionMonoMs, .commitPaneResize paneId cols rows⟩).1.session =
      (daemon.session.commitPaneResizeWithEngine engine paneId cols rows
        (daemon.actor.core.terminalEngines paneId)).1 := acceptEvent_session hidle _
  have hforward : (Daemon.forwardPtyWrites engine host (daemon.acceptEvent engine
      ⟨sourceId, .client, sessionMonoMs, .commitPaneResize paneId cols rows⟩).1 paneId).2.session =
      (daemon.acceptEvent engine
        ⟨sourceId, .client, sessionMonoMs, .commitPaneResize paneId cols rows⟩).1.session :=
    forwardPtyWrites_session host _ paneId
  rw [← haccept, ← hforward]
  simp only [commitPaneResize]
  split <;> (rename_i heq; rw [heq])

/-- A resize that is said to have changed nothing has left the session alone. -/
theorem commitPaneResize_unchanged (hidle : daemon.actor.Idle) {sourceId : String} {cols rows : UInt32}
    (h : (daemon.commitPaneResize engine host sourceId paneId cols rows sessionMonoMs).1 = .ok false) :
    (daemon.commitPaneResize engine host sourceId paneId cols rows sessionMonoMs).2.session =
      daemon.session := by
  have hevent : (daemon.acceptEvent engine
      ⟨sourceId, .client, sessionMonoMs, .commitPaneResize paneId cols rows⟩).2 = false := by
    simp only [commitPaneResize] at h
    split at h
    · cases h
    · exact Except.ok.inj h
  have heffects : (SessionCore.applyPaneResizeEvent engine
      { daemon.actor.core with nextEventIndex := satAdd64 daemon.actor.core.nextEventIndex 1 }
      daemon.actor.core.nextEventIndex paneId cols rows).2.isEmpty = true := by
    rw [← Bool.not_eq_false']
    exact (SessionActor.acceptEvent_changed engine hidle _).symm.trans hevent
  have hrefused : (daemon.session.commitPaneResizeWithEngine engine paneId cols rows
      (daemon.actor.core.terminalEngines paneId)).2.2 = false := by
    show (daemon.actor.core.session.commitPaneResizeWithEngine engine paneId cols rows
      (daemon.actor.core.terminalEngines paneId)).2.2 = false
    by_contra hchanged
    simp [SessionCore.applyPaneResizeEvent, hchanged] at heffects
  rw [commitPaneResize_session hidle, Session.commitPaneResize_refused engine _ _ _ hrefused]

/-! ### Polls -/

/-- Every read of the pane is allowed while these are the leaves. -/
def ReadsAllowed (host : ProcessHost η) (okCall : HostCall η → Prop) (paneId : String)
    (leafPaneIds : List String) : Prop :=
  ∀ state, okCall ⟨.tryReadOutput, paneId, leafPaneIds, state,
    failureOf (host.tryReadOutput state paneId).1⟩

theorem flushPaneOutputHandoff_leafPaneIds (hidle : daemon.actor.Idle) (chunks : List (List UInt8)) :
    (daemon.flushPaneOutputHandoff engine paneId chunks sessionMonoMs).1.session.leafPaneIds =
      daemon.session.leafPaneIds := by
  rw [flushPaneOutputHandoff]
  split
  · rfl
  · rw [acceptEvent_session hidle]
    exact acceptPending_leafPaneIds (.inl ⟨_, _, rfl⟩)

theorem readPaneOutput_serves (hidle : daemon.actor.Idle) (reads : Nat) (chunks : List (List UInt8))
    (changed : Bool) (ok : ∀ session bytes, okEvent session (.paneOutput paneId bytes))
    (okReads : ReadsAllowed host okCall paneId daemon.session.leafPaneIds) :
    Serves engine okEvent okCall daemon
        (readPaneOutput engine host paneId sessionMonoMs reads daemon chunks changed).2 ∧
      (readPaneOutput engine host paneId sessionMonoMs reads daemon chunks changed).2.session.leafPaneIds =
        daemon.session.leafPaneIds := by
  induction reads generalizing daemon chunks changed with
  | zero => exact ⟨flushPaneOutputHandoff_serves hidle chunks ok, flushPaneOutputHandoff_leafPaneIds hidle _⟩
  | succ reads ih =>
    have hread : Serves engine okEvent okCall daemon (daemon.tryReadOutput host paneId).2 :=
      (Serves.refl daemon).called (okReads _)
    have hidle' : (daemon.tryReadOutput host paneId).2.actor.Idle := hidle
    unfold readPaneOutput
    split
    case h_1 err reached heq =>
      obtain rfl : _ = reached := congrArg Prod.snd heq
      exact ⟨hread, rfl⟩
    case h_2 reached heq =>
      obtain rfl : _ = reached := congrArg Prod.snd heq
      exact ⟨hread.trans (flushPaneOutputHandoff_serves hidle' chunks ok),
        flushPaneOutputHandoff_leafPaneIds hidle' _⟩
    case h_3 chunk reached _ heq =>
      obtain rfl : _ = reached := congrArg Prod.snd heq
      split
      · have hflush : Serves engine okEvent okCall (daemon.tryReadOutput host paneId).2
            ((daemon.tryReadOutput host paneId).2.flushPaneOutputHandoff engine paneId
              (chunks ++ [chunk]) sessionMonoMs).1 :=
          flushPaneOutputHandoff_serves hidle' _ ok
        have hleaves : ((daemon.tryReadOutput host paneId).2.flushPaneOutputHandoff engine paneId
            (chunks ++ [chunk]) sessionMonoMs).1.session.leafPaneIds = daemon.session.leafPaneIds :=
          flushPaneOutputHandoff_leafPaneIds hidle' _
        obtain ⟨hrest, hsame⟩ := ih (hflush.idle hidle) [] _ (hleaves ▸ okReads)
        exact ⟨(hread.trans hflush).trans hrest, hsame.trans hleaves⟩
      · obtain ⟨hrest, hsame⟩ := ih hidle' (chunks ++ [chunk]) changed okReads
        exact ⟨hread.trans hrest, hsame⟩

/-- A poll of a pane reaches the session through output of that pane only. -/
theorem pollPaneOutput_serves (hidle : daemon.actor.Idle) (reads : Nat)
    (ok : ∀ session bytes, okEvent session (.paneOutput paneId bytes))
    (okReads : ReadsAllowed host okCall paneId daemon.session.leafPaneIds)
    (okWrites : WritesAllowed host okCall paneId daemon.session.leafPaneIds) :
    Serves engine okEvent okCall daemon
        (daemon.pollPaneOutput engine host paneId sessionMonoMs reads).2 ∧
      (daemon.pollPaneOutput engine host paneId sessionMonoMs reads).2.session.leafPaneIds =
        daemon.session.leafPaneIds := by
  obtain ⟨hread, hleaves⟩ := readPaneOutput_serves  hidle
    reads [] false ok okReads
  unfold pollPaneOutput
  split
  case h_1 err reached heq =>
    rw [heq] at hread hleaves
    exact ⟨hread, hleaves⟩
  case h_2 changed reached heq =>
    rw [heq] at hread hleaves
    have hforward : Serves engine okEvent okCall reached (reached.forwardPtyWrites engine host paneId).2 :=
      forwardPtyWrites_serves host (hleaves ▸ okWrites)
    have hsame : (reached.forwardPtyWrites engine host paneId).2.session = reached.session :=
      forwardPtyWrites_session host reached paneId
    split
    case h_1 err last heq =>
      rw [heq] at hforward hsame
      exact ⟨hread.trans hforward, (congrArg Session.leafPaneIds hsame).trans hleaves⟩
    case h_2 wrote last heq =>
      rw [heq] at hforward hsame
      exact ⟨hread.trans hforward, (congrArg Session.leafPaneIds hsame).trans hleaves⟩

theorem pollPanes_serves (hidle : daemon.actor.Idle) (reads : Nat) (paneIds : List String)
    (ok : ∀ paneId ∈ paneIds, ∀ session bytes, okEvent session (.paneOutput paneId bytes))
    (okReads : ∀ paneId ∈ paneIds, ReadsAllowed host okCall paneId daemon.session.leafPaneIds)
    (okWrites : ∀ paneId ∈ paneIds, WritesAllowed host okCall paneId daemon.session.leafPaneIds) :
    Serves engine okEvent okCall daemon
        (daemon.pollPanes engine host sessionMonoMs reads paneIds).2 ∧
      (daemon.pollPanes engine host sessionMonoMs reads paneIds).2.session.leafPaneIds =
        daemon.session.leafPaneIds := by
  induction paneIds generalizing daemon with
  | nil => exact ⟨.refl _, rfl⟩
  | cons paneId rest ih =>
    obtain ⟨hfirst, hleaves⟩ := pollPaneOutput_serves 
      hidle reads (ok paneId List.mem_cons_self) (okReads paneId List.mem_cons_self)
      (okWrites paneId List.mem_cons_self)
    unfold pollPanes
    split
    case h_1 err reached heq =>
      rw [heq] at hfirst hleaves
      exact ⟨hfirst, hleaves⟩
    case h_2 changed reached heq =>
      rw [heq] at hfirst hleaves
      obtain ⟨hrest, hsame⟩ := ih (hfirst.idle hidle)
        (fun paneId hmem => ok paneId (List.mem_cons_of_mem _ hmem))
        (fun paneId hmem => hleaves ▸ okReads paneId (List.mem_cons_of_mem _ hmem))
        (fun paneId hmem => hleaves ▸ okWrites paneId (List.mem_cons_of_mem _ hmem))
      split
      case h_1 err last heq =>
        rw [heq] at hrest hsame
        exact ⟨hfirst.trans hrest, hsame.trans hleaves⟩
      case h_2 more last heq =>
        rw [heq] at hrest hsame
        exact ⟨hfirst.trans hrest, hsame.trans hleaves⟩

theorem pollPanesUntilQuiet_serves (hidle : daemon.actor.Idle) (reads rounds : Nat)
    (paneIds : List String)
    (ok : ∀ paneId ∈ paneIds, ∀ session bytes, okEvent session (.paneOutput paneId bytes))
    (okReads : ∀ paneId ∈ paneIds, ReadsAllowed host okCall paneId daemon.session.leafPaneIds)
    (okWrites : ∀ paneId ∈ paneIds, WritesAllowed host okCall paneId daemon.session.leafPaneIds) :
    Serves engine okEvent okCall daemon
        (daemon.pollPanesUntilQuiet engine host paneIds sessionMonoMs reads rounds).2 ∧
      (daemon.pollPanesUntilQuiet engine host paneIds sessionMonoMs reads rounds).2.session.leafPaneIds =
        daemon.session.leafPaneIds := by
  induction rounds generalizing daemon with
  | zero => exact ⟨.refl _, rfl⟩
  | succ rounds ih =>
    obtain ⟨hround, hleaves⟩ := pollPanes_serves  hidle
      reads paneIds ok okReads okWrites
    unfold pollPanesUntilQuiet
    split
    case h_1 err reached heq =>
      rw [heq] at hround hleaves
      exact ⟨hround, hleaves⟩
    case h_2 changed reached heq =>
      rw [heq] at hround hleaves
      obtain ⟨hrest, hsame⟩ := ih (hround.idle hidle) (hleaves ▸ okReads) (hleaves ▸ okWrites)
      split
      case h_1 err last heq =>
        rw [heq] at hrest hsame
        exact ⟨hround.trans hrest, hsame.trans hleaves⟩
      case h_2 more last heq =>
        rw [heq] at hrest hsame
        exact ⟨hround.trans hrest, hsame.trans hleaves⟩

end Daemon

end Nmux
