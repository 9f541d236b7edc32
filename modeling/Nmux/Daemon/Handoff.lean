import Nmux.Core.InterimText
import Nmux.Daemon.Output
import Nmux.Host.LocalPty
import Nmux.Lib.Run

/-! The hand-off of a pane's output. The reads of a poll are collected and given to the session as
events of bounded size. Which chunks a poll reads is up to the host; which events come of them is up to
the loop, and the loop forgets what it holds when a read fails. -/
namespace Nmux

open Lib (Along)

/-! ### Reads and events -/

namespace ProcessHost

variable {η : Type} (host : ProcessHost η)

/-- The chunks that the reads of a pane give, up to one that gives none, and the error of that one. -/
def paneReads (paneId : String) : Nat → η → List (List UInt8) × Option HostError
  | 0, _ => ([], none)
  | reads + 1, state =>
    match host.tryReadOutput state paneId with
    | (.error error, _) => ([], some error)
    | (.ok [], _) => ([], none)
    | (.ok chunk, state) => (chunk :: (paneReads paneId reads state).1, (paneReads paneId reads state).2)

/-- Nothing larger than the buffer it was given is read. -/
def Fits : Prop :=
  ∀ state paneId chunk, (host.tryReadOutput state paneId).1 = .ok chunk →
    chunk.length ≤ paneOutputHandoffChunkBytes

end ProcessHost

/-- The chunks of a handoff as one event, if there are any. -/
def flushedOutput (held : List (List UInt8)) : List (List UInt8) :=
  if held.isEmpty then [] else [held.flatten]

/-- The events of a poll, for the chunks in the handoff, those still to be read and how the reads end. -/
def outputEvents : List (List UInt8) → List (List UInt8) → Option HostError → List (List UInt8)
  | held, [], none => flushedOutput held
  | _, [], some _ => []
  | held, chunk :: rest, failure =>
    if paneOutputHandoffMaxChunks ≤ (held ++ [chunk]).length then
      flushedOutput (held ++ [chunk]) ++ outputEvents [] rest failure
    else outputEvents (held ++ [chunk]) rest failure

/-- A poll of a pane, with as many reads as the host has output for. -/
structure PanePoll where
  paneId : String
  sessionMonoMs : UInt64
  reads : Nat
deriving DecidableEq, Repr

/-- No read of the poll fails while the handoff holds something. -/
def PanePoll.Whole {η : Type} (host : ProcessHost η) (poll : PanePoll) (state : η) : Prop :=
  (host.paneReads poll.paneId poll.reads state).2 = none ∨
    paneOutputHandoffMaxChunks ∣ (host.paneReads poll.paneId poll.reads state).1.length

theorem append_eq_append_iff_of_length_le {α : Type} {first rest other last : List α}
    (h : first.length ≤ other.length) (h' : rest.length ≤ last.length) :
    first ++ rest = other ++ last ↔ first = other ∧ rest = last := by
  constructor
  · intro heq
    have hlength := congrArg List.length heq
    rw [List.length_append, List.length_append] at hlength
    exact List.append_inj heq (by omega)
  · rintro ⟨rfl, rfl⟩
    rfl

theorem paneReads_nonempty {η : Type} {host : ProcessHost η} {paneId : String} {reads : Nat} {state : η} :
    ∀ chunk ∈ (host.paneReads paneId reads state).1, chunk ≠ [] := by
  induction reads generalizing state with
  | zero => intro chunk hchunk; cases hchunk
  | succ reads ih =>
    intro chunk hchunk
    rw [ProcessHost.paneReads] at hchunk
    split at hchunk
    · cases hchunk
    · cases hchunk
    case h_3 first after hne heq =>
      rcases List.mem_cons.mp hchunk with rfl | hchunk
      · exact hne
      · exact ih chunk hchunk

theorem paneReads_fits {η : Type} {host : ProcessHost η} (hfits : host.Fits) {paneId : String}
    {reads : Nat} {state : η} :
    ∀ chunk ∈ (host.paneReads paneId reads state).1, chunk.length ≤ paneOutputHandoffChunkBytes := by
  induction reads generalizing state with
  | zero => intro chunk hchunk; cases hchunk
  | succ reads ih =>
    intro chunk hchunk
    rw [ProcessHost.paneReads] at hchunk
    split at hchunk
    · cases hchunk
    · cases hchunk
    case h_3 first after hne heq =>
      rcases List.mem_cons.mp hchunk with rfl | hchunk
      · exact hfits state paneId chunk (by rw [heq])
      · exact ih chunk hchunk

theorem flatten_eq_nil_of_nonempty {held : List (List UInt8)} (h : ∀ chunk ∈ held, chunk ≠ []) :
    held.flatten = [] ↔ held = [] := by
  cases held with
  | nil => simp
  | cons chunk rest =>
    have hchunk := h chunk List.mem_cons_self
    simp [hchunk]

theorem flatten_flushedOutput (held : List (List UInt8)) : (flushedOutput held).flatten = held.flatten := by
  cases held with
  | nil => rfl
  | cons chunk rest => exact List.append_nil _

/-- The events of a poll are no more than what it read. -/
theorem outputEvents_length (held chunks : List (List UInt8)) (failure : Option HostError) :
    (outputEvents held chunks failure).flatten.length ≤ (held ++ chunks).flatten.length := by
  induction chunks generalizing held with
  | nil =>
    rw [List.append_nil]
    cases failure with
    | none => rw [outputEvents, flatten_flushedOutput]
    | some error => exact Nat.zero_le _
  | cons chunk rest ih =>
    rw [outputEvents]
    split
    · rw [List.append_cons held chunk rest, List.flatten_append, List.flatten_append,
        flatten_flushedOutput, List.length_append, List.length_append]
      exact Nat.add_le_add_left (ih []) _
    · rw [List.append_cons held chunk rest]
      exact ih (held ++ [chunk])

/-- **The events of a poll are what it read**, unless a read fails while the handoff holds something. -/
theorem outputEvents_eq_iff {held chunks : List (List UInt8)} {failure : Option HostError}
    (hheld : held.length < paneOutputHandoffMaxChunks) (hne : ∀ chunk ∈ held ++ chunks, chunk ≠ []) :
    (outputEvents held chunks failure).flatten = (held ++ chunks).flatten ↔
      failure = none ∨ paneOutputHandoffMaxChunks ∣ held.length + chunks.length := by
  induction chunks generalizing held with
  | nil =>
    rw [List.append_nil] at hne ⊢
    cases failure with
    | none => simp [outputEvents, flatten_flushedOutput]
    | some error =>
      rw [outputEvents, List.flatten_nil, eq_comm, flatten_eq_nil_of_nonempty hne]
      constructor
      · rintro rfl
        exact .inr (Nat.dvd_zero _)
      · rintro (hnone | hdvd)
        · cases hnone
        · exact List.length_eq_zero_iff.mp (Nat.eq_zero_of_dvd_of_lt hdvd hheld)
  | cons chunk rest ih =>
    have hlength : (held ++ [chunk]).length = held.length + 1 := List.length_append
    rw [outputEvents, List.append_cons held chunk rest]
    rw [List.append_cons held chunk rest] at hne
    split
    case isTrue hfull =>
      have hrest := @ih [] (by decide) fun other hother =>
        hne other (List.mem_append_right _ hother)
      have hmax : held.length + 1 = paneOutputHandoffMaxChunks := by omega
      rw [List.flatten_append, List.flatten_append, flatten_flushedOutput, List.append_cancel_left_eq]
      rw [List.nil_append] at hrest
      rw [hrest, List.length_cons, List.length_nil, Nat.zero_add,
        show held.length + (rest.length + 1) = paneOutputHandoffMaxChunks + rest.length by omega,
        Nat.dvd_add_right (Nat.dvd_refl _)]
    case isFalse hroom =>
      rw [ih (by omega) hne, hlength, List.length_cons,
        show held.length + 1 + rest.length = held.length + (rest.length + 1) by omega]

theorem PanePoll.whole_iff {η : Type} (poll : PanePoll) (host : ProcessHost η) (state : η) :
    (outputEvents [] (host.paneReads poll.paneId poll.reads state).1
        (host.paneReads poll.paneId poll.reads state).2).flatten =
      (host.paneReads poll.paneId poll.reads state).1.flatten ↔ poll.Whole host state := by
  have hiff := @outputEvents_eq_iff [] (host.paneReads poll.paneId poll.reads state).1
    (host.paneReads poll.paneId poll.reads state).2 (by decide) paneReads_nonempty
  rwa [List.nil_append, List.length_nil, Nat.zero_add] at hiff

/-- An event holds at most a full handoff. -/
theorem outputEvents_bound {held chunks : List (List UInt8)} {failure : Option HostError} {limit : Nat}
    (hheld : held.length < paneOutputHandoffMaxChunks)
    (hlimit : ∀ chunk ∈ held ++ chunks, chunk.length ≤ limit) :
    ∀ output ∈ outputEvents held chunks failure, output.length ≤ limit * paneOutputHandoffMaxChunks := by
  have hflush : ∀ part : List (List UInt8), part.length ≤ paneOutputHandoffMaxChunks →
      (∀ chunk ∈ part, chunk.length ≤ limit) →
      ∀ output ∈ flushedOutput part, output.length ≤ limit * paneOutputHandoffMaxChunks := by
    intro part hpart hchunks output houtput
    rw [flushedOutput] at houtput
    split at houtput
    · cases houtput
    · rw [List.mem_singleton.mp houtput, List.length_flatten]
      calc (part.map List.length).sum ≤ (part.map List.length).length • limit :=
            List.sum_le_card_nsmul _ _ (by simpa using hchunks)
        _ ≤ limit * paneOutputHandoffMaxChunks := by
            rw [List.length_map, smul_eq_mul, Nat.mul_comm]
            exact Nat.mul_le_mul_left _ hpart
  induction chunks generalizing held with
  | nil =>
    rw [List.append_nil] at hlimit
    cases failure with
    | none => exact hflush held hheld.le hlimit
    | some error => intro output houtput; cases houtput
  | cons chunk rest ih =>
    have hlength : (held ++ [chunk]).length = held.length + 1 := List.length_append
    rw [List.append_cons held chunk rest] at hlimit
    rw [outputEvents]
    split
    case isTrue =>
      intro output houtput
      rcases List.mem_append.mp houtput with houtput | houtput
      · exact hflush _ (by omega) (fun other hother => hlimit other (List.mem_append_left _ hother)) _ houtput
      · exact ih (by decide) (fun other hother => hlimit other (List.mem_append_right _ hother)) _ houtput
    case isFalse hroom => exact ih (by omega) hlimit

/-! ### What a poll does -/

namespace Daemon

variable {σ η : Type} {engine : TerminalEngine σ} {host : ProcessHost η} {daemon reached last : Daemon σ η}
  {outputs more : List (String × List UInt8)}

/-- The server gets from one daemon to the other, and these are the output events it has the session
actor accept on the way. -/
inductive Delivers (engine : TerminalEngine σ) (daemon : Daemon σ η) :
    List (String × List UInt8) → Daemon σ η → Prop
  | refl : Delivers engine daemon [] daemon
  | called {outputs : List (String × List UInt8)} {reached : Daemon σ η}
      (before : Delivers engine daemon outputs reached) {α : Type} (operation : HostOperation)
      (paneId : String) (result : Except HostError α × η) :
      Delivers engine daemon outputs (reached.called operation paneId result).2
  | wrote {outputs : List (String × List UInt8)} {reached : Daemon σ η}
      (before : Delivers engine daemon outputs reached) (paneId : String) (state : σ) :
      Delivers engine daemon outputs (reached.setEngine paneId state)
  | output {outputs : List (String × List UInt8)} {reached : Daemon σ η}
      (before : Delivers engine daemon outputs reached) (paneId : String) (bytes : List UInt8)
      (sessionMonoMs : UInt64) :
      Delivers engine daemon (outputs ++ [(paneId, bytes)])
        (reached.acceptEvent engine ⟨paneId ++ ":pty", .pane, sessionMonoMs, .paneOutput paneId bytes⟩).1

theorem Delivers.trans (h : Delivers engine daemon outputs reached) (h' : Delivers engine reached more last) :
    Delivers engine daemon (outputs ++ more) last := by
  induction h' with
  | refl => rwa [List.append_nil]
  | called _ operation paneId result ih => exact ih.called operation paneId result
  | wrote _ paneId state ih => exact ih.wrote paneId state
  | output _ paneId bytes sessionMonoMs ih =>
    rw [← List.append_assoc]
    exact ih.output paneId bytes sessionMonoMs

/-- What the host gave for a call, if it is a read of the pane. -/
def callBytes (host : ProcessHost η) (paneId : String) (call : HostCall η) : List UInt8 :=
  if call.operation = .tryReadOutput ∧ call.paneId = paneId then
    match (host.tryReadOutput call.host call.paneId).1 with
    | .ok bytes => bytes
    | .error _ => []
  else []

/-- The bytes read of a pane. -/
def readBytes (host : ProcessHost η) (paneId : String) (daemon : Daemon σ η) : List UInt8 :=
  daemon.calls.flatMap (callBytes host paneId)

/-- The bytes of a pane among the outputs. -/
def outputBytes (paneId : String) (outputs : List (String × List UInt8)) : List UInt8 :=
  outputs.flatMap fun output => if output.1 = paneId then output.2 else []

theorem readBytes_called {α : Type} (daemon : Daemon σ η) (paneId : String) (operation : HostOperation)
    (target : String) (result : Except HostError α × η) :
    readBytes host paneId (daemon.called operation target result).2 = readBytes host paneId daemon ++
      callBytes host paneId ⟨operation, target, daemon.session.leafPaneIds, daemon.host, failureOf result.1⟩ := by
  rw [readBytes, called, List.flatMap_append, List.flatMap_singleton, readBytes]

theorem readBytes_writeInput (daemon : Daemon σ η) (paneId target : String) (bytes : List UInt8) :
    readBytes host paneId (daemon.writeInput host target bytes).2 = readBytes host paneId daemon := by
  rw [writeInput, readBytes_called, callBytes, if_neg (by rintro ⟨h, -⟩; cases h), List.append_nil]

/-- What one poll of a pane gives it. -/
def outputsOf (host : ProcessHost η) (poll : PanePoll) (state : η) :
    List (String × List UInt8) :=
  (outputEvents [] (host.paneReads poll.paneId poll.reads state).1
    (host.paneReads poll.paneId poll.reads state).2).map fun bytes => (poll.paneId, bytes)

theorem flushPaneOutputHandoff_delivers (daemon : Daemon σ η) (paneId : String)
    (chunks : List (List UInt8)) (sessionMonoMs : UInt64) :
    Delivers engine daemon ((flushedOutput chunks).map fun bytes => (paneId, bytes))
      (daemon.flushPaneOutputHandoff engine paneId chunks sessionMonoMs).1 := by
  rw [flushPaneOutputHandoff, flushedOutput]
  split
  · exact .refl
  · exact Delivers.refl.output paneId chunks.flatten sessionMonoMs

theorem flushPaneOutputHandoff_host (engine : TerminalEngine σ) (host : ProcessHost η)
    (daemon : Daemon σ η) (paneId : String) (chunks : List (List UInt8)) (sessionMonoMs : UInt64) :
    (daemon.flushPaneOutputHandoff engine paneId chunks sessionMonoMs).1.host = daemon.host ∧
      ∀ other, readBytes host other (daemon.flushPaneOutputHandoff engine paneId chunks sessionMonoMs).1 =
        readBytes host other daemon := by
  rw [flushPaneOutputHandoff]
  split
  · exact ⟨rfl, fun _ => rfl⟩
  · exact ⟨rfl, fun _ => rfl⟩

/-- One read, with what it gave. -/
theorem tryReadOutput_delivers (engine : TerminalEngine σ) (daemon : Daemon σ η) (paneId : String)
    {answer : Except HostError (List UInt8)} {state : η}
    (hread : host.tryReadOutput daemon.host paneId = (answer, state)) :
    ∃ reached, daemon.tryReadOutput host paneId = (answer, reached) ∧ Delivers engine daemon [] reached ∧
      reached.host = state ∧ ∀ other, readBytes host other reached = readBytes host other daemon ++
        if paneId = other then (match answer with | .ok bytes => bytes | .error _ => []) else [] := by
  refine ⟨(daemon.tryReadOutput host paneId).2, ?_, Delivers.refl.called _ _ _, ?_, fun other => ?_⟩
  · rw [tryReadOutput, hread]
    rfl
  · rw [tryReadOutput, hread]
    rfl
  · rw [tryReadOutput, readBytes_called, callBytes, hread]
    by_cases hother : paneId = other
    · rw [if_pos ⟨rfl, hother⟩, if_pos hother]
    · rw [if_neg fun h => hother h.2, if_neg hother]

/-- The read loop delivers the events of its reads, and has read the chunks. -/
theorem readPaneOutput_delivers (engine : TerminalEngine σ) (host : ProcessHost η) (paneId : String) (sessionMonoMs : UInt64) (reads : Nat)
    (daemon : Daemon σ η) (held : List (List UInt8)) (changed : Bool) :
    let chunks := (host.paneReads paneId reads daemon.host).1
    let after := (readPaneOutput engine host paneId sessionMonoMs reads daemon held changed).2
    Delivers engine daemon ((outputEvents held chunks (host.paneReads paneId reads daemon.host).2).map
        fun bytes => (paneId, bytes)) after ∧
      ∀ other, readBytes host other after = readBytes host other daemon ++
        if paneId = other then chunks.flatten else [] := by
  induction reads generalizing daemon held changed with
  | zero =>
    refine ⟨flushPaneOutputHandoff_delivers daemon paneId held sessionMonoMs, fun other => ?_⟩
    rw [show (host.paneReads paneId 0 daemon.host).1 = [] from rfl, List.flatten_nil, ite_self,
      List.append_nil]
    exact (flushPaneOutputHandoff_host engine host daemon paneId held sessionMonoMs).2 other
  | succ reads ih =>
    rcases hread : host.tryReadOutput daemon.host paneId with ⟨answer, state⟩
    obtain ⟨read, hcall, hdelivers, hhost, hbytes⟩ := tryReadOutput_delivers engine daemon paneId hread
    rw [readPaneOutput, hcall, ProcessHost.paneReads, hread]
    match answer with
    | .error error => exact ⟨hdelivers, hbytes⟩
    | .ok [] =>
      obtain ⟨-, hflushed⟩ := flushPaneOutputHandoff_host engine host read paneId held sessionMonoMs
      refine ⟨hdelivers.trans (flushPaneOutputHandoff_delivers read paneId held sessionMonoMs), fun other => ?_⟩
      rw [List.flatten_nil, ← hbytes other]
      exact hflushed other
    | .ok (byte :: bytes) =>
      dsimp only
      rw [outputEvents]
      split
      case isTrue =>
        obtain ⟨hsame, hflushed⟩ := flushPaneOutputHandoff_host engine host read paneId
          (held ++ [byte :: bytes]) sessionMonoMs
        have hflush := hdelivers.trans (flushPaneOutputHandoff_delivers read paneId
          (held ++ [byte :: bytes]) sessionMonoMs)
        have hrest := ih (read.flushPaneOutputHandoff engine paneId (held ++ [byte :: bytes]) sessionMonoMs).1
          [] (changed || (read.flushPaneOutputHandoff engine paneId (held ++ [byte :: bytes]) sessionMonoMs).2)
        rw [hsame, hhost] at hrest
        refine ⟨?_, fun other => ?_⟩
        · rw [List.map_append]
          exact hflush.trans hrest.1
        · rw [hrest.2 other, hflushed other, hbytes other, List.append_assoc]
          by_cases hother : paneId = other
          · simp [hother]
          · simp [hother]
      case isFalse =>
        have hrest := ih read (held ++ [byte :: bytes]) changed
        rw [hhost] at hrest
        refine ⟨hdelivers.trans hrest.1, fun other => ?_⟩
        rw [hrest.2 other, hbytes other, List.append_assoc]
        by_cases hother : paneId = other
        · simp [hother]
        · simp [hother]

theorem writeInputs_delivers (engine : TerminalEngine σ) (host : ProcessHost η) (daemon : Daemon σ η) (paneId : String)
    (writes : List (List UInt8)) :
    Delivers engine daemon [] (daemon.writeInputs host paneId writes).2 ∧
      ∀ other, readBytes host other (daemon.writeInputs host paneId writes).2 =
        readBytes host other daemon := by
  induction writes generalizing daemon with
  | nil => exact ⟨.refl, fun _ => rfl⟩
  | cons bytes rest ih =>
    have hwrite : Delivers engine daemon [] (daemon.writeInput host paneId bytes).2 :=
      Delivers.refl.called _ _ _
    rw [writeInputs]
    split
    case h_1 error reached heq =>
      obtain rfl : _ = reached := congrArg Prod.snd heq
      exact ⟨hwrite, fun other => readBytes_writeInput daemon other paneId bytes⟩
    case h_2 reached heq =>
      obtain rfl : _ = reached := congrArg Prod.snd heq
      obtain ⟨hrest, hread⟩ := ih (daemon.writeInput host paneId bytes).2
      refine ⟨hwrite.trans hrest, fun other => ?_⟩
      rw [hread other]
      exact readBytes_writeInput daemon other paneId bytes

theorem forwardPtyWrites_delivers (engine : TerminalEngine σ) (host : ProcessHost η)
    (daemon : Daemon σ η) (paneId : String) :
    Delivers engine daemon [] (daemon.forwardPtyWrites engine host paneId).2 ∧
      ∀ other, readBytes host other (daemon.forwardPtyWrites engine host paneId).2 =
        readBytes host other daemon := by
  obtain ⟨hwrites, hread⟩ := writeInputs_delivers engine host
    (daemon.drainPanePtyWrites engine paneId).1 paneId (daemon.drainPanePtyWrites engine paneId).2
  have hdrained : Delivers engine daemon [] (daemon.drainPanePtyWrites engine paneId).1 :=
    Delivers.refl.wrote paneId _
  have hboth : Delivers engine daemon [] _ ∧ ∀ other, readBytes host other _ = readBytes host other daemon :=
    ⟨hdrained.trans hwrites, hread⟩
  rw [forwardPtyWrites]
  dsimp only
  split
  case h_1 error reached heq =>
    obtain rfl : _ = reached := congrArg Prod.snd heq
    exact hboth
  case h_2 reached heq =>
    obtain rfl : _ = reached := congrArg Prod.snd heq
    exact hboth

/-- A poll delivers the events of its reads, and has read their chunks. -/
theorem pollPaneOutput_delivers (engine : TerminalEngine σ) (host : ProcessHost η)
    (daemon : Daemon σ η) (poll : PanePoll) :
    let after := (daemon.pollPaneOutput engine host poll.paneId poll.sessionMonoMs poll.reads).2
    Delivers engine daemon (outputsOf host poll daemon.host) after ∧
      ∀ other, readBytes host other after = readBytes host other daemon ++
        if poll.paneId = other then (host.paneReads poll.paneId poll.reads daemon.host).1.flatten else [] := by
  obtain ⟨hdelivers, hbytes⟩ := readPaneOutput_delivers engine host poll.paneId poll.sessionMonoMs
    poll.reads daemon [] false
  rw [pollPaneOutput]
  split
  case h_1 error read heq =>
    rw [heq] at hdelivers hbytes
    exact ⟨hdelivers, hbytes⟩
  case h_2 changed read heq =>
    rw [heq] at hdelivers hbytes
    obtain ⟨hforward, hread⟩ := forwardPtyWrites_delivers engine host read poll.paneId
    have hboth : Delivers engine daemon (outputsOf host poll daemon.host ++ [])
        (read.forwardPtyWrites engine host poll.paneId).2 ∧
        ∀ other, readBytes host other (read.forwardPtyWrites engine host poll.paneId).2 =
          readBytes host other daemon ++
            if poll.paneId = other then (host.paneReads poll.paneId poll.reads daemon.host).1.flatten
            else [] :=
      ⟨Delivers.trans hdelivers hforward, fun other => (hread other).trans (hbytes other)⟩
    rw [List.append_nil] at hboth
    split
    case h_1 error reached hcall =>
      obtain rfl : _ = reached := congrArg Prod.snd hcall
      exact hboth
    case h_2 wrote reached hcall =>
      obtain rfl : _ = reached := congrArg Prod.snd hcall
      exact hboth

/-! ### Runs of polls -/

/-- A poll, whether it fails or not. -/
def pollStep (engine : TerminalEngine σ) (host : ProcessHost η) (daemon : Daemon σ η) (poll : PanePoll) :
    Daemon σ η :=
  (daemon.pollPaneOutput engine host poll.paneId poll.sessionMonoMs poll.reads).2

/-- The output events of a run of polls. -/
def runOutputs (engine : TerminalEngine σ) (host : ProcessHost η) :
    Daemon σ η → List PanePoll → List (String × List UInt8)
  | _, [] => []
  | daemon, poll :: polls =>
    outputsOf host poll daemon.host ++ runOutputs engine host (pollStep engine host daemon poll) polls

/-- The bytes a run of polls reads of a pane. -/
def runReads (engine : TerminalEngine σ) (host : ProcessHost η) (paneId : String) :
    Daemon σ η → List PanePoll → List UInt8
  | _, [] => []
  | daemon, poll :: polls =>
    (if poll.paneId = paneId then (host.paneReads poll.paneId poll.reads daemon.host).1.flatten else []) ++
      runReads engine host paneId (pollStep engine host daemon poll) polls

theorem runOutputs_delivers (engine : TerminalEngine σ) (host : ProcessHost η) (daemon : Daemon σ η)
    (polls : List PanePoll) :
    Delivers engine daemon (runOutputs engine host daemon polls)
        (Lib.run (pollStep engine host) daemon polls) ∧
      ∀ paneId, readBytes host paneId (Lib.run (pollStep engine host) daemon polls) =
        readBytes host paneId daemon ++ runReads engine host paneId daemon polls := by
  induction polls generalizing daemon with
  | nil => exact ⟨.refl, fun _ => (List.append_nil _).symm⟩
  | cons poll polls ih =>
    obtain ⟨hpoll, hread⟩ := pollPaneOutput_delivers engine host daemon poll
    obtain ⟨hrest, hreads⟩ := ih (pollStep engine host daemon poll)
    refine ⟨hpoll.trans hrest, fun paneId => ?_⟩
    rw [Lib.run_cons, hreads paneId, runReads, ← List.append_assoc, ← hread paneId]
    rfl

theorem outputBytes_outputsOf (poll : PanePoll) (state : η) (paneId : String) :
    outputBytes paneId (outputsOf host poll state) = if poll.paneId = paneId then
      (outputEvents [] (host.paneReads poll.paneId poll.reads state).1
        (host.paneReads poll.paneId poll.reads state).2).flatten else [] := by
  by_cases hpane : poll.paneId = paneId
  · rw [if_pos hpane, outputBytes, outputsOf, List.flatMap_def, List.map_map]
    congr 1
    refine List.map_id'' (fun bytes => ?_) _
    exact if_pos hpane
  · simp [outputBytes, outputsOf, hpane]

theorem outputBytes_length (engine : TerminalEngine σ) (host : ProcessHost η) (daemon : Daemon σ η) (polls : List PanePoll) (paneId : String) :
    (outputBytes paneId (runOutputs engine host daemon polls)).length ≤
      (runReads engine host paneId daemon polls).length := by
  induction polls generalizing daemon with
  | nil => exact Nat.le_refl _
  | cons poll polls ih =>
    rw [runOutputs, outputBytes, List.flatMap_append, List.length_append, runReads, List.length_append]
    refine Nat.add_le_add ?_ (ih _)
    rw [← outputBytes, outputBytes_outputsOf]
    split
    · exact outputEvents_length [] _ _
    · exact Nat.le_refl _

/-- **What the hand-off loses.** The events of a run of polls hold the bytes read of a pane, all of them
and in order, exactly when no poll of the pane fails while it holds chunks that were not flushed. No
event is larger than a full handoff. -/
theorem handoff_lossless_iff (engine : TerminalEngine σ) (host : ProcessHost η) (hfits : host.Fits)
    (daemon : Daemon σ η) (polls : List PanePoll) :
    let outputs := runOutputs engine host daemon polls
    let after := Lib.run (pollStep engine host) daemon polls
    Delivers engine daemon outputs after ∧
      (∀ output ∈ outputs,
        output.2.length ≤ paneOutputHandoffChunkBytes * paneOutputHandoffMaxChunks) ∧
      ∀ paneId, readBytes host paneId after = readBytes host paneId daemon ++ outputBytes paneId outputs ↔
        Along (pollStep engine host)
          (fun daemon poll => poll.paneId = paneId → poll.Whole host daemon.host) daemon polls := by
  obtain ⟨hdelivers, hread⟩ := runOutputs_delivers engine host daemon polls
  refine ⟨hdelivers, ?_, fun paneId => ?_⟩
  · clear hdelivers hread
    induction polls generalizing daemon with
    | nil => intro output houtput; cases houtput
    | cons poll polls ih =>
      intro output houtput
      rcases List.mem_append.mp houtput with houtput | houtput
      · obtain ⟨bytes, hbytes, rfl⟩ := List.mem_map.mp houtput
        exact outputEvents_bound (by decide) (fun chunk hchunk => paneReads_fits hfits chunk hchunk) bytes hbytes
      · exact ih _ output houtput
  · rw [hread paneId, List.append_cancel_left_eq, eq_comm]
    clear hdelivers hread
    induction polls generalizing daemon with
    | nil => exact ⟨fun _ => trivial, fun _ => rfl⟩
    | cons poll polls ih =>
      have hle := outputBytes_length engine host (pollStep engine host daemon poll) polls paneId
      rw [runOutputs, runReads, Lib.Along, ← ih, outputBytes, List.flatMap_append, ← outputBytes,
        ← outputBytes, outputBytes_outputsOf]
      by_cases hpane : poll.paneId = paneId
      · have hwhole := poll.whole_iff host daemon.host
        have hevents := outputEvents_length [] (host.paneReads poll.paneId poll.reads daemon.host).1
          (host.paneReads poll.paneId poll.reads daemon.host).2
        rw [List.nil_append] at hevents
        rw [if_pos hpane, if_pos hpane, append_eq_append_iff_of_length_le hevents hle, hwhole]
        exact ⟨fun h => ⟨fun _ => h.1, h.2⟩, fun h => ⟨h.1 hpane, h.2⟩⟩
      · rw [if_neg hpane, if_neg hpane, List.nil_append, List.nil_append]
        exact ⟨fun h => ⟨fun h => absurd h hpane, h⟩, fun h => h.2⟩

/-- A host that answers reads from a list, and after it has no output. -/
def scriptedHost : ProcessHost (List (Except HostError (List UInt8))) where
  startPane script _ _ := (.ok (), script)
  checkPane script _ := (.ok (), script)
  writeInput script _ _ := (.ok (), script)
  resizePane script _ _ _ := (.ok (), script)
  stopPane script _ := (.ok (), script)
  tryReadOutput script _ :=
    match script with
    | [] => (.ok [], [])
    | .ok bytes :: rest => (.ok (bytes.take paneOutputHandoffChunkBytes), rest)
    | .error error :: rest => (.error error, rest)

theorem scriptedHost_fits : scriptedHost.Fits := by
  intro script paneId chunk hchunk
  match script with
  | [] =>
    cases hchunk
    exact Nat.zero_le _
  | .ok bytes :: rest =>
    cases hchunk
    exact List.length_take_le _ _
  | .error error :: rest => cases hchunk

def scriptedDaemon (script : List (Except HostError (List UInt8))) :
    Daemon InterimAnsiState (List (Except HostError (List UInt8))) :=
  .start interimTextTerminalEngine .initial 16 script

/-- Two polls of a pane that writes `a`, then `b`. -/
theorem handoff_lossless_letters :
    let outputs := runOutputs interimTextTerminalEngine scriptedHost
      (scriptedDaemon [.ok [0x61], .ok [], .ok [0x62]]) [⟨"pane-1", 0, 2⟩, ⟨"pane-1", 0, 2⟩]
    outputs = [("pane-1", [0x61]), ("pane-1", [0x62])] ∧
      readBytes scriptedHost "pane-1" (Lib.run (pollStep interimTextTerminalEngine scriptedHost)
        (scriptedDaemon [.ok [0x61], .ok [], .ok [0x62]]) [⟨"pane-1", 0, 2⟩, ⟨"pane-1", 0, 2⟩]) =
      readBytes scriptedHost "pane-1" (scriptedDaemon [.ok [0x61], .ok [], .ok [0x62]]) ++
        outputBytes "pane-1" outputs := by
  refine ⟨by decide +kernel, ?_⟩
  refine ((handoff_lossless_iff interimTextTerminalEngine scriptedHost scriptedHost_fits
    (scriptedDaemon [.ok [0x61], .ok [], .ok [0x62]]) [⟨"pane-1", 0, 2⟩, ⟨"pane-1", 0, 2⟩]).2.2
    "pane-1").mpr ?_
  exact ⟨fun _ => .inl rfl, fun _ => .inl rfl, trivial⟩

/-- A pane writes `a`, and asking whether its process has exited fails: the `a` is dropped. -/
theorem handoff_drops_read : ¬ ∀ script polls,
    readBytes scriptedHost "pane-1" (Lib.run (pollStep interimTextTerminalEngine scriptedHost)
        (scriptedDaemon script) polls) =
      outputBytes "pane-1" (runOutputs interimTextTerminalEngine scriptedHost (scriptedDaemon script)
        polls) := by
  intro h
  have hlost := h [.ok [0x61], .error (.io "pane-1" "try_wait" "No child processes")] [⟨"pane-1", 0, 2⟩]
  revert hlost
  decide +kernel

end Daemon

/-- The host of this machine reads no more than the buffer holds. -/
theorem localPty_fits {τ ρ : Type} (system : PtySystem τ ρ) (now : τ) :
    (ProcessHost.localPty system now).Fits := by
  intro state paneId chunk hchunk
  have hread : (LocalPtyProcess.tryReadOutput system now paneId paneOutputHandoffChunkBytes
      (state.processes paneId)).1 = .ok chunk := hchunk
  unfold LocalPtyProcess.tryReadOutput at hread
  split at hread
  · cases hread
  · dsimp only at hread
    split at hread
    · cases hread
      exact List.length_take_le _ _
    · split at hread
      · cases hread
        exact Nat.zero_le _
      · split at hread
        · cases hread
        · cases hread
          exact Nat.zero_le _

end Nmux
