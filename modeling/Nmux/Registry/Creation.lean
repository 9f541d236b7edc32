import Nmux.Registry.Kill

/-! New sessions. A command for a new session that is refused should leave the registry and the running
panes as they were, and the daemon serving; one that is taken should add one session and start its panes.
Only the refusals that are answered with an error frame do: whatever else fails ends the daemon, with
the panes running that were started before. -/
namespace Nmux

open Live (ServeError ClientStream ClientInitialFrame Connection ServerFrame)
open ScopedLocalPtyHost (hostPaneId)
open Lib (OrderedMap)

/-! ### Running panes -/

/-- The host with a list of the panes that it has started and not stopped since. -/
def ProcessHost.tracking {η : Type} (host : ProcessHost η) : ProcessHost (η × List String) :=
  let keep {α : Type} (running : List String) (answer : Except HostError α × η) :
      Except HostError α × η × List String := (answer.1, answer.2, running)
  { startPane state paneId spec :=
      match host.startPane state.1 paneId spec with
      | (.ok _, next) => (.ok (), next, state.2 ++ [paneId])
      | (.error error, next) => (.error error, next, state.2)
    checkPane state paneId := keep state.2 (host.checkPane state.1 paneId)
    writeInput state paneId bytes := keep state.2 (host.writeInput state.1 paneId bytes)
    resizePane state paneId cols rows := keep state.2 (host.resizePane state.1 paneId cols rows)
    stopPane state paneId :=
      match host.stopPane state.1 paneId with
      | (.ok _, next) => (.ok (), next, state.2.filter (· ≠ paneId))
      | (.error error, next) => (.error error, next, state.2)
    tryReadOutput state paneId := keep state.2 (host.tryReadOutput state.1 paneId) }

/-- Reads and writes start and stop nothing. -/
structure ProcessHost.KeepsRunning {η : Type} (host : ProcessHost (η × List String)) : Prop where
  read : ∀ state paneId, (host.tryReadOutput state paneId).2.2 = state.2
  write : ∀ state paneId bytes, (host.writeInput state paneId bytes).2.2 = state.2

theorem ProcessHost.tracking_keepsRunning {η : Type} (host : ProcessHost η) (sessionId : String) :
    (host.tracking.scopedTo sessionId).KeepsRunning :=
  ⟨fun _ _ => rfl, fun _ _ _ => rfl⟩

/-! ### Polls -/

namespace Daemon

variable {σ η : Type} {engine : TerminalEngine σ} {host : ProcessHost (η × List String)}
  {daemon : Daemon σ (η × List String)} {paneId : String}

/-- No call on a running pane has failed. -/
def Unfailing (daemon : Daemon σ (η × List String)) : Prop := ∀ call ∈ daemon.calls, call.failure = none

/-- What was done starts and stops no pane, and fails exactly if a call on a pane does. -/
structure Watched {α : Type} (daemon : Daemon σ (η × List String))
    (result : Except HostError α × Daemon σ (η × List String)) : Prop where
  running : result.2.host.2 = daemon.host.2
  answered : daemon.Unfailing → (failureOf result.1 = none ↔ result.2.Unfailing)

namespace Watched

variable {α β : Type} {reached last : Daemon σ (η × List String)}

/-- A failure ends what it is part of. -/
theorem error {failure : HostError} (h : Watched daemon (Except.error (α := α) failure, reached)) :
    Watched daemon (Except.error (α := β) failure, reached) :=
  ⟨h.running, fun hbefore => iff_of_false (by simp [failureOf]) fun hafter => by
    have := (h.answered hbefore).mpr hafter
    cases this⟩

theorem trans {value : α} {result : Except HostError β × Daemon σ (η × List String)}
    (hfirst : Watched daemon (Except.ok value, reached)) (hrest : Watched reached result) :
    Watched daemon result :=
  ⟨hrest.running.trans hfirst.running,
    fun hbefore => hrest.answered ((hfirst.answered hbefore).mp rfl)⟩

/-- Another value for what succeeded. -/
theorem ok {value : α} {other : β} (h : Watched daemon (Except.ok value, reached)) :
    Watched daemon (Except.ok other, reached) :=
  ⟨h.running, fun hbefore => iff_of_true rfl ((h.answered hbefore).mp rfl)⟩

/-- The actor alone has changed. -/
theorem quiet {value : α} (hhost : reached.host = daemon.host) (hcalls : reached.calls = daemon.calls) :
    Watched daemon (Except.ok value, reached) :=
  ⟨congrArg Prod.snd hhost, fun hbefore => iff_of_true rfl fun call hcall => hbefore call (hcalls ▸ hcall)⟩

theorem called {operation : HostOperation} {result : Except HostError α × η × List String}
    (hrunning : result.2.2 = daemon.host.2) : Watched daemon (daemon.called operation paneId result) := by
  refine ⟨hrunning, fun hbefore => ⟨fun hnone call hcall => ?_, fun hafter => ?_⟩⟩
  · rcases List.mem_append.mp hcall with hcall | hcall
    · exact hbefore call hcall
    · rw [List.mem_singleton.mp hcall]
      exact hnone
  · exact hafter _ (List.mem_append_right _ (List.mem_singleton_self _))

end Watched

theorem flushPaneOutputHandoff_watched {value : Bool} (chunks : List (List UInt8)) (sessionMonoMs : UInt64) :
    Watched daemon (Except.ok value, (daemon.flushPaneOutputHandoff engine paneId chunks sessionMonoMs).1) := by
  unfold flushPaneOutputHandoff
  split <;> exact .quiet rfl rfl

theorem writeInputs_watched (hhost : host.KeepsRunning) (writes : List (List UInt8)) :
    Watched daemon (daemon.writeInputs host paneId writes) := by
  induction writes generalizing daemon with
  | nil => exact .quiet rfl rfl
  | cons bytes rest ih =>
    have hwrite : Watched daemon (daemon.writeInput host paneId bytes) := .called (hhost.write _ _ _)
    rw [writeInputs]
    split
    case h_1 heq => exact heq ▸ hwrite
    case h_2 heq => exact (heq ▸ hwrite).trans ih

theorem forwardPtyWrites_watched (hhost : host.KeepsRunning) :
    Watched daemon (daemon.forwardPtyWrites engine host paneId) := by
  have hdrain : Watched daemon (Except.ok (), (daemon.drainPanePtyWrites engine paneId).1) := .quiet rfl rfl
  have hwrites := hdrain.trans
    (@writeInputs_watched _ _ _ (daemon.drainPanePtyWrites engine paneId).1 paneId hhost
      (daemon.drainPanePtyWrites engine paneId).2)
  unfold forwardPtyWrites
  dsimp only
  split
  case h_1 heq => exact (heq ▸ hwrites).error
  case h_2 heq => exact (heq ▸ hwrites).ok

theorem readPaneOutput_watched (hhost : host.KeepsRunning) {sessionMonoMs : UInt64} (reads : Nat)
    (chunks : List (List UInt8)) (changed : Bool) :
    Watched daemon (readPaneOutput engine host paneId sessionMonoMs reads daemon chunks changed) := by
  induction reads generalizing daemon chunks changed with
  | zero => exact flushPaneOutputHandoff_watched chunks sessionMonoMs
  | succ reads ih =>
    have hread : Watched daemon (daemon.tryReadOutput host paneId) := .called (hhost.read _ _)
    unfold readPaneOutput
    split
    case h_1 heq => exact (heq ▸ hread).error
    case h_2 heq => exact (heq ▸ hread).trans (flushPaneOutputHandoff_watched chunks sessionMonoMs)
    case h_3 chunk reached _ heq =>
      have hreached := heq ▸ hread
      dsimp only
      split
      · have hflush : Watched reached (Except.ok true, (reached.flushPaneOutputHandoff engine paneId
            (chunks ++ [chunk]) sessionMonoMs).1) := flushPaneOutputHandoff_watched _ _
        exact (hreached.trans hflush).trans (ih [] _)
      · exact hreached.trans (ih (chunks ++ [chunk]) changed)

theorem pollPaneOutput_watched (hhost : host.KeepsRunning) {sessionMonoMs : UInt64} (reads : Nat) :
    Watched daemon (daemon.pollPaneOutput engine host paneId sessionMonoMs reads) := by
  have hread : Watched daemon (readPaneOutput engine host paneId sessionMonoMs reads daemon [] false) :=
    readPaneOutput_watched hhost reads [] false
  unfold pollPaneOutput
  split
  case h_1 heq => exact (heq ▸ hread).error
  case h_2 changed reached heq =>
    have hforward : Watched reached (reached.forwardPtyWrites engine host paneId) :=
      forwardPtyWrites_watched hhost
    split
    case h_1 hforwarded => exact (heq ▸ hread).trans (hforwarded ▸ hforward).error
    case h_2 hforwarded => exact (heq ▸ hread).trans (hforwarded ▸ hforward).ok

theorem pollPanes_watched (hhost : host.KeepsRunning) {sessionMonoMs : UInt64} (reads : Nat)
    (paneIds : List String) :
    Watched daemon (daemon.pollPanes engine host sessionMonoMs reads paneIds) := by
  induction paneIds generalizing daemon with
  | nil => exact .quiet rfl rfl
  | cons paneId rest ih =>
    have hpoll : Watched daemon (daemon.pollPaneOutput engine host paneId sessionMonoMs reads) :=
      pollPaneOutput_watched hhost reads
    unfold pollPanes
    split
    case h_1 heq => exact (heq ▸ hpoll).error
    case h_2 changed reached heq =>
      have hrest : Watched reached (reached.pollPanes engine host sessionMonoMs reads rest) := ih
      split
      case h_1 hpolled => exact (heq ▸ hpoll).trans (hpolled ▸ hrest).error
      case h_2 hpolled => exact (heq ▸ hpoll).trans (hpolled ▸ hrest).ok

end Daemon

/-- The wait for the first output starts and stops no pane, and fails exactly if a call on a pane does. -/
theorem waitForPanesOutput_watched {σ η : Type} {engine : TerminalEngine σ}
    {host : ProcessHost (η × List String)} {daemon : Daemon σ (η × List String)}
    (hhost : host.KeepsRunning) (paneIds : List String) (reads rounds : Nat) :
    daemon.Watched (waitForPanesOutput engine host paneIds reads rounds daemon) := by
  induction rounds generalizing daemon with
  | zero => exact .quiet rfl rfl
  | succ rounds ih =>
    have hpoll : daemon.Watched (daemon.pollPanes engine host 0 reads paneIds) :=
      Daemon.pollPanes_watched hhost reads paneIds
    unfold waitForPanesOutput
    split
    case h_1 heq => exact (heq ▸ hpoll).error
    case h_2 heq => exact (heq ▸ hpoll).ok
    case h_3 heq => exact (heq ▸ hpoll).trans ih

/-- The wait for the first output leaves the panes of the session. -/
theorem waitForPanesOutput_leafPaneIds {σ η : Type} {engine : TerminalEngine σ} {host : ProcessHost η}
    {daemon : Daemon σ η} (hidle : daemon.actor.Idle) (paneIds : List String) (reads rounds : Nat) :
    (waitForPanesOutput engine host paneIds reads rounds daemon).2.session.leafPaneIds =
      daemon.session.leafPaneIds := by
  induction rounds generalizing daemon with
  | zero => rfl
  | succ rounds ih =>
    have hpoll : Daemon.Serves engine (fun _ _ => True) (fun _ => True) daemon
        (daemon.pollPanes engine host 0 reads paneIds).2 ∧
        (daemon.pollPanes engine host 0 reads paneIds).2.session.leafPaneIds = daemon.session.leafPaneIds :=
      Daemon.pollPanes_serves hidle _ _ (fun _ _ _ _ => trivial) (fun _ _ _ => trivial)
        fun _ _ _ _ => trivial
    unfold waitForPanesOutput
    split
    case h_1 heq => rw [heq] at hpoll; exact hpoll.2
    case h_2 heq => rw [heq] at hpoll; exact hpoll.2
    case h_3 heq => rw [heq] at hpoll; exact (ih (hpoll.1.idle hidle)).trans hpoll.2

/-! ### Starts -/

/-- The host answers the starts of the panes, one after the other. -/
inductive StartsAnswered {η : Type} (host : ProcessHost η) (session : Session) :
    η → List String → η → Prop
  | nil (state : η) : StartsAnswered host session state [] state
  | cons {state next reached : η} {paneId : String} {rest : List String} {spec : HostSpec}
      (hspec : session.paneHost paneId = some spec)
      (hstart : host.startPane state paneId spec = (.ok (), next))
      (hrest : StartsAnswered host session next rest reached) :
      StartsAnswered host session state (paneId :: rest) reached

section
variable {σ η : Type} {engine : TerminalEngine σ} {session : Session}

theorem startSessionPane_ok_iff {host : ProcessHost η} {state next : η} {paneId : String} :
    startSessionPane host session state paneId = (.ok (), next) ↔
      ∃ spec, session.paneHost paneId = some spec ∧ host.startPane state paneId spec = (.ok (), next) := by
  unfold startSessionPane
  cases hspec : session.paneHost paneId with
  | none => simp
  | some spec =>
    dsimp only
    rcases hstart : host.startPane state paneId spec with ⟨error | _, reached⟩
    · simp [hstart]
    · simp [hstart]

theorem forPanes_start_iff {host : ProcessHost η} {paneIds : List String} {state reached : η} :
    forPanes (startSessionPane host session) state paneIds = (.ok (), reached) ↔
      StartsAnswered host session state paneIds reached := by
  induction paneIds generalizing state with
  | nil =>
    rw [forPanes]
    constructor
    · intro h
      cases h
      exact .nil _
    · intro h
      cases h
      rfl
  | cons paneId rest ih =>
    rw [forPanes]
    constructor
    · intro h
      split at h
      · cases h
      case h_2 next hstart =>
        obtain ⟨spec, hspec, hcall⟩ := startSessionPane_ok_iff.mp hstart
        exact .cons hspec hcall (ih.mp h)
    · intro h
      cases h with
      | cons hspec hstart hrest =>
        rw [startSessionPane_ok_iff.mpr ⟨_, hspec, hstart⟩]
        exact ih.mpr hrest

/-- The panes that were started run, and no others have come to it. -/
theorem StartsAnswered.running {host : ProcessHost η} {sessionId : String} {paneIds : List String}
    {state reached : η × List String}
    (h : StartsAnswered (host.tracking.scopedTo sessionId) session state paneIds reached) :
    reached.2 = state.2 ++ paneIds.map (hostPaneId sessionId) := by
  induction h with
  | nil => simp
  | @cons state next reached paneId rest spec hspec hstart hrest ih =>
    have hnext : next.2 = state.2 ++ [hostPaneId sessionId paneId] := by
      simp only [ProcessHost.scopedTo, ProcessHost.tracking] at hstart
      split at hstart
      · exact congrArg Prod.snd (Prod.mk.inj hstart).2.symm
      · cases (Prod.mk.inj hstart).1
    rw [ih, hnext, List.map_cons, List.append_assoc, List.singleton_append]

/-! ### A session's actor -/

/-- The arguments make a session, the host answers the starts of its panes, and no call on them fails
while their first output is awaited. -/
def Startable (engine : TerminalEngine σ) (host : ProcessHost η) (args : DaemonArgs) (sessionId : String)
    (title : Option String) (reads rounds : Nat) (state : η) : Prop :=
  ∃ core started, buildDaemonSessionCore engine args sessionId title = .ok core ∧
    StartsAnswered (host.scopedTo sessionId) core.session state core.session.leafPaneIds started ∧
    ∀ call ∈ (waitForPanesOutput engine (host.scopedTo sessionId) core.session.leafPaneIds reads rounds
      { actor := .new core daemonTraceRingCap, host := started, calls := [] }).2.calls, call.failure = none

/-- What is created is the session with its panes, which run now. -/
theorem createDaemonSessionActor_running {host : ProcessHost η} {args : DaemonArgs} {sessionId : String}
    {title : Option String} {reads rounds : Nat} {state next : η × List String} {actor : SessionActor σ}
    (h : createDaemonSessionActor engine host.tracking args sessionId title reads rounds state =
      (.ok actor, next)) :
    actor.session.id = sessionId ∧
      next.2 = state.2 ++ actor.session.leafPaneIds.map (hostPaneId sessionId) := by
  refine ⟨(createDaemonSessionActor_keeps h).1.id, ?_⟩
  unfold createDaemonSessionActor at h
  split at h
  · cases (Prod.mk.inj h).1
  case h_2 core hcore =>
    dsimp only at h
    split at h
    · cases (Prod.mk.inj h).1
    case h_2 started hstarts =>
      have hstarted := (forPanes_start_iff.mp hstarts).running
      have hwatched := @waitForPanesOutput_watched σ η engine (host.tracking.scopedTo sessionId)
        { actor := .new core daemonTraceRingCap, host := started, calls := [] }
        (host.tracking_keepsRunning sessionId) core.session.leafPaneIds reads rounds
      have hleaves := @waitForPanesOutput_leafPaneIds σ (η × List String) engine
        (host.tracking.scopedTo sessionId)
        { actor := .new core daemonTraceRingCap, host := started, calls := [] }
        (SessionActor.new_idle _ _) core.session.leafPaneIds reads rounds
      split at h
      · cases (Prod.mk.inj h).1
      case h_2 waited hwait =>
        rw [hwait] at hwatched hleaves
        obtain ⟨hactor, rfl⟩ := Prod.mk.inj h
        obtain rfl := Except.ok.inj hactor
        have hsame : waited.actor.session.leafPaneIds = core.session.leafPaneIds := hleaves
        rw [hsame]
        exact hwatched.running.trans hstarted

/-- A session is created exactly if it can be started. -/
theorem createDaemonSessionActor_iff {host : ProcessHost η} {args : DaemonArgs} {sessionId : String}
    {title : Option String} {reads rounds : Nat} {state : η × List String} :
    (∃ actor next, createDaemonSessionActor engine host.tracking args sessionId title reads rounds state =
      (.ok actor, next)) ↔ Startable engine host.tracking args sessionId title reads rounds state := by
  have hwatched (core : SessionCore σ) (started : η × List String) :=
    @waitForPanesOutput_watched σ η engine (host.tracking.scopedTo sessionId)
      { actor := .new core daemonTraceRingCap, host := started, calls := [] }
      (host.tracking_keepsRunning sessionId) core.session.leafPaneIds reads rounds
  have hnothing (core : SessionCore σ) (started : η × List String) :
      Daemon.Unfailing (σ := σ) { actor := .new core daemonTraceRingCap, host := started, calls := [] } := by
    intro call hcall
    cases hcall
  constructor
  · rintro ⟨actor, next, h⟩
    unfold createDaemonSessionActor at h
    split at h
    · cases (Prod.mk.inj h).1
    case h_2 core hcore =>
      dsimp only at h
      split at h
      · cases (Prod.mk.inj h).1
      case h_2 started hstarts =>
        have hanswered := (hwatched core started).answered (hnothing core started)
        refine ⟨core, started, hcore, forPanes_start_iff.mp hstarts, hanswered.mp ?_⟩
        split at h
        · cases (Prod.mk.inj h).1
        case h_2 hwait => rw [hwait]; rfl
  · rintro ⟨core, started, hcore, hstarts, hcalls⟩
    have hanswered := (hwatched core started).answered (hnothing core started)
    have hok := hanswered.mpr hcalls
    unfold createDaemonSessionActor
    rw [hcore]
    dsimp only
    rw [forPanes_start_iff.mpr hstarts]
    dsimp only
    rcases hwait : waitForPanesOutput engine (host.tracking.scopedTo sessionId) core.session.leafPaneIds
      reads rounds { actor := .new core daemonTraceRingCap, host := started, calls := [] } with
      ⟨error | _, waited⟩
    · rw [hwait] at hok
      cases hok
    · exact ⟨_, _, rfl⟩

end

/-! ### Commands for new sessions -/

namespace DaemonServer

variable {σ η : Type}

/-- What a command for a new session should come to: the daemon serves on, and a refusal leaves the
registry and the running panes alone, while a success adds one session, which was not there, and runs
its panes. -/
structure CreatesAtomically (before : DaemonServer σ (η × List String)) (command : ControlCommandSummary)
    (status : Status) (stream : ClientStream) (after : DaemonServer σ (η × List String)) : Prop where
  serving : status = .serving
  refused : ¬Acknowledged stream → after.registry = before.registry ∧ after.host.2 = before.host.2
  created : Acknowledged stream → ∃ sessionId actor, command.sessionId = some sessionId ∧
    before.registry.get? sessionId = none ∧ actor.session.id = sessionId ∧
      after.registry = before.registry.insert sessionId actor ∧
      after.host.2 = before.host.2 ++ actor.session.leafPaneIds.map (hostPaneId sessionId)

/-- The default session is there for an error frame, or the session is new and can be started; and the
answer can be written. -/
def Answerable (engine : TerminalEngine σ) (host : ProcessHost η) (args : DaemonArgs)
    (server : DaemonServer σ η) (command : ControlCommandSummary) (connection : Connection) : Prop :=
  connection.writes 0 = none ∧
    match command.sessionId.filter (!·.isEmpty) with
    | none => (server.registry.get? args.sessionId).isSome = true
    | some sessionId =>
      if (server.registry.get? sessionId).isSome then (server.registry.get? args.sessionId).isSome = true
      else Startable engine host args sessionId command.title connection.reads connection.rounds server.host

section
variable {engine : TerminalEngine σ} {host : ProcessHost η} {args : DaemonArgs}
  {server : DaemonServer σ η} {command : ControlCommandSummary} {connection : Connection}

/-- The daemon serves on exactly if the connection was served without an error. -/
theorem serve_serving_iff : (server.serve engine host args connection).1 = .serving ↔
    (serveUnixRegistryOnce engine host args server connection).1 = .ok () := by
  unfold serve
  rcases serveUnixRegistryOnce engine host args server connection with ⟨error | _, stream, reached⟩
  · cases error with
    | sessionShutdown =>
      dsimp only
      split
      · simp
      · split <;> simp
    | _ => simp
  · simp

theorem serve_of_ok (h : (serveUnixRegistryOnce engine host args server connection).1 = .ok ()) :
    server.serve engine host args connection =
      (.serving, (serveUnixRegistryOnce engine host args server connection).2) := by
  unfold serve
  rcases hserved : serveUnixRegistryOnce engine host args server connection with ⟨error | _, stream, reached⟩
  · rw [hserved] at h
    cases h
  · rfl

/-- A new session's first frame is the command. -/
theorem serveUnixRegistryOnce_sessionNew (hkind : command.kind = .sessionNew)
    (hinitial : connection.initial = .ok (.control command)) :
    serveUnixRegistryOnce engine host args server connection =
      serveSessionNewCommand engine host args server (.fresh connection.writes) command connection := by
  simp only [serveUnixRegistryOnce, hinitial, serveInitial, hkind, if_true]

/-- An error frame is written if there is a default session for it. -/
theorem writeError_fresh (code : Protocol.ErrorCode) (message : String) (commandSeq : UInt64) :
    ((server.writeError args (.fresh connection.writes) code message commandSeq).1 = .ok () ↔
        connection.writes 0 = none ∧ (server.registry.get? args.sessionId).isSome = true) ∧
      ¬Acknowledged (server.writeError args (.fresh connection.writes) code message commandSeq).2 := by
  unfold writeError
  cases hdefault : server.registry.get? args.sessionId with
  | none => simp [Acknowledged, ClientStream.fresh]
  | some actor =>
    cases hwrite : connection.writes 0 <;>
      simp [Acknowledged, ClientStream.writeProtocolError, ClientStream.writeProtocolErrorWithRetryability,
        ClientStream.write, ClientStream.fresh, hwrite]

end

variable {engine : TerminalEngine σ} {host : ProcessHost η} {args : DaemonArgs}
  {server : DaemonServer σ (η × List String)} {command : ControlCommandSummary} {connection : Connection}

/-- A session that is created is new in the registry. -/
theorem insert_created {sessionId : String} {state next : η × List String} {actor : SessionActor σ}
    {title : Option String} {reads rounds : Nat}
    (hnew : server.registry.get? sessionId = none)
    (hcreated : createDaemonSessionActor engine host.tracking args sessionId title reads rounds state =
      (.ok actor, next)) :
    ({ server with host := next }.insert actor) =
      (true, { registry := server.registry.insert sessionId actor, host := next }) := by
  have hid := (createDaemonSessionActor_running hcreated).1
  unfold insert
  rw [if_neg (by rw [hid, hnew]; exact Bool.false_ne_true), hid]

/-- The command is served without an error exactly if it can be answered. -/
theorem serveSessionNewCommand_ok_iff :
    (serveSessionNewCommand engine host.tracking args server (.fresh connection.writes) command
      connection).1 = .ok () ↔ Answerable engine host.tracking args server command connection := by
  unfold serveSessionNewCommand Answerable
  cases hsession : command.sessionId.filter (!·.isEmpty) with
  | none => exact (writeError_fresh _ _ _).1
  | some sessionId =>
    dsimp only
    by_cases hnew : (server.registry.get? sessionId).isSome = true
    · rw [if_pos hnew, if_pos hnew]
      exact (writeError_fresh _ _ _).1
    · rw [if_neg hnew, if_neg hnew, ← createDaemonSessionActor_iff]
      have hnone := Option.not_isSome_iff_eq_none.mp hnew
      rcases hcreated : createDaemonSessionActor engine host.tracking args sessionId command.title
        connection.reads connection.rounds server.host with ⟨error | actor, next⟩
      · simp
      · dsimp only
        rw [insert_created hnone hcreated]
        cases hwrite : connection.writes 0 <;> simp [ClientStream.write, ClientStream.fresh, hwrite]

/-- What is served without an error is atomic. -/
theorem serveSessionNewCommand_of_ok
    (h : (serveSessionNewCommand engine host.tracking args server (.fresh connection.writes) command
      connection).1 = .ok ()) :
    CreatesAtomically server command .serving
      (serveSessionNewCommand engine host.tracking args server (.fresh connection.writes) command
        connection).2.1
      (serveSessionNewCommand engine host.tracking args server (.fresh connection.writes) command
        connection).2.2 := by
  unfold serveSessionNewCommand at h ⊢
  cases hsession : command.sessionId.filter (!·.isEmpty) with
  | none => exact ⟨rfl, fun _ => ⟨rfl, rfl⟩, fun hack => absurd hack (writeError_fresh _ _ _).2⟩
  | some sessionId =>
    have hcommand : command.sessionId = some sessionId := (Option.filter_eq_some_iff.mp hsession).1
    rw [hsession] at h
    dsimp only at h ⊢
    by_cases hnew : (server.registry.get? sessionId).isSome = true
    · rw [if_pos hnew]
      exact ⟨rfl, fun _ => ⟨rfl, rfl⟩, fun hack => absurd hack (writeError_fresh _ _ _).2⟩
    · rw [if_neg hnew] at h ⊢
      have hnone := Option.not_isSome_iff_eq_none.mp hnew
      rcases hcreated : createDaemonSessionActor engine host.tracking args sessionId command.title
        connection.reads connection.rounds server.host with ⟨error | actor, next⟩
      · rw [hcreated] at h
        cases h
      · obtain ⟨hid, hrunning⟩ := createDaemonSessionActor_running hcreated
        rw [hcreated] at h
        dsimp only at h ⊢
        rw [insert_created hnone hcreated] at h ⊢
        cases hwrite : connection.writes 0 with
        | some error => simp [ClientStream.write, ClientStream.fresh, hwrite] at h
        | none =>
          refine ⟨rfl, fun hrefused => absurd ?_ hrefused, fun _ => ?_⟩
          · exact ⟨actor.session.workspaceTreeFrame "local-client" 1,
              by simp [ClientStream.write, ClientStream.fresh, hwrite]⟩
          · exact ⟨sessionId, actor, hcommand, hnone, hid, rfl, hrunning⟩

/-- **A new session is created atomically exactly if its command can be answered.** Whatever fails
otherwise ends the daemon. -/
theorem session_new_atomic_iff (server : DaemonServer σ (η × List String))
    (hkind : command.kind = .sessionNew) (hinitial : connection.initial = .ok (.control command)) :
    CreatesAtomically server command (server.serve engine host.tracking args connection).1
        (server.serve engine host.tracking args connection).2.1
        (server.serve engine host.tracking args connection).2.2 ↔
      Answerable engine host.tracking args server command connection := by
  rw [← serveSessionNewCommand_ok_iff, ← serveUnixRegistryOnce_sessionNew hkind hinitial]
  constructor
  · intro h
    exact serve_serving_iff.mp h.serving
  · intro h
    rw [serve_of_ok h]
    rw [serveUnixRegistryOnce_sessionNew hkind hinitial] at h ⊢
    exact serveSessionNewCommand_of_ok h

/-! ### A second session -/

/-- A daemon whose sessions have two panes each. -/
def splitArgs : DaemonArgs := { plainArgs with initialSplit := some .vertical }

/-- A host that cannot start the second pane of one session. -/
def refusingHost : ProcessHost Unit := { ProcessHost.quiet with
  startPane _ paneId _ :=
    if paneId = "other:pane-2" then (.error (.io paneId "openpty" "too many open files"), ()) else (.ok (), ()) }

/-- The daemon with its default session. -/
def splitServer : DaemonServer InterimAnsiState (Unit × List String) :=
  match start interimTextTerminalEngine refusingHost.tracking splitArgs 0 0 ((), []) with
  | .ok server => server
  | .error _ => { registry := .empty, host := ((), []) }

/-- **A session whose second pane does not start ends the daemon**, and its first pane runs on. -/
theorem session_new_not_atomic :
    Reached interimTextTerminalEngine refusingHost.tracking splitArgs splitServer ∧
      (splitServer.serve interimTextTerminalEngine refusingHost.tracking splitArgs
        (commandConnection (sessionCommand .sessionNew "other"))).2.2.host.2 =
          splitServer.host.2 ++ ["other:pane-1"] ∧
      ¬CreatesAtomically splitServer (sessionCommand .sessionNew "other")
        (splitServer.serve interimTextTerminalEngine refusingHost.tracking splitArgs
          (commandConnection (sessionCommand .sessionNew "other"))).1
        (splitServer.serve interimTextTerminalEngine refusingHost.tracking splitArgs
          (commandConnection (sessionCommand .sessionNew "other"))).2.1
        (splitServer.serve interimTextTerminalEngine refusingHost.tracking splitArgs
          (commandConnection (sessionCommand .sessionNew "other"))).2.2 := by
  refine ⟨.start 0 0 ((), []) rfl, rfl, fun h => ?_⟩
  have hserved := serve_serving_iff.mp h.serving
  rw [serveUnixRegistryOnce_sessionNew rfl rfl] at hserved
  cases hserved

/-- Where both panes start, the session is created. -/
theorem session_new_atomic_work :
    CreatesAtomically splitServer (sessionCommand .sessionNew "work")
      (splitServer.serve interimTextTerminalEngine refusingHost.tracking splitArgs
        (commandConnection (sessionCommand .sessionNew "work"))).1
      (splitServer.serve interimTextTerminalEngine refusingHost.tracking splitArgs
        (commandConnection (sessionCommand .sessionNew "work"))).2.1
      (splitServer.serve interimTextTerminalEngine refusingHost.tracking splitArgs
        (commandConnection (sessionCommand .sessionNew "work"))).2.2 := by
  refine (session_new_atomic_iff splitServer rfl rfl).mpr ⟨rfl, ?_⟩
  exact createDaemonSessionActor_iff.mp ⟨_, _, rfl⟩

end DaemonServer

end Nmux
