import Nmux.Control.Agreement
import Nmux.Registry.Reached

/-! Killing a session. A kill that is acknowledged should stop the panes of its session and leave every
other session as it was, served; one that is rejected should leave everything as it was. The daemon
stops the panes of the default session and ends, so it comes out right exactly if there is no session
but the one that is killed, and its panes can be stopped. -/
namespace Nmux

open Live (ServeError ClientStream ClientInitialFrame Connection ServerFrame)
open ScopedLocalPtyHost (hostPaneId)
open Lib (OrderedMap)

/-! ### Stopped panes -/

/-- The host with a list of the panes it has stopped. -/
def ProcessHost.noting {η : Type} (host : ProcessHost η) : ProcessHost (η × List String) :=
  let keep {α : Type} (noted : List String) (answer : Except HostError α × η) :
      Except HostError α × η × List String := (answer.1, answer.2, noted)
  { startPane state paneId spec := keep state.2 (host.startPane state.1 paneId spec)
    checkPane state paneId := keep state.2 (host.checkPane state.1 paneId)
    writeInput state paneId bytes := keep state.2 (host.writeInput state.1 paneId bytes)
    resizePane state paneId cols rows := keep state.2 (host.resizePane state.1 paneId cols rows)
    stopPane state paneId :=
      match host.stopPane state.1 paneId with
      | (.ok _, next) => (.ok (), next, state.2 ++ [paneId])
      | (.error error, next) => (.error error, next, state.2)
    tryReadOutput state paneId := keep state.2 (host.tryReadOutput state.1 paneId) }

/-- The stops of a session's panes: all of them, if they are answered, or those before the first that
is not. -/
theorem ProcessHost.stopPanes_noting {η : Type} (host : ProcessHost η) (sessionId : String) (state : η)
    (noted paneIds : List String) :
    ((host.noting.scopedTo sessionId).stopPanes (state, noted) paneIds).1 =
        ((host.scopedTo sessionId).stopPanes state paneIds).1 ∧
      ∃ stopped rest, paneIds = stopped ++ rest ∧
        ((host.noting.scopedTo sessionId).stopPanes (state, noted) paneIds).2.2 =
          noted ++ stopped.map (hostPaneId sessionId) ∧
        (rest = [] ↔ ((host.scopedTo sessionId).stopPanes state paneIds).1 = .ok ()) := by
  induction paneIds generalizing state noted with
  | nil => exact ⟨rfl, [], [], rfl, by simp [stopPanes, forPanes], by simp [stopPanes, forPanes]⟩
  | cons paneId paneIds ih =>
    rcases hstop : host.stopPane state (hostPaneId sessionId paneId) with ⟨error | _, next⟩
    · refine ⟨?_, [], paneId :: paneIds, rfl, ?_, ?_⟩
      all_goals simp [stopPanes, forPanes, scopedTo, noting, hstop, mapResult]
    · obtain ⟨hsame, stopped, rest, hpanes, hnoted, hrest⟩ := ih next (noted ++ [hostPaneId sessionId paneId])
      have hcons : (host.scopedTo sessionId).stopPanes state (paneId :: paneIds) =
          (host.scopedTo sessionId).stopPanes next paneIds := by
        simp [stopPanes, forPanes, scopedTo, hstop, mapResult]
      have hcons' : (host.noting.scopedTo sessionId).stopPanes (state, noted) (paneId :: paneIds) =
          (host.noting.scopedTo sessionId).stopPanes (next, noted ++ [hostPaneId sessionId paneId]) paneIds := by
        simp [stopPanes, forPanes, scopedTo, noting, hstop, mapResult]
      rw [hcons, hcons']
      refine ⟨hsame, paneId :: stopped, rest, by rw [hpanes, List.cons_append], ?_, hrest⟩
      rw [hnoted, List.map_cons, List.append_assoc, List.singleton_append]

namespace DaemonServer

variable {σ η : Type}

/-- The daemon from where on stops are noted. -/
def noting (server : DaemonServer σ η) : DaemonServer σ (η × List String) where
  registry := server.registry
  host := (server.host, [])

def Acknowledged (stream : ClientStream) : Prop := ∃ frame, ServerFrame.workspace frame ∈ stream.written

def Rejected (stream : ClientStream) : Prop := ∃ frame, ServerFrame.error frame ∈ stream.written

/-- A client can attach to the session. -/
def Attachable (status : Status) (server : DaemonServer σ η) (sessionId : String) : Prop :=
  status = .serving ∧ (server.registry.get? sessionId).isSome = true

/-- What a kill of a session should come to. -/
structure KillsOnly (before : DaemonServer σ η) (sessionId : String) (status : Status)
    (after : DaemonServer σ (η × List String)) : Prop where
  others : ∀ other actor, other ≠ sessionId → before.registry.get? other = some actor →
    Attachable status after other ∧ after.registry.get? other = some actor ∧
      ∀ paneId ∈ actor.session.leafPaneIds, hostPaneId other paneId ∉ after.host.2
  panes : ∀ actor, before.registry.get? sessionId = some actor →
    ∀ paneId ∈ actor.session.leafPaneIds, hostPaneId sessionId paneId ∈ after.host.2
  gone : ¬ Attachable status after sessionId

/-- The session is the only one, and the host answers the stops of its panes; or the kill is not
acknowledged: there is no such session, or the acknowledgement cannot be written. -/
def KillIsolated (host : ProcessHost η) (server : DaemonServer σ η) (sessionId : String)
    (connection : Connection) : Prop :=
  connection.writes 0 = none → ∀ actor, server.registry.get? sessionId = some actor →
    (∀ other, (server.registry.get? other).isSome = true → other = sessionId) ∧
      ((host.scopedTo sessionId).stopPanes server.host actor.session.leafPaneIds).1 = .ok ()

variable (engine : TerminalEngine σ) (host : ProcessHost η) {args : DaemonArgs}
  {server : DaemonServer σ η} {command : ControlCommandSummary} {connection : Connection}

/-- A kill the command's own session takes: its panes and the host are untouched. -/
theorem applyControlCommand_kill {daemon : Daemon σ η} (hidle : daemon.actor.Idle)
    (hkill : command.kind = .sessionKill) (hsession : command.sessionId.getD daemon.session.id = daemon.session.id) :
    (daemon.applyControlCommand engine host command).1 = .ok .shutdown ∧
      (daemon.applyControlCommand engine host command).2.session = daemon.session ∧
      (daemon.applyControlCommand engine host command).2.host = daemon.host := by
  have htaken : applySessionKillCommand daemon.session command = .ok () := by
    unfold applySessionKillCommand
    split
    · rfl
    case h_2 sessionId heq =>
      rw [heq] at hsession
      exact if_pos hsession
  have hagree : Daemon.Agrees _ (daemon.applySessionKill engine command) :=
    Daemon.applySessionKill_agree hidle
  have happlied : daemon.applyControlCommand engine host command =
      ((daemon.applySessionKill engine command).1.map fun _ => .shutdown,
        (daemon.applySessionKill engine command).2) := by
    simp only [Daemon.applyControlCommand, hkill]
    rfl
  obtain ⟨houtcome, hsame, hhost, -⟩ := hagree
  rw [happlied]
  refine ⟨?_, hsame, hhost⟩
  show (daemon.applySessionKill engine command).1.map _ = _
  rw [houtcome, htaken]
  rfl

/-- A kill of a session of the registry is acknowledged if that can be written. -/
theorem serveUnixRegistryOnce_kill (hconsistent : server.Consistent args)
    (hkill : command.kind = .sessionKill) (hinitial : connection.initial = .ok (.control command))
    {actor : SessionActor σ}
    (hactor : server.registry.get? (command.sessionId.getD args.sessionId) = some actor) :
    ∃ killed : SessionActor σ, killed.session = actor.session ∧
      serveUnixRegistryOnce engine host args server connection =
        match connection.writes 0 with
        | none => (.error .sessionShutdown,
            { writes := connection.writes, handed := 1
              written := [.workspace (actor.session.workspaceTreeFrame "local-client" 1)] },
            { registry := server.registry.insert (command.sessionId.getD args.sessionId) killed
              host := server.host })
        | some error => (.error (.wire error), { writes := connection.writes, handed := 1, written := [] },
            { registry := server.registry.insert (command.sessionId.getD args.sessionId) killed
              host := server.host }) := by
  obtain ⟨hkeeps, hidle⟩ := hconsistent.keeps _ _ hactor
  let daemon : Daemon σ η := { actor, host := server.host, calls := [] }
  have hidle' : daemon.actor.Idle := hidle
  have hsession : command.sessionId.getD daemon.session.id = daemon.session.id := by
    have hid : daemon.session.id = command.sessionId.getD args.sessionId := hkeeps.id
    rw [hid]
    cases command.sessionId <;> rfl
  obtain ⟨houtcome, hsame, hhost⟩ := applyControlCommand_kill engine
    (host.scopedTo (command.sessionId.getD args.sessionId)) hidle' hkill hsession
  rcases hresult : daemon.applyControlCommand engine
    (host.scopedTo (command.sessionId.getD args.sessionId)) command with ⟨outcome, reached⟩
  rw [hresult] at houtcome hsame hhost
  dsimp only at houtcome hsame hhost
  subst houtcome
  refine ⟨reached.actor, hsame, ?_⟩
  have hnew : ¬ command.kind = .sessionNew := by rw [hkill]; decide
  have hlist : ¬ command.kind = .sessionList := by rw [hkill]; decide
  simp only [serveUnixRegistryOnce, hinitial, serveInitial, serveInitial.route, hnew, hlist, if_false,
    initialTargetSessionId, hactor, serveSession, Live.serveStreamInitial, Live.serveControlCommand,
    Daemon.applyControlCommandWithSessionActor]
  rw [show ({ actor, host := server.host, calls := [] } : Daemon σ η) = daemon from rfl, hresult]
  dsimp only
  rw [show reached.session = actor.session from hsame]
  have hstate : reached.host = server.host := hhost
  cases hwrite : connection.writes 0 with
  | none => simp [ClientStream.write, ClientStream.fresh, hwrite, Except.map, hstate]
  | some error => simp [ClientStream.write, ClientStream.fresh, hwrite, Except.map, hstate]

/-- A kill of a session the daemon does not have is rejected, if that can be written. -/
theorem serveUnixRegistryOnce_kill_missing (hconsistent : server.Consistent args)
    (hkill : command.kind = .sessionKill) (hinitial : connection.initial = .ok (.control command))
    (hmissing : server.registry.get? (command.sessionId.getD args.sessionId) = none) :
    ∃ result stream, serveUnixRegistryOnce engine host args server connection = (result, stream, server) ∧
      result ≠ .error .sessionShutdown ∧ ¬ Acknowledged stream := by
  obtain ⟨default, hdefault⟩ := Option.isSome_iff_exists.mp hconsistent.default
  have hnew : ¬ command.kind = .sessionNew := by rw [hkill]; decide
  have hlist : ¬ command.kind = .sessionList := by rw [hkill]; decide
  simp only [serveUnixRegistryOnce, hinitial, serveInitial, serveInitial.route, hnew, hlist, if_false,
    initialTargetSessionId, hmissing, writeError, hdefault]
  refine ⟨_, _, rfl, ?_, ?_⟩
  · cases hwrite : connection.writes 0 <;>
      simp [ClientStream.writeProtocolError, ClientStream.writeProtocolErrorWithRetryability,
        ClientStream.write, ClientStream.fresh, hwrite]
  · cases hwrite : connection.writes 0 <;>
      simp [Acknowledged, ClientStream.writeProtocolError, ClientStream.writeProtocolErrorWithRetryability,
        ClientStream.write, ClientStream.fresh, hwrite]

/-- What a kill should come to: if it is acknowledged it concerns its session alone, and if it is
rejected nothing changes. -/
structure KillAffectsOnly (before : DaemonServer σ η) (sessionId : String) (status : Status)
    (stream : ClientStream) (after : DaemonServer σ (η × List String)) : Prop where
  acknowledged : Acknowledged stream → KillsOnly before sessionId status after
  rejected : Rejected stream → after = before.noting

/-- A shutdown ends the daemon, and the panes of the default session are stopped, up to the first that
is not. -/
theorem serve_shutdown {after : DaemonServer σ η} {stream : ClientStream} {stopping : SessionActor σ}
    (honce : serveUnixRegistryOnce engine host args server connection =
      (.error .sessionShutdown, stream, after))
    (hdefault : after.registry.get? args.sessionId = some stopping) :
    ∃ result, server.serve engine host args connection = (.exited result, stream, { after with
      host := ((host.scopedTo args.sessionId).stopPanes after.host stopping.session.leafPaneIds).2 }) := by
  rcases hstops : (host.scopedTo args.sessionId).stopPanes after.host stopping.session.leafPaneIds with
    ⟨error | _, state⟩
  · exact ⟨.error (.host error), by simp [DaemonServer.serve, honce, hdefault, hstops]⟩
  · exact ⟨.ok (), by simp [DaemonServer.serve, honce, hdefault, hstops]⟩

/-- A kill that is not acknowledged notes nothing and leaves a rejected session as it was. -/
theorem kill_of_not_acknowledged (hconsistent : server.Consistent args)
    (hkill : command.kind = .sessionKill) (hinitial : connection.initial = .ok (.control command))
    (hnot : ¬ (connection.writes 0 = none ∧
      (server.registry.get? (command.sessionId.getD args.sessionId)).isSome = true)) :
    ¬ Acknowledged (server.serve engine host args connection).2.1 ∧
      (Rejected (server.serve engine host args connection).2.1 →
        (server.serve engine host args connection).2.2 = server) := by
  cases hactor : server.registry.get? (command.sessionId.getD args.sessionId) with
  | none =>
    obtain ⟨result, stream, honce, hresult, hstream⟩ :=
      serveUnixRegistryOnce_kill_missing engine host hconsistent hkill hinitial hactor
    have hserve : (server.serve engine host args connection).2 = (stream, server) := by
      rcases result with error | _
      · cases error <;> simp_all [DaemonServer.serve]
      · simp [DaemonServer.serve, honce]
    rw [hserve]
    exact ⟨hstream, fun _ => rfl⟩
  | some actor =>
    obtain ⟨error, herror⟩ : ∃ error, connection.writes 0 = some error := by
      rw [hactor] at hnot
      exact Option.ne_none_iff_exists'.mp fun hnone => hnot ⟨hnone, rfl⟩
    obtain ⟨killed, -, honce⟩ := serveUnixRegistryOnce_kill engine host
      hconsistent hkill hinitial hactor
    simp only [herror] at honce
    have hwritten : (server.serve engine host args connection).2.1.written = [] := by
      simp [DaemonServer.serve, honce]
    simp [Acknowledged, Rejected, hwritten]

/-- The kill of a session that ended the daemon concerned that session alone if there was no other, and
its panes were stopped. -/
theorem killsOnly_iff (hconsistent : server.Consistent args) {sessionId : String}
    {actor killed stopping : SessionActor σ} (hactor : server.registry.get? sessionId = some actor)
    (hsession : killed.session = actor.session)
    (hstopping : (server.registry.insert sessionId killed).get? args.sessionId = some stopping)
    (result : Except ServeError Unit) :
    KillsOnly server sessionId (.exited result)
        { registry := server.registry.insert sessionId killed
          host := ((host.noting.scopedTo args.sessionId).stopPanes (server.host, [])
            stopping.session.leafPaneIds).2 } ↔
      (∀ other, (server.registry.get? other).isSome = true → other = sessionId) ∧
        ((host.scopedTo sessionId).stopPanes server.host actor.session.leafPaneIds).1 = .ok () := by
  have hstops : ∀ id paneIds, ∃ stopped rest, paneIds = stopped ++ rest ∧
      ((host.noting.scopedTo id).stopPanes (server.host, []) paneIds).2.2 =
        stopped.map (hostPaneId id) ∧
      (rest = [] ↔ ((host.scopedTo id).stopPanes server.host paneIds).1 = .ok ()) := by
    intro id paneIds
    obtain ⟨-, stopped, rest, hpanes, hnoted, hrest⟩ := host.stopPanes_noting id server.host [] paneIds
    exact ⟨stopped, rest, hpanes, by rw [hnoted, List.nil_append], hrest⟩
  have hsame : args.sessionId = sessionId → stopping.session = actor.session := by
    intro hid
    rw [OrderedMap.get?_insert, if_pos hid] at hstopping
    rw [← Option.some.inj hstopping, hsession]
  constructor
  · intro h
    have honly : ∀ other, (server.registry.get? other).isSome = true → other = sessionId := by
      intro other hother
      obtain ⟨otherActor, hget⟩ := Option.isSome_iff_exists.mp hother
      by_contra hne
      exact absurd (h.others other otherActor hne hget).1.1 nofun
    refine ⟨honly, ?_⟩
    obtain hid := honly _ hconsistent.default
    obtain ⟨stopped, rest, hpanes, hnoted, hrest⟩ := hstops sessionId actor.session.leafPaneIds
    rw [← hrest]
    by_contra hleft
    obtain ⟨paneId, more, rfl⟩ := List.exists_cons_of_ne_nil hleft
    -- the pane whose stop failed is not among those before it
    have hnodup : actor.session.leafPaneIds.Nodup := (hconsistent.keeps _ _ hactor).1.wellFormed.leafIds
    have hpane : paneId ∈ actor.session.leafPaneIds := by rw [hpanes]; simp
    have hstopped := h.panes actor hactor paneId hpane
    rw [hsame hid, hid, hnoted] at hstopped
    obtain ⟨other, hother, hkey⟩ := List.mem_map.mp hstopped
    have hback := congrArg (ScopedLocalPtyHost.clientPaneId sessionId) hkey
    rw [ScopedLocalPtyHost.clientPaneId_hostPaneId, ScopedLocalPtyHost.clientPaneId_hostPaneId] at hback
    rw [hpanes] at hnodup
    exact (List.disjoint_of_nodup_append hnodup) (hback ▸ hother) List.mem_cons_self
  · rintro ⟨honly, hok⟩
    have hid := honly _ hconsistent.default
    obtain ⟨stopped, rest, hpanes, hnoted, hrest⟩ := hstops sessionId actor.session.leafPaneIds
    obtain rfl := hrest.mpr hok
    rw [List.append_nil] at hpanes
    refine ⟨fun other otherActor hne hget => ?_, fun actor' hactor' paneId hpane => ?_,
      fun h => absurd h.1 nofun⟩
    · exact absurd (honly other (by rw [hget]; rfl)) hne
    · obtain rfl := Option.some.inj (hactor.symm.trans hactor')
      rw [hsame hid, hid, hnoted, ← hpanes]
      exact List.mem_map_of_mem hpane

variable {engine} {host}

/-- **Killing a session affects only that session** exactly if it is the daemon's only one and its panes
can be stopped, or the kill is not acknowledged. In any other case the daemon stops the panes of the
default session and ends. -/
theorem session_kill_affects_only_it_iff (hreached : Reached engine host args server)
    (hkill : command.kind = .sessionKill) (hinitial : connection.initial = .ok (.control command)) :
    KillAffectsOnly server (command.sessionId.getD args.sessionId)
        (server.noting.serve engine host.noting args connection).1
        (server.noting.serve engine host.noting args connection).2.1
        (server.noting.serve engine host.noting args connection).2.2 ↔
      KillIsolated host server (command.sessionId.getD args.sessionId) connection := by
  have hconsistent := hreached.consistent
  have hnoting : server.noting.Consistent args := ⟨hconsistent.default, hconsistent.keeps⟩
  by_cases hacknowledged : connection.writes 0 = none ∧
    (server.registry.get? (command.sessionId.getD args.sessionId)).isSome = true
  case neg =>
    obtain ⟨hnot, hrejected⟩ := kill_of_not_acknowledged engine host.noting hnoting hkill hinitial
      hacknowledged
    refine iff_of_true ⟨fun h => absurd h hnot, hrejected⟩ fun hwrite actor hactor => ?_
    exact absurd ⟨hwrite, by rw [hactor]; rfl⟩ hacknowledged
  case pos =>
    obtain ⟨hwrite, hsome⟩ := hacknowledged
    obtain ⟨actor, hactor⟩ := Option.isSome_iff_exists.mp hsome
    have hfound : server.noting.registry.get? (command.sessionId.getD args.sessionId) = some actor := hactor
    obtain ⟨killed, hsession, honce⟩ := serveUnixRegistryOnce_kill engine host.noting hnoting hkill
      hinitial hfound
    simp only [hwrite] at honce
    have hdefault : ((server.registry.insert (command.sessionId.getD args.sessionId) killed).get?
        args.sessionId).isSome = true := by
      rw [OrderedMap.get?_insert]
      split
      · rfl
      · exact hconsistent.default
    obtain ⟨stopping, hstopping⟩ := Option.isSome_iff_exists.mp hdefault
    obtain ⟨result, hserve⟩ := serve_shutdown engine host.noting honce hstopping
    have hkills := killsOnly_iff host hconsistent hactor hsession hstopping result
    rw [hserve]
    constructor
    · intro h _ found hget
      obtain rfl := Option.some.inj (hactor.symm.trans hget)
      exact hkills.mp (h.acknowledged ⟨_, List.mem_singleton.mpr rfl⟩)
    · intro h
      refine ⟨fun _ => hkills.mpr (h hwrite actor hactor), fun hrejected => ?_⟩
      obtain ⟨frame, hframe⟩ := hrejected
      exact nomatch List.mem_singleton.mp hframe

/-- A daemon with nothing asked for. -/
def plainArgs : DaemonArgs where
  sessionId := "local"
  command := none
  initialSize := none
  workingDir := none
  env := []
  hostKind := .localHost
  sandboxProfile := none
  containerImage := none
  initialTabs := 1
  activeTabId := none
  initialSplit := none
  resizePolicy := .fixed
  transportEndpoint := "/tmp/nmux.sock"
  inheritedOrigin := none

def sessionCommand (kind : Protocol.ControlCommandKind) (sessionId : String) : ControlCommandSummary where
  actorId := "cli"
  commandSeq := 1
  kind := kind
  paneId := none
  tabId := none
  splitAxis := .none
  title := none
  sessionId := some sessionId

/-- A connection that sends one control command, and takes what is written. -/
def commandConnection (command : ControlCommandSummary) : Connection where
  initial := .ok (.control command)
  writes _ := none
  frames := []
  reads := 0
  rounds := 0

/-- The daemon as it is when it starts to listen. -/
def plainServer : DaemonServer InterimAnsiState Unit :=
  match start interimTextTerminalEngine .quiet plainArgs 0 0 () with
  | .ok server => server
  | .error _ => { registry := .empty, host := () }

theorem plainServer_reached : Reached interimTextTerminalEngine .quiet plainArgs plainServer :=
  .start 0 0 () rfl

theorem quiet_stopPanes (sessionId : String) (paneIds : List String) :
    ((ProcessHost.quiet.scopedTo sessionId).stopPanes () paneIds).1 = .ok () := by
  induction paneIds with
  | nil => rfl
  | cons paneId rest ih => exact ih

/-- Its only session is killed: the daemon ends with the session's pane stopped. -/
theorem session_kill_affects_only_it_local :
    KillAffectsOnly plainServer "local"
      (plainServer.noting.serve interimTextTerminalEngine ProcessHost.quiet.noting plainArgs
        (commandConnection (sessionCommand .sessionKill "local"))).1
      (plainServer.noting.serve interimTextTerminalEngine ProcessHost.quiet.noting plainArgs
        (commandConnection (sessionCommand .sessionKill "local"))).2.1
      (plainServer.noting.serve interimTextTerminalEngine ProcessHost.quiet.noting plainArgs
        (commandConnection (sessionCommand .sessionKill "local"))).2.2 := by
  have hkill : (sessionCommand .sessionKill "local").kind = .sessionKill := rfl
  have hinitial : (commandConnection (sessionCommand .sessionKill "local")).initial =
      .ok (.control (sessionCommand .sessionKill "local")) := rfl
  refine (session_kill_affects_only_it_iff plainServer_reached hkill hinitial).mpr ?_
  intro _ actor _
  refine ⟨fun other hother => ?_, quiet_stopPanes _ _⟩
  have hkeys : plainServer.registry.entries.map Prod.fst = ["local"] := rfl
  obtain ⟨found, hfound⟩ := Option.isSome_iff_exists.mp hother
  have hmem : other ∈ plainServer.registry.entries.map Prod.fst :=
    List.mem_map.mpr ⟨(other, found), OrderedMap.mem_entries.mpr hfound, rfl⟩
  rw [hkeys] at hmem
  exact List.mem_singleton.mp hmem

/-- A daemon with a second session. -/
def twoSessions : DaemonServer InterimAnsiState Unit :=
  (plainServer.serve interimTextTerminalEngine .quiet plainArgs
    (commandConnection (sessionCommand .sessionNew "other"))).2.2

theorem twoSessions_reached : Reached interimTextTerminalEngine .quiet plainArgs twoSessions :=
  .serve (commandConnection (sessionCommand .sessionNew "other")) plainServer_reached rfl

/-- **The kill of another session ends the daemon**, with the pane of the default session stopped and
that of the killed one not. -/
theorem session_kill_affects_others :
    Reached interimTextTerminalEngine .quiet plainArgs twoSessions ∧
    ¬ KillAffectsOnly twoSessions "other"
      (twoSessions.noting.serve interimTextTerminalEngine ProcessHost.quiet.noting plainArgs
        (commandConnection (sessionCommand .sessionKill "other"))).1
      (twoSessions.noting.serve interimTextTerminalEngine ProcessHost.quiet.noting plainArgs
        (commandConnection (sessionCommand .sessionKill "other"))).2.1
      (twoSessions.noting.serve interimTextTerminalEngine ProcessHost.quiet.noting plainArgs
        (commandConnection (sessionCommand .sessionKill "other"))).2.2 := by
  refine ⟨twoSessions_reached, fun h => ?_⟩
  have hstopped : (twoSessions.noting.serve interimTextTerminalEngine ProcessHost.quiet.noting plainArgs
      (commandConnection (sessionCommand .sessionKill "other"))).2.2.host.2 = ["local:pane-1"] := rfl
  obtain ⟨actor, hactor⟩ := Option.isSome_iff_exists.mp
    (rfl : (twoSessions.registry.get? "local").isSome = true)
  have hpanes : actor.session.leafPaneIds = ["pane-1"] := by
    obtain rfl := Option.some.inj hactor
    rfl
  have hkills := h.acknowledged ⟨_, List.mem_cons_self⟩
  obtain ⟨-, -, hspared⟩ := hkills.others "local" actor (by decide) hactor
  rw [hpanes, hstopped] at hspared
  exact hspared "pane-1" (by decide) (by decide)

end DaemonServer

end Nmux
