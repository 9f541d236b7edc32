import Nmux.Live.Serves
import Nmux.Workspace.WellFormed

/-! No lost workspace update. The version of the session moves at a control command, at an attach that
switches tabs, and at a resize; the broadcast sends the workspace only if the round's flag is up, and only
the resizes of complete drains and of viewports raise it. A connection that moves the version while there
are clients, a drain that is cut short after a resize, and a viewport applied for a client that leaves
after the broadcast leave the other clients with an old workspace. Where none of these happens, every
client has been sent the session's version after every round. -/
namespace Nmux.Live

open Daemon (ServesPanes)

/-- The client was sent the workspace in this version. -/
def Informed (version : UInt64) (client : LiveAttachedClient) : Prop :=
  ∃ frame, ServerFrame.workspace frame ∈ client.queued ∧ frame.body.version = version

/-- The client is informed, or it has had all its cycles and leaves with the round. -/
def UpToDate (version : UInt64) (client : LiveAttachedClient) : Prop :=
  Informed version client ∨ client.completedCycles = usizeMax

variable {σ η : Type} (engine : TerminalEngine σ) (host : ProcessHost η)

/-! ### What publishes -/

/-- A connection that leaves the version alone: a control command that does not change the workspace, or
an attach that does not switch tabs. -/
def Arrival.KeepsVersion (arrival : Arrival) (daemon : Daemon σ η) : Prop :=
  match arrival.initial with
  | .ok (.control command) =>
    (daemon.applyControlCommandWithSessionActor engine (some host) command).2.session.version =
      daemon.session.version
  | .ok (.attach targetSessionId request) =>
    attachTargetSessionMismatch daemon.session targetSessionId = none →
      (request.targetPaneId daemon.session).1.version = daemon.session.version
  | _ => True

/-- Connections that are accepted while there are clients leave the version alone. -/
def ArrivalsPublished (config : LiveConfig) : List Arrival → LiveLoop σ η → Prop
  | [], _ => True
  | arrival :: rest, loop => config.connectionLimit.acceptsMore loop.acceptedClients = true →
    (loop.clients = [] ∨ arrival.KeepsVersion engine host loop.daemon) ∧
    ∀ after, loop.acceptArrival engine host arrival = (.ok (), after) →
      ArrivalsPublished config rest after

/-- A drain that is cut short, by a frame that closes it or by a closed socket, has left the version
alone. -/
def DrainPublished (client : LiveAttachedClient) (daemon : Daemon σ η) (clientReads : ClientReads) : Prop :=
  match drainLiveClientFrames engine host clientReads.nowMonoMs client daemon .none clientReads.frames with
  | (.ok (.open _ _), _, _) => True
  | (.ok .closed, _, after) => after.session.version = daemon.session.version
  | (.error error, _, after) =>
    isSocketClosed error = true → after.session.version = daemon.session.version

/-- The panes that exist have the size the clients agree on, if they do. -/
def Settled (clients : List LiveAttachedClient) (session : Session) (paneIds : List String) : Prop :=
  ∀ paneId ∈ paneIds, ∀ size current, smallestReadWriteFrontendResize clients paneId = some size →
    session.paneSize paneId = some current → current = size

/-- A round in which whatever moves the version is published. -/
structure RoundPublished (config : LiveConfig) (loop : LiveLoop σ η) (inputs : RoundInputs) : Prop where
  arrivals : ArrivalsPublished engine host config inputs.arrivals loop
  drains : ∀ accepted, loop.acceptArrivals engine host config inputs.arrivals = (.ok (), accepted) →
    DrainsAllowed engine host (DrainPublished engine host) inputs.reads 0 accepted.clients accepted.daemon
  departures : ∀ accepted marked served,
    loop.acceptArrivals engine host config inputs.arrivals = (.ok (), accepted) →
    accepted.serveClients engine host config inputs = (.ok marked, served) →
    Settled marked.staying served.daemon.session (frontendResizeKeys marked.leaving)

variable {engine host}

/-! ### Versions -/

section
variable {daemon reached : Daemon σ η}

/-- Output of panes never moves the version. -/
theorem version_of_output {okCall : HostCall η → Prop}
    (h : Daemon.Serves engine (fun _ event => ∃ paneId bytes, event = .paneOutput paneId bytes) okCall
      daemon reached) : reached.session.version = daemon.session.version := by
  refine h.invariant (I := fun session => session.version = daemon.session.version)
    (fun core pending hversion houtput => ?_) rfl
  obtain ⟨sourceId, lane, now, event⟩ := pending
  obtain ⟨paneId, bytes, rfl⟩ := houtput
  exact (Session.applyPaneOutput_version engine _ _ _).trans hversion

theorem pollPanes_version (hidle : daemon.actor.Idle) (sessionMonoMs : UInt64) (reads : Nat)
    (paneIds : List String) :
    (daemon.pollPanes engine host sessionMonoMs reads paneIds).2.session.version =
      daemon.session.version := by
  have hserves : Daemon.Serves engine (fun _ event => ∃ paneId bytes, event = .paneOutput paneId bytes)
      (fun _ => True) daemon (daemon.pollPanes engine host sessionMonoMs reads paneIds).2 :=
    (Daemon.pollPanes_serves hidle reads paneIds (fun _ _ _ _ => ⟨_, _, rfl⟩) (fun _ _ _ => trivial)
      fun _ _ _ _ => trivial).1
  exact version_of_output hserves

theorem pollPanesUntilQuiet_version (hidle : daemon.actor.Idle) (paneIds : List String)
    (sessionMonoMs : UInt64) (reads rounds : Nat) :
    (daemon.pollPanesUntilQuiet engine host paneIds sessionMonoMs reads rounds).2.session.version =
      daemon.session.version := by
  have hserves : Daemon.Serves engine (fun _ event => ∃ paneId bytes, event = .paneOutput paneId bytes)
      (fun _ => True) daemon
      (daemon.pollPanesUntilQuiet engine host paneIds sessionMonoMs reads rounds).2 :=
    (Daemon.pollPanesUntilQuiet_serves hidle reads rounds paneIds (fun _ _ _ _ => ⟨_, _, rfl⟩)
      (fun _ _ _ => trivial) fun _ _ _ _ => trivial).1
  exact version_of_output hserves

/-! ### Connections -/

theorem serveControlCommand_version {command : ControlCommandSummary} {stream : ClientStream}
    (h : (daemon.applyControlCommandWithSessionActor engine (some host) command).2.session.version =
      daemon.session.version) :
    (serveControlCommand engine host stream command daemon).2.2.session.version =
      daemon.session.version := by
  unfold serveControlCommand
  split
  · rfl
  · split
    all_goals (rename_i heq; rw [heq] at h; exact h)

theorem serveHealthProbe_version (hidle : daemon.actor.Idle) (stream : ClientStream)
    (probe : PresenceSummary) (reads rounds : Nat) :
    (serveHealthProbe engine host stream probe daemon reads rounds).2.2.session.version =
      daemon.session.version := by
  have hpoll : (daemon.pollPanesUntilQuiet engine host daemon.session.leafPaneIds 0 reads
      rounds).2.session.version = daemon.session.version := pollPanesUntilQuiet_version hidle _ _ _ _
  unfold serveHealthProbe
  split
  · rfl
  · split
    case h_1 heq => rw [heq] at hpoll; exact hpoll
    case h_2 heq =>
      rw [heq] at hpoll
      split <;> exact hpoll

theorem attachLiveClient_version (hidle : daemon.actor.Idle) (arrival : Arrival) (request : AttachRequest)
    (connectionId paneId : String) (leafPaneIds : List String) :
    (attachLiveClient engine host arrival request connectionId paneId leafPaneIds daemon).2.session.version =
      daemon.session.version := by
  have hpoll : (daemon.pollPanesUntilQuiet engine host leafPaneIds arrival.nowMonoMs arrival.reads
      arrival.rounds).2.session.version = daemon.session.version := pollPanesUntilQuiet_version hidle _ _ _ _
  unfold attachLiveClient
  dsimp only
  split
  all_goals
    rename_i heq
    rw [heq] at hpoll
    split <;> exact hpoll

theorem acceptLiveClient_version (hidle : daemon.actor.Idle) {arrival : Arrival}
    (h : arrival.KeepsVersion engine host daemon) (connectionId : String) :
    (acceptLiveClient engine host arrival connectionId daemon).2.session.version =
      daemon.session.version := by
  unfold Arrival.KeepsVersion at h
  unfold acceptLiveClient
  dsimp only
  split
  case h_1 => rfl
  case h_2 command hinitial =>
    rw [hinitial] at h
    have hcommand : (serveControlCommand engine host (.fresh arrival.writes) command
      daemon).2.2.session.version = daemon.session.version := serveControlCommand_version h
    split
    all_goals (rename_i heq; rw [heq] at hcommand; exact hcommand)
  case h_3 probe _ =>
    have hprobe : (serveHealthProbe engine host (.fresh arrival.writes) probe daemon arrival.reads
      arrival.rounds).2.2.session.version = daemon.session.version := serveHealthProbe_version hidle _ _ _ _
    split
    all_goals (rename_i heq; rw [heq] at hprobe; exact hprobe)
  case h_4 targetSessionId request hinitial =>
    rw [hinitial] at h
    split
    · rfl
    case h_2 hmismatch =>
      have htarget := h hmismatch
      split
      case h_1 session paneId heq =>
        rw [heq] at htarget
        have hidle' : (daemon.setSession session).actor.Idle := hidle
        exact (attachLiveClient_version hidle' _ _ _ _ _).trans htarget
      case h_2 session heq =>
        rw [heq] at htarget
        split <;> exact htarget

/-- A client that is attached was sent the workspace, or leaves with the round. -/
theorem attachLiveClient_upToDate {arrival : Arrival} {request : AttachRequest}
    {connectionId paneId : String} {leafPaneIds : List String} {client : LiveAttachedClient}
    (h : attachLiveClient engine host arrival request connectionId paneId leafPaneIds daemon =
      (.ok (.attached client), reached)) : UpToDate reached.session.version client := by
  unfold attachLiveClient at h
  dsimp only at h
  split at h
  · split at h
    · cases h
    · simp only [Prod.mk.injEq, Except.ok.injEq, LiveClientAccept.attached.injEq] at h
      exact .inr (h.1 ▸ rfl)
  case h_2 polled _ =>
    split at h
    · cases h
    case h_2 written hwritten =>
      simp only [Prod.mk.injEq, Except.ok.injEq, LiveClientAccept.attached.injEq] at h
      obtain ⟨rfl, rfl⟩ := h
      refine .inl ⟨polled.session.workspaceTreeFrame "local-client" 1, ?_, rfl⟩
      show _ ∈ written.written
      rw [ClientStream.writeAll_ok hwritten]
      exact List.mem_append_right _ List.mem_cons_self

theorem acceptLiveClient_upToDate {arrival : Arrival} {connectionId : String} {client : LiveAttachedClient}
    (h : acceptLiveClient engine host arrival connectionId daemon = (.ok (.attached client), reached)) :
    UpToDate reached.session.version client := by
  unfold acceptLiveClient at h
  dsimp only at h
  split at h
  · cases h
  · split at h <;> cases h
  · split at h <;> cases h
  · split at h
    case h_1 target _ =>
      have hwritten := congrArg Prod.fst h
      cases hrejected : ((ClientStream.fresh arrival.writes).writeProtocolError .sessionNotFound
        ("session not found: " ++ target) none 0).1 <;> simp [hrejected, Except.map] at hwritten
    · split at h
      · exact attachLiveClient_upToDate h
      · split at h
        · cases h
        · simp only [Prod.mk.injEq, Except.ok.injEq, LiveClientAccept.attached.injEq] at h
          exact .inr (h.1 ▸ rfl)

end

theorem Informed.sent {version : UInt64} {client after : LiveAttachedClient} (h : Informed version client)
    (hsent : SentMore client after) : Informed version after := by
  obtain ⟨frame, hmem, hversion⟩ := h
  exact ⟨frame, hsent.queued hmem, hversion⟩

/-- A broadcast that sends the workspace informs the client, unless it fails. -/
theorem LiveAttachedClient.writeChanges_informs {client after : LiveAttachedClient} {session : Session}
    {changedWorkspace : Bool} {paneIds : List String} (hsends : changedWorkspace = true)
    (h : client.writeChanges session changedWorkspace paneIds = (.ok (), after)) :
    Informed session.version after := by
  unfold writeChanges at h
  rw [if_pos hsends] at h
  split at h
  · cases h
  case h_2 sent hqueue =>
    have hmem := client.queueReliableFrame_ok hqueue
    have hmore := sent.signalChangedSurfaceFrames_only session paneIds
    rw [h] at hmore
    exact ⟨_, hmore.queued hmem, rfl⟩

theorem UpToDate.sent {version : UInt64} {client after : LiveAttachedClient} (h : UpToDate version client)
    (hsent : SentMore client after) : UpToDate version after :=
  h.imp (·.sent hsent) fun hcycles => hsent.completedCycles.trans hcycles

theorem AllSentMore.upToDate {version : UInt64} {clients after : List LiveAttachedClient}
    (hsent : AllSentMore clients after) (h : ∀ client ∈ clients, UpToDate version client) :
    ∀ client ∈ after, UpToDate version client := by
  intro client hmem
  obtain ⟨before, hbefore, hmore⟩ := hsent client hmem
  exact (h before hbefore).sent hmore

theorem LiveLoop.join_upToDate {loop after : LiveLoop σ η} {client : LiveAttachedClient}
    {version : UInt64} (hjoin : loop.join client = (.ok (), after))
    (hclients : ∀ client ∈ loop.clients, UpToDate version client) (hclient : UpToDate version client) :
    after.daemon = loop.daemon ∧ ∀ client ∈ after.clients, UpToDate version client := by
  unfold LiveLoop.join at hjoin
  dsimp only at hjoin
  split at hjoin
  · cases hjoin
  case h_2 shown hshown =>
    have hdaemon := congrArg (fun result => result.2.daemon) hshown
    rw [LiveLoop.publishInventory_daemon] at hdaemon
    have hsent : AllSentMore loop.clients shown.clients := by
      refine AllSentMore.trans (.map fun existing => (existing.writePresence_only client.actor).toSentMore) ?_
      rw [show shown = _ from (congrArg Prod.snd hshown).symm]
      exact LiveLoop.publishInventory_sent _ _ _ _
    obtain ⟨-, rfl⟩ := Prod.mk.inj hjoin
    refine ⟨hdaemon.symm, fun joined hmem => ?_⟩
    rcases List.mem_append.mp hmem with hmem | hmem
    · exact hsent.upToDate hclients joined hmem
    · obtain rfl := List.mem_singleton.mp hmem
      exact hclient.sent ((client.writePresences_only _).toSentMore.trans
        (LiveAttachedClient.writeClientInventorySnapshot_sent _ _ _))

/-- A connection that leaves the version alone leaves every client up to date, and so does the first. -/
theorem LiveLoop.acceptArrival_upToDate {loop after : LiveLoop σ η} {arrival : Arrival}
    (haccept : loop.acceptArrival engine host arrival = (.ok (), after))
    (hidle : loop.daemon.actor.Idle)
    (hclients : ∀ client ∈ loop.clients, UpToDate loop.daemon.session.version client)
    (hkeeps : loop.clients = [] ∨ arrival.KeepsVersion engine host loop.daemon) :
    ∀ client ∈ after.clients, UpToDate after.daemon.session.version client := by
  have hkept : ∀ client ∈ loop.clients, UpToDate (acceptLiveClient engine host arrival
      ("conn-" ++ toString loop.nextConnectionId) loop.daemon).2.session.version client := by
    rcases hkeeps with hnone | hkeeps
    · rw [hnone]
      nofun
    · rw [acceptLiveClient_version hidle hkeeps]
      exact hclients
  unfold LiveLoop.acceptArrival at haccept
  split at haccept
  · cases haccept
  · cases haccept
  case h_3 daemon heq =>
    rw [heq] at hkept
    obtain ⟨-, rfl⟩ := Prod.mk.inj haccept
    exact hkept
  case h_4 client daemon heq =>
    rw [heq] at hkept
    split at haccept
    · cases haccept
    case h_2 joined hjoin =>
      obtain ⟨-, rfl⟩ := Prod.mk.inj haccept
      obtain ⟨hdaemon, hjoined⟩ := LiveLoop.join_upToDate hjoin hkept (acceptLiveClient_upToDate heq)
      rw [hdaemon]
      exact hjoined

theorem LiveLoop.acceptArrivals_upToDate {config : LiveConfig} {arrivals : List Arrival}
    {loop after : LiveLoop σ η}
    (haccept : loop.acceptArrivals engine host config arrivals = (.ok (), after))
    (hidle : loop.daemon.actor.Idle)
    (hclients : ∀ client ∈ loop.clients, UpToDate loop.daemon.session.version client)
    (hpublished : ArrivalsPublished engine host config arrivals loop) :
    after.daemon.actor.Idle ∧ ∀ client ∈ after.clients, UpToDate after.daemon.session.version client := by
  induction arrivals generalizing loop with
  | nil =>
    obtain ⟨-, rfl⟩ := Prod.mk.inj haccept
    exact ⟨hidle, hclients⟩
  | cons arrival rest ih =>
    unfold LiveLoop.acceptArrivals at haccept
    split at haccept
    case isTrue hmore =>
      obtain ⟨hkeeps, hrest⟩ := hpublished hmore
      have hidle' : (loop.acceptArrival engine host arrival).2.daemon.actor.Idle :=
        loop.acceptArrival_idle arrival hidle
      split at haccept
      · cases haccept
      case h_2 accepted heq =>
        rw [heq] at hidle'
        exact ih haccept hidle' (LiveLoop.acceptArrival_upToDate heq hidle hclients hkeeps) (hrest _ heq)
    case isFalse =>
      obtain ⟨-, rfl⟩ := Prod.mk.inj haccept
      exact ⟨hidle, hclients⟩

/-! ### Resizes -/

section
variable {daemon : Daemon σ η}

/-- A viewport that is said to have changed nothing has left the session alone. -/
theorem applyConcurrentFrontendResize_unchanged (hidle : daemon.actor.Idle)
    {clients : List LiveAttachedClient} {paneId : String} {sessionMonoMs : UInt64}
    (h : (applyConcurrentFrontendResize engine host clients daemon paneId sessionMonoMs).1 = .ok false) :
    (applyConcurrentFrontendResize engine host clients daemon paneId sessionMonoMs).2.session =
      daemon.session := by
  unfold applyConcurrentFrontendResize at h ⊢
  split at h
  · rfl
  case h_2 cols rows _ =>
    by_cases hsize : daemon.session.paneSize paneId = some (cols, rows)
    · rw [if_pos hsize]
    · rw [if_neg hsize] at h ⊢
      have hidle' : (daemon.resizePane host paneId cols rows).2.actor.Idle := hidle
      split at h
      · cases h
      case h_2 resized hcall =>
        obtain rfl : _ = resized := congrArg Prod.snd hcall
        exact Daemon.commitPaneResize_unchanged hidle' h

theorem applyConcurrentFrontendResize_idle (hidle : daemon.actor.Idle) (clients : List LiveAttachedClient)
    (paneId : String) (sessionMonoMs : UInt64) :
    (applyConcurrentFrontendResize engine host clients daemon paneId sessionMonoMs).2.actor.Idle := by
  have hserves : ServesPanes engine (fun _ => True) daemon
      (applyConcurrentFrontendResize engine host clients daemon paneId sessionMonoMs).2 :=
    applyConcurrentFrontendResize_servesPanes hidle
      (fun _ _ => .inr ⟨fun _ _ _ => trivial, fun _ _ => trivial⟩) sessionMonoMs
  exact hserves.idle hidle

theorem applyFrontendResizes_unchanged (hidle : daemon.actor.Idle) {clients : List LiveAttachedClient}
    {sessionMonoMs : UInt64} {paneIds : List String}
    (h : (applyFrontendResizes engine host clients sessionMonoMs daemon paneIds).1 = .ok false) :
    (applyFrontendResizes engine host clients sessionMonoMs daemon paneIds).2.session =
      daemon.session := by
  induction paneIds generalizing daemon with
  | nil => rfl
  | cons paneId rest ih =>
    have hfirst : (applyConcurrentFrontendResize engine host clients daemon paneId sessionMonoMs).1 =
        .ok false → (applyConcurrentFrontendResize engine host clients daemon paneId
          sessionMonoMs).2.session = daemon.session := applyConcurrentFrontendResize_unchanged hidle
    have hidle' : (applyConcurrentFrontendResize engine host clients daemon paneId
        sessionMonoMs).2.actor.Idle := applyConcurrentFrontendResize_idle hidle _ _ _
    unfold applyFrontendResizes at h ⊢
    split at h
    · cases h
    case h_2 changed resized heq =>
      rw [heq] at hfirst hidle'
      split at h
      · cases h
      case h_2 more last hrest =>
        simp only [Except.ok.injEq, Bool.or_eq_false_iff] at h
        obtain ⟨rfl, rfl⟩ := h
        have hlast := ih hidle' (congrArg Prod.fst hrest)
        rw [hrest] at hlast
        exact hlast.trans (hfirst rfl)

/-- Where the panes have the size the clients agree on, nothing is resized. -/
theorem applyConcurrentFrontendResize_settled (hidle : daemon.actor.Idle)
    {clients : List LiveAttachedClient} {paneId : String} (sessionMonoMs : UInt64)
    (hsettled : Settled clients daemon.session [paneId]) :
    (applyConcurrentFrontendResize engine host clients daemon paneId sessionMonoMs).2.session =
      daemon.session := by
  rcases applyConcurrentFrontendResize_daemon clients daemon paneId sessionMonoMs with
    hsame | ⟨cols, rows, hsmallest, hsize, hresizes⟩
  · rw [hsame]
  · -- only a pane that does not exist is not in place, and it is not resized
    have hpane : daemon.session.pane paneId = none := by
      by_contra hpane
      obtain ⟨pane, hpane⟩ := Option.ne_none_iff_exists'.mp hpane
      refine hsize ?_
      have hcurrent : daemon.session.paneSize paneId = some (pane.state.cols, pane.state.rows) := by
        rw [Session.paneSize, hpane, Option.map_some]
      rw [hcurrent, hsettled paneId List.mem_cons_self _ _ hsmallest hcurrent]
    have hidle' : (daemon.resizePane host paneId cols rows).2.actor.Idle := hidle
    revert hresizes
    generalize (applyConcurrentFrontendResize engine host clients daemon paneId sessionMonoMs).2 = after
    intro hresizes
    cases hresizes with
    | refused => rfl
    | committed =>
      rw [Daemon.commitPaneResize_session hidle', Session.commitPaneResizeWithEngine]
      rw [show (daemon.resizePane host paneId cols rows).2.session = daemon.session from rfl, hpane]

theorem applyFrontendResizes_settled (hidle : daemon.actor.Idle) {clients : List LiveAttachedClient}
    (sessionMonoMs : UInt64) {paneIds : List String} (hsettled : Settled clients daemon.session paneIds) :
    (applyFrontendResizes engine host clients sessionMonoMs daemon paneIds).2.session =
      daemon.session := by
  induction paneIds generalizing daemon with
  | nil => rfl
  | cons paneId rest ih =>
    have hfirst : (applyConcurrentFrontendResize engine host clients daemon paneId
        sessionMonoMs).2.session = daemon.session :=
      applyConcurrentFrontendResize_settled hidle sessionMonoMs fun other hmem => hsettled other (by
        rw [List.mem_singleton.mp hmem]
        exact List.mem_cons_self)
    have hidle' : (applyConcurrentFrontendResize engine host clients daemon paneId
        sessionMonoMs).2.actor.Idle := applyConcurrentFrontendResize_idle hidle _ _ _
    unfold applyFrontendResizes
    split
    case h_1 heq => rwa [heq] at hfirst
    case h_2 changed resized heq =>
      rw [heq] at hfirst hidle'
      have hrest := ih hidle' fun other hmem => hfirst ▸ hsettled other (List.mem_cons_of_mem _ hmem)
      split
      case h_1 heq => rw [heq] at hrest; exact hrest.trans hfirst
      case h_2 heq => rw [heq] at hrest; exact hrest.trans hfirst

/-! ### Drains -/

/-- A flag stays up, and is up if the version moved. -/
structure Flagged (before after : Bool) (daemon reached : Daemon σ η) : Prop where
  stays : before = true → after = true
  up : after = true ∨ reached.session.version = daemon.session.version

theorem Flagged.same {before : Bool} {daemon reached : Daemon σ η} (h : reached.session = daemon.session) :
    Flagged before before daemon reached := ⟨id, .inr (h ▸ rfl)⟩

theorem Flagged.trans {before middle after : Bool} {daemon between reached : Daemon σ η}
    (first : Flagged before middle daemon between) (second : Flagged middle after between reached) :
    Flagged before after daemon reached := by
  refine ⟨fun h => second.stays (first.stays h), ?_⟩
  rcases second.up with hup | hsame
  · exact .inl hup
  · rcases first.up with hup | hbefore
    · exact .inl (second.stays hup)
    · exact .inr (hsame.trans hbefore)

/-- A resize intent moves the version only if it raises the flag of its drain. -/
theorem drainResize_flagged (hidle : daemon.actor.Idle) {client client' : LiveAttachedClient}
    {drain drain' : ClientDrain} {resize : ResizeIntentSummary} {nowMonoMs : UInt64}
    {reached : Daemon σ η} (h : drainResize engine host client daemon drain resize nowMonoMs =
      (.next drain', client', reached)) :
    Flagged drain.changedWorkspace drain'.changedWorkspace daemon reached := by
  have hanswered {answer : Except ServeError Unit × LiveAttachedClient} {daemon' : Daemon σ η}
      (h : answered .closed answer daemon' = (.next drain', client', reached)) : False := by
    obtain ⟨error | _, answering⟩ := answer <;> cases h
  unfold drainResize at h
  dsimp only at h
  split at h
  · exact (hanswered h).elim
  split at h
  · exact (hanswered h).elim
  split at h
  · cases h
    exact .same rfl
  split at h
  · cases h
    exact .same rfl
  split at h
  · exact (hanswered h).elim
  case h_2 resized hcall =>
    obtain rfl : _ = resized := congrArg Prod.snd hcall
    have hidle' : (daemon.resizePane host resize.paneId resize.cols resize.rows).2.actor.Idle := hidle
    split at h
    · cases h
    case h_2 changed committed hcommit =>
      cases h
      refine ⟨fun hup => by simp [hup], ?_⟩
      cases changed with
      | true => exact .inl (Bool.or_true _)
      | false =>
        have hsame := Daemon.commitPaneResize_unchanged hidle' (congrArg Prod.fst hcommit)
        rw [hcommit] at hsame
        exact .inr (congrArg Session.version hsame)

theorem drainFrame_flagged (hidle : daemon.actor.Idle) {client client' : LiveAttachedClient}
    {drain drain' : ClientDrain} {nowMonoMs : UInt64} {frame : LiveClientFrame} {reached : Daemon σ η}
    (h : drainFrame engine host client daemon drain nowMonoMs frame = (.next drain', client', reached)) :
    Flagged drain.changedWorkspace drain'.changedWorkspace daemon reached := by
  have hanswered {after : FrameResult} {answer : Except ServeError Unit × LiveAttachedClient}
      (hafter : after = .next drain ∨ after = .closed)
      (h : answered after answer daemon = (.next drain', client', reached)) :
      Flagged drain.changedWorkspace drain'.changedWorkspace daemon reached := by
    obtain ⟨error | _, answering⟩ := answer
    · cases h
    · rcases hafter with rfl | rfl
      · cases h
        exact .same rfl
      · cases h
  cases frame with
  | resize resize => exact drainResize_flagged hidle h
  | scrollback fetch =>
    unfold drainFrame drainScrollback at h
    dsimp only at h
    split at h
    · exact hanswered (.inl rfl) h
    split at h
    · exact hanswered (.inr rfl) h
    · exact hanswered (.inl rfl) h
  | input input =>
    unfold drainFrame drainInput at h
    dsimp only at h
    split at h
    · exact hanswered (.inr rfl) h
    · have hsame : (forwardLiveInput engine host
          { client with lastSeenMonoMs := nowMonoMs, lastInputMonoMs := some nowMonoMs } daemon input
          nowMonoMs).2.2.session = daemon.session := forwardLiveInput_session hidle _ input nowMonoMs
      split at h
      · cases h
      case h_2 heq =>
        rw [heq] at hsame
        cases h
        exact .same hsame
  | ping ping => exact hanswered (.inl rfl) h

theorem drainFrame_idle (hidle : daemon.actor.Idle) (client : LiveAttachedClient) (drain : ClientDrain)
    (nowMonoMs : UInt64) (frame : LiveClientFrame) :
    (drainFrame engine host client daemon drain nowMonoMs frame).2.2.actor.Idle := by
  have hserves : ServesPanes engine (fun _ => True) daemon
      (drainFrame engine host client daemon drain nowMonoMs frame).2.2 := by
    refine drainFrame_servesPanes hidle client drain nowMonoMs ?_
    cases frame with
    | resize => exact fun _ _ _ _ => ⟨fun _ _ _ => trivial, fun _ _ => trivial⟩
    | scrollback => trivial
    | input => exact fun _ _ _ _ _ => trivial
    | ping => trivial
  exact hserves.idle hidle

/-- A drain that comes to its end moves the version only if it raises its flag. -/
theorem drainLiveClientFrames_flagged (hidle : daemon.actor.Idle) {client client' : LiveAttachedClient}
    {drain drain' : ClientDrain} {nowMonoMs : UInt64} {reads : List (Except ServeError LiveClientRead)}
    {closes : Bool} {reached : Daemon σ η}
    (h : drainLiveClientFrames engine host nowMonoMs client daemon drain reads =
      (.ok (.open drain' closes), client', reached)) :
    Flagged drain.changedWorkspace drain'.changedWorkspace daemon reached := by
  induction reads generalizing client daemon drain with
  | nil =>
    cases h
    exact .same rfl
  | cons read rest ih =>
    match read with
    | .error error => cases h
    | .ok .closed =>
      cases h
      exact .same rfl
    | .ok (.frame frame) =>
      have hidle' : (drainFrame engine host client daemon drain nowMonoMs frame).2.2.actor.Idle :=
        drainFrame_idle hidle client drain nowMonoMs frame
      unfold drainLiveClientFrames at h
      split at h
      · cases h
      · cases h
      case h_3 heq =>
        rw [heq] at hidle'
        exact (drainFrame_flagged hidle heq).trans (ih hidle' h)

theorem drainLiveClientFrames_idle (hidle : daemon.actor.Idle) (client : LiveAttachedClient)
    (drain : ClientDrain) (nowMonoMs : UInt64) (reads : List (Except ServeError LiveClientRead)) :
    (drainLiveClientFrames engine host nowMonoMs client daemon drain reads).2.2.actor.Idle := by
  induction reads generalizing client daemon drain with
  | nil => exact hidle
  | cons read rest ih =>
    match read with
    | .error error => exact hidle
    | .ok .closed => exact hidle
    | .ok (.frame frame) =>
      have hidle' : (drainFrame engine host client daemon drain nowMonoMs frame).2.2.actor.Idle :=
        drainFrame_idle hidle client drain nowMonoMs frame
      unfold drainLiveClientFrames
      split
      case h_1 heq => rwa [heq] at hidle'
      case h_2 heq => rwa [heq] at hidle'
      case h_3 heq =>
        rw [heq] at hidle'
        exact ih hidle' _ _

/-- The round takes over the flag of a drain that came to its end; one that was cut short has left the
version alone. -/
theorem drained_flagged (hidle : daemon.actor.Idle) {client : LiveAttachedClient} {round after : LiveRound}
    {clientReads : ClientReads} {leaves : Bool}
    (hpublished : DrainPublished engine host client daemon clientReads)
    (h : round.drained (drainLiveClientFrames engine host clientReads.nowMonoMs client daemon .none
        clientReads.frames).2.1 (drainLiveClientFrames engine host clientReads.nowMonoMs client daemon .none
        clientReads.frames).1 = .ok (after, leaves)) :
    Flagged round.changedWorkspace after.changedWorkspace daemon
      (drainLiveClientFrames engine host clientReads.nowMonoMs client daemon .none
        clientReads.frames).2.2 := by
  unfold DrainPublished at hpublished
  rcases hdrain : drainLiveClientFrames engine host clientReads.nowMonoMs client daemon .none
    clientReads.frames with ⟨status, client', reached⟩
  rw [hdrain] at h hpublished
  rcases status with error | ⟨drain, closes⟩ | _
  · simp only [LiveRound.drained] at h
    split at h
    · cases h
      exact ⟨id, .inr (hpublished ‹_›)⟩
    · cases h
  · have hflag : Flagged false drain.changedWorkspace daemon reached :=
      drainLiveClientFrames_flagged hidle hdrain
    cases h
    refine ⟨fun hup => by simp [hup], ?_⟩
    rcases hflag.up with hup | hsame
    · exact .inl (by simp [hup])
    · exact .inr hsame
  · cases h
    exact ⟨id, .inr hpublished⟩

/-- The drains of a round move the version only if they raise its flag, where what is cut short has left
the version alone. -/
theorem drainReadableClients_flagged (hidle : daemon.actor.Idle) {reads : Nat → Option ClientReads}
    {index : Nat} {clients : List LiveAttachedClient} {round after : LiveRound} {marked : MarkedClients}
    {reached : Daemon σ η}
    (h : drainReadableClients engine host reads index clients daemon round = (.ok after, marked, reached))
    (hpublished : DrainsAllowed engine host (DrainPublished engine host) reads index clients daemon) :
    reached.actor.Idle ∧ Flagged round.changedWorkspace after.changedWorkspace daemon reached := by
  induction clients generalizing index daemon round marked with
  | nil =>
    cases h
    exact ⟨hidle, .same rfl⟩
  | cons client rest ih =>
    unfold DrainsAllowed at hpublished
    unfold drainReadableClients at h
    split at h
    case h_1 hnone =>
      rw [hnone] at hpublished
      rcases hrest : drainReadableClients engine host reads (index + 1) rest daemon round with
        ⟨result, marked', reached'⟩
      rw [hrest] at h
      cases h
      exact ih hidle hrest hpublished
    case h_2 clientReads hsome =>
      rw [hsome] at hpublished
      obtain ⟨hdrain, hothers⟩ := hpublished
      have hidle' : (drainLiveClientFrames engine host clientReads.nowMonoMs client daemon .none
          clientReads.frames).2.2.actor.Idle := drainLiveClientFrames_idle hidle _ _ _ _
      dsimp only at h
      split at h
      · cases h
      case h_2 drained leaves heq =>
        have hflag := drained_flagged hidle hdrain heq
        rcases hrest : drainReadableClients engine host reads (index + 1) rest (drainLiveClientFrames engine
            host clientReads.nowMonoMs client daemon .none clientReads.frames).2.2 drained with
          ⟨result, marked', reached'⟩
        rw [hrest] at h
        cases h
        obtain ⟨hlast, hflags⟩ := ih hidle' hrest hothers
        exact ⟨hlast, hflag.trans hflags⟩

theorem applyFrontendResizes_flagged (hidle : daemon.actor.Idle) {clients : List LiveAttachedClient}
    {sessionMonoMs : UInt64} {paneIds : List String} {changed : Bool} {reached : Daemon σ η}
    (h : applyFrontendResizes engine host clients sessionMonoMs daemon paneIds = (.ok changed, reached))
    (flag : Bool) : reached.actor.Idle ∧ Flagged flag (flag || changed) daemon reached := by
  have hserves : ServesPanes engine (fun _ => True) daemon
      (applyFrontendResizes engine host clients sessionMonoMs daemon paneIds).2 :=
    applyFrontendResizes_servesPanes sessionMonoMs hidle fun _ _ _ _ =>
      .inr ⟨fun _ _ _ => trivial, fun _ _ => trivial⟩
  have hidle' := hserves.idle hidle
  have hsame : (applyFrontendResizes engine host clients sessionMonoMs daemon paneIds).1 = .ok false →
      (applyFrontendResizes engine host clients sessionMonoMs daemon paneIds).2.session =
        daemon.session := applyFrontendResizes_unchanged hidle
  rw [h] at hidle' hsame
  refine ⟨hidle', fun hup => by simp [hup], ?_⟩
  cases changed with
  | true => exact .inl (Bool.or_true _)
  | false => exact .inr (congrArg Session.version (hsame rfl))

end

/-! ### Rounds -/

namespace LiveLoop

variable {config : LiveConfig} {inputs : RoundInputs} {loop after : LiveLoop σ η}

theorem drain_flagged {round : LiveRound} {marked : MarkedClients}
    (h : loop.drain engine host inputs = (.ok (round, marked), after)) (hidle : loop.daemon.actor.Idle)
    (hpublished : DrainsAllowed engine host (DrainPublished engine host) inputs.reads 0 loop.clients
      loop.daemon) :
    after.daemon.actor.Idle ∧ Flagged false round.changedWorkspace loop.daemon after.daemon ∧
      AllSentMore loop.clients marked.all := by
  have hsent : AllSentMore loop.clients (drainReadableClients engine host inputs.reads 0 loop.clients
      loop.daemon .none).2.1.all := .of_other (drainReadableClients_other _ _ _ _ _)
  unfold drain at h
  split at h
  · cases h
  case h_2 heq =>
    rw [heq] at hsent
    cases h
    obtain ⟨hidle', hflag⟩ := drainReadableClients_flagged hidle heq hpublished
    exact ⟨hidle', hflag, hsent⟩

theorem settle_flagged {round settled : LiveRound} {marked : MarkedClients}
    (h : loop.settle engine host inputs round marked = (.ok settled, after))
    (hidle : loop.daemon.actor.Idle) :
    after.daemon.actor.Idle ∧
      Flagged round.changedWorkspace settled.changedWorkspace loop.daemon after.daemon ∧
      AllSentMore marked.all after.clients := by
  unfold settle at h
  split at h
  · cases h
  case h_2 changed resized hresize =>
    obtain ⟨hidle', hflag⟩ := applyFrontendResizes_flagged hidle hresize round.changedWorkspace
    have hleft := publishInventory_sent { loop with daemon := resized, clients := marked.staying } [] []
      (marked.leaving.map LiveAttachedClient.connectionId)
    have hdaemon := publishInventory_daemon { loop with daemon := resized, clients := marked.staying } [] []
      (marked.leaving.map LiveAttachedClient.connectionId)
    split at h
    · cases h
    case h_2 left heq =>
      rw [heq] at hleft hdaemon
      have hidle'' : left.daemon.actor.Idle := hdaemon ▸ hidle'
      split at h
      · cases h
      case h_2 more closed hclosing =>
        obtain ⟨hlast, hmore⟩ := applyFrontendResizes_flagged hidle'' hclosing
          (round.changedWorkspace || changed)
        have hupdated := publishInventory_sent { left with daemon := closed } []
          (round.inventoryUpdates.filter fun updated =>
            left.clients.any (·.connectionId == updated.connectionId)) []
        have hsame := publishInventory_daemon { left with daemon := closed } []
          (round.inventoryUpdates.filter fun updated =>
            left.clients.any (·.connectionId == updated.connectionId)) []
        split at h
        · cases h
        case h_2 heq =>
          rw [heq] at hupdated hsame
          cases h
          have hstaying : marked.staying ⊆ marked.all :=
            List.map_subset _ List.filter_sublist.subset
          dsimp only at hdaemon hsame
          rw [hdaemon] at hmore
          refine ⟨hsame ▸ hlast, hsame ▸ hflag.trans hmore, ?_⟩
          exact ((AllSentMore.of_subset hstaying).trans hleft).trans hupdated

/-! ### Broadcasts -/

/-- Every client leaves, or is as `P` says. -/
def AllButLeaving (P : LiveAttachedClient → Prop) (marked : MarkedClients) : Prop :=
  ∀ client ∈ marked, client.2 = true ∨ P client.1

/-- A broadcast leaves every client that stays up to date, if it sends the workspace or all of them were. -/
theorem broadcast_upToDate {session : Session} {changedWorkspace : Bool} {paneIds : List String}
    {complete : LiveAttachedClient → LiveAttachedClient × Bool} {P : LiveAttachedClient → Prop}
    (hcomplete : ∀ client, UpToDate session.version client → (complete client).2 = true ∨
      P (complete client).1) {marked sent : MarkedClients}
    (h : broadcast session changedWorkspace paneIds complete marked = (.ok (), sent))
    (hclients : changedWorkspace = true ∨ AllButLeaving (UpToDate session.version) marked) :
    AllButLeaving P sent := by
  induction marked generalizing sent with
  | nil =>
    cases h
    nofun
  | cons head rest ih =>
    obtain ⟨client, leaves⟩ := head
    have hrest : changedWorkspace = true ∨ AllButLeaving (UpToDate session.version) rest :=
      hclients.imp_right fun h client hmem => h client (List.mem_cons_of_mem _ hmem)
    have hmore := (client.writeChanges_only session changedWorkspace paneIds).toSentMore
    unfold broadcast at h
    rcases hothers : broadcast session changedWorkspace paneIds complete rest with ⟨result, others⟩
    split at h
    case h_1 error client' hwrite =>
      split at h
      · rw [hothers] at h
        cases h
        intro marked' hmem
        rcases List.mem_cons.mp hmem with rfl | hmem
        · exact .inl rfl
        · exact ih hothers hrest marked' hmem
      · cases h
    case h_2 client' hwrite =>
      rw [hothers] at h
      cases h
      rw [hwrite] at hmore
      intro marked' hmem
      rcases List.mem_cons.mp hmem with rfl | hmem
      · have hclient : leaves = true ∨ UpToDate session.version client' := by
          rcases hclients with hsends | hall
          · exact .inr (.inl (LiveAttachedClient.writeChanges_informs hsends hwrite))
          · exact (hall _ List.mem_cons_self).imp_right (·.sent hmore)
        rcases hclient with hleaves | hclient
        · exact .inl (by simp [hleaves])
        · exact (hcomplete client' hclient).imp_left fun h => by simp [h]
      · exact ih hothers hrest marked' hmem

theorem completeCycle_informed {version : UInt64} {happened hostOutput : Bool}
    {client : LiveAttachedClient} (h : UpToDate version client) :
    (client.completeCycle config happened hostOutput).2 = true ∨
      Informed version (client.completeCycle config happened hostOutput).1 := by
  have hbound := config.cyclesPerClient_le
  unfold LiveAttachedClient.completeCycle
  dsimp only
  rcases h with hinformed | hcycles
  · refine .inr ?_
    split <;> exact hinformed
  · refine .inl (decide_eq_true ?_)
    split
    · show config.cyclesPerClient ≤ min (client.completedCycles + 1) usizeMax
      omega
    · omega

/-! ### Output -/

/-- Every client is up to date, or the workspace will be sent. -/
def Announced (loop : LiveLoop σ η) (output : OutputRound) : Prop :=
  output.changedWorkspace = true ∨
    AllButLeaving (UpToDate loop.daemon.session.version) output.clients

theorem firstOutput_announced {round : LiveRound} {output : OutputRound}
    (h : loop.firstOutput engine host config inputs round = (.ok output, after))
    (hidle : loop.daemon.actor.Idle) (hclients : round.changedWorkspace = true ∨
      ∀ client ∈ loop.clients, UpToDate loop.daemon.session.version client) :
    after.daemon.actor.Idle ∧ Announced after output := by
  have hunmarked (version : UInt64) (hall : ∀ client ∈ loop.clients, UpToDate version client) :
      AllButLeaving (UpToDate version) (.unmarked loop.clients) := by
    intro marked hmem
    obtain ⟨client, hclient, rfl⟩ := List.mem_map.mp hmem
    exact .inr (hall client hclient)
  have hpoll : ServesPanes engine (fun _ => True) loop.daemon (loop.daemon.pollPanesOnce engine host
      loop.daemon.session.leafPaneIds round.inputPaneIds inputs.nowMonoMs inputs.outputReads).2 :=
    Daemon.pollPanesOnce_servesPanes hidle _ _ _ fun _ _ => ⟨fun _ => trivial, fun _ _ => trivial⟩
  have hidle' := hpoll.idle hidle
  have hversion : (loop.daemon.pollPanesOnce engine host loop.daemon.session.leafPaneIds
      round.inputPaneIds inputs.nowMonoMs inputs.outputReads).2.session.version =
      loop.daemon.session.version := pollPanes_version hidle _ _ _
  unfold firstOutput at h
  dsimp only at h
  split at h
  case isTrue =>
    split at h
    · cases h
    case h_2 polled heq =>
      rw [heq] at hidle' hversion
      cases h
      exact ⟨hidle', hclients.imp_right fun hall => hversion ▸ hunmarked _ hall⟩
    case h_3 polled heq =>
      rw [heq] at hidle' hversion
      have hpending : round.changedWorkspace = true ∨
          AllButLeaving (UpToDate polled.session.version) (.unmarked loop.clients) :=
        hclients.imp_right fun hall => hversion ▸ hunmarked _ hall
      split at h
      · cases h
        exact ⟨hidle', hpending⟩
      · split at h
        · cases h
        case h_2 sent hbroadcast =>
          cases h
          exact ⟨hidle', .inr (broadcast_upToDate (fun client hclient => .inr hclient) hbroadcast hpending)⟩
  case isFalse =>
    cases h
    exact ⟨hidle, hclients.imp_right (hunmarked _)⟩

theorem quietOutput_announced {round : LiveRound} {leafPaneIds : List String} {output quiet : OutputRound}
    (h : loop.quietOutput engine host config inputs round leafPaneIds output = (.ok quiet, after))
    (hidle : loop.daemon.actor.Idle) (hannounced : Announced loop output) :
    after.daemon.actor.Idle ∧ Announced after quiet := by
  have hpoll : ServesPanes engine (fun _ => True) loop.daemon (loop.daemon.pollPanesUntilQuiet engine host
      leafPaneIds inputs.nowMonoMs inputs.outputReads inputs.outputRounds).2 :=
    Daemon.pollPanesUntilQuiet_servesPanes hidle _ _ _ fun _ _ => ⟨fun _ => trivial, fun _ _ => trivial⟩
  have hidle' := hpoll.idle hidle
  have hversion : (loop.daemon.pollPanesUntilQuiet engine host leafPaneIds inputs.nowMonoMs
      inputs.outputReads inputs.outputRounds).2.session.version = loop.daemon.session.version :=
    pollPanesUntilQuiet_version hidle _ _ _ _
  unfold quietOutput at h
  split at h
  · cases h
    exact ⟨hidle, hannounced⟩
  · split at h
    · cases h
    case h_2 polled heq =>
      rw [heq] at hidle' hversion
      cases h
      refine ⟨hidle', ?_⟩
      unfold Announced at hannounced ⊢
      exact hversion ▸ hannounced

/-- After the broadcast of a round every client that stays is informed. -/
theorem publish_informed {round : LiveRound} {leafPaneIds : List String} {output : OutputRound}
    {marked : MarkedClients}
    (h : loop.publish config inputs round leafPaneIds output = (.ok marked, after))
    (hannounced : Announced loop output) :
    after.daemon = loop.daemon ∧ AllButLeaving (Informed loop.daemon.session.version) marked := by
  unfold publish at h
  dsimp only at h
  split at h
  · cases h
  case h_2 sent hbroadcast =>
    cases h
    exact ⟨rfl, broadcast_upToDate (fun _ hclient => completeCycle_informed hclient) hbroadcast hannounced⟩

theorem serveClients_informed {marked : MarkedClients}
    (h : loop.serveClients engine host config inputs = (.ok marked, after))
    (hidle : loop.daemon.actor.Idle)
    (hclients : ∀ client ∈ loop.clients, UpToDate loop.daemon.session.version client)
    (hpublished : DrainsAllowed engine host (DrainPublished engine host) inputs.reads 0 loop.clients
      loop.daemon) :
    after.daemon.actor.Idle ∧ AllButLeaving (Informed after.daemon.session.version) marked := by
  unfold serveClients at h
  split at h
  · cases h
  case h_2 round drained loop₁ hdrain =>
    obtain ⟨hidle₁, hflag₁, hsent₁⟩ := drain_flagged hdrain hidle hpublished
    split at h
    · cases h
    case h_2 settled loop₂ hsettle =>
      obtain ⟨hidle₂, hflag₂, hsent₂⟩ := settle_flagged hsettle hidle₁
      have hpending : settled.changedWorkspace = true ∨
          ∀ client ∈ loop₂.clients, UpToDate loop₂.daemon.session.version client := by
        refine (hflag₁.trans hflag₂).up.imp_right fun hversion => ?_
        rw [hversion]
        exact (hsent₁.trans hsent₂).upToDate hclients
      dsimp only at h
      split at h
      · cases h
      case h_2 first loop₃ hfirst =>
        obtain ⟨hidle₃, hannounced₃⟩ := firstOutput_announced hfirst hidle₂ hpending
        split at h
        · cases h
        case h_2 quiet loop₄ hquiet =>
          obtain ⟨hidle₄, hannounced₄⟩ := quietOutput_announced hquiet hidle₃ hannounced₃
          obtain ⟨hdaemon, hinformed⟩ := publish_informed h hannounced₄
          rw [hdaemon]
          exact ⟨hidle₄, hinformed⟩

/-- Clients leave without moving the version where the panes they had viewports for are settled. -/
theorem depart_informed {marked : MarkedClients}
    (h : loop.depart engine host inputs marked = (.ok (), after)) (hidle : loop.daemon.actor.Idle)
    (hsettled : Settled marked.staying loop.daemon.session (frontendResizeKeys marked.leaving))
    (hinformed : AllButLeaving (Informed loop.daemon.session.version) marked) :
    after.daemon.actor.Idle ∧
      ∀ client ∈ after.clients, Informed after.daemon.session.version client := by
  have hsession : (applyFrontendResizes engine host marked.staying inputs.nowMonoMs loop.daemon
      (frontendResizeKeys marked.leaving)).2.session = loop.daemon.session :=
    applyFrontendResizes_settled hidle _ hsettled
  unfold depart at h
  dsimp only at h
  split at h
  · cases h
  case h_2 changed resized hresize =>
    obtain ⟨hidle', -⟩ := applyFrontendResizes_flagged hidle hresize false
    rw [hresize] at hsession
    have hsent := publishInventory_sent { loop with daemon := resized, clients := marked.staying } [] []
      (marked.leaving.map LiveAttachedClient.connectionId)
    have hdaemon := publishInventory_daemon { loop with daemon := resized, clients := marked.staying } [] []
      (marked.leaving.map LiveAttachedClient.connectionId)
    split at h
    · cases h
    case h_2 heq =>
      rw [heq] at hsent hdaemon
      cases h
      refine ⟨hdaemon ▸ hidle', fun client hmem => ?_⟩
      rw [hdaemon, hsession]
      obtain ⟨before, hbefore, hmore⟩ := hsent client hmem
      obtain ⟨⟨client', leaves⟩, hmarked, rfl⟩ := List.mem_map.mp hbefore
      obtain ⟨hmarked, hstays⟩ := List.mem_filter.mp hmarked
      exact ((hinformed _ hmarked).resolve_left (by simpa using hstays)).sent hmore

/-- What holds after every round: no event is left to be accepted, and every client is informed. -/
structure AllInformed (loop : LiveLoop σ η) : Prop where
  idle : loop.daemon.actor.Idle
  informed : ∀ client ∈ loop.clients, Informed loop.daemon.session.version client

theorem round_informed (hinformed : loop.AllInformed) (hpublished : RoundPublished engine host config loop inputs)
    (h : loop.round engine host config inputs = (.ok (), after)) : after.AllInformed := by
  unfold round at h
  split at h
  case isFalse => cases h
  case isTrue =>
    split at h
    · cases h
    case h_2 accepted haccept =>
      obtain ⟨hidle, hclients⟩ := acceptArrivals_upToDate haccept hinformed.idle
        (fun client hmem => .inl (hinformed.informed client hmem)) hpublished.arrivals
      split at h
      · cases h
      case h_2 marked served hserve =>
        obtain ⟨hidle', hserved⟩ := serveClients_informed hserve hidle hclients
          (hpublished.drains accepted haccept)
        obtain ⟨hlast, hall⟩ := depart_informed h hidle'
          (hpublished.departures accepted marked served haccept hserve) hserved
        exact ⟨hlast, hall⟩

/-- **No workspace update is lost** where whatever moves the version is published: after every round,
every client of the loop has been sent the workspace in the session's version. -/
theorem no_lost_workspace_update {session : Session} {traceCap : Nat} {state : η} {rounds : List RoundInputs}
    (hpublished : (start (.start engine session traceCap state)).RoundsAllowed engine host config
      (RoundPublished engine host config) rounds)
    (hrounds : (start (.start engine session traceCap state)).rounds engine host config rounds = (.ok (), after)) :
    ∀ client ∈ after.clients, Informed after.daemon.session.version client := by
  have hinit : (start (.start engine session traceCap state) : LiveLoop σ η).AllInformed := ⟨rfl, nofun⟩
  have hall : after.AllInformed := rounds_invariant
    (fun _ _ _ hinformed hpublished hround => round_informed hinformed hpublished hround)
    hinit hpublished hrounds
  exact hall.informed

end LiveLoop

/-! ### A loop with one client -/

instance (version : UInt64) (client : LiveAttachedClient) : Decidable (Informed version client) :=
  decidable_of_iff ((client.queued.any fun
      | .workspace frame => frame.body.version == version
      | _ => false) = true) (by
    rw [List.any_eq_true]
    constructor
    · rintro ⟨frame, hmem, h⟩
      cases frame with
      | workspace frame => exact ⟨frame, hmem, by simpa using h⟩
      | _ => simp at h
    · rintro ⟨frame, hmem, rfl⟩
      exact ⟨_, hmem, by simp⟩)

/-- Whether a drain is published is decided by running it. -/
instance (engine : TerminalEngine σ) (host : ProcessHost η) (client : LiveAttachedClient) (daemon : Daemon σ η)
    (clientReads : ClientReads) : Decidable (DrainPublished engine host client daemon clientReads) :=
  match hdrain : drainLiveClientFrames engine host clientReads.nowMonoMs client daemon .none clientReads.frames with
  | (.ok (.open _ _), _, _) => isTrue (by unfold DrainPublished; rw [hdrain]; trivial)
  | (.ok .closed, _, after) =>
    decidable_of_iff (after.session.version = daemon.session.version) (by
      unfold DrainPublished
      rw [hdrain])
  | (.error error, _, after) =>
    decidable_of_iff (isSocketClosed error = true → after.session.version = daemon.session.version) (by
      unfold DrainPublished
      rw [hdrain])

/-- A round is published if its connections leave the version alone, its drains are published, and no
client with a viewport leaves in it. -/
theorem RoundPublished.of_run {σ η : Type} {engine : TerminalEngine σ} {host : ProcessHost η}
    {config : LiveConfig} {loop : LiveLoop σ η} {inputs : RoundInputs}
    (harrivals : ArrivalsPublished engine host config inputs.arrivals loop)
    (hdrains : DrainsAllowed engine host (DrainPublished engine host) inputs.reads 0
      (loop.acceptArrivals engine host config inputs.arrivals).2.clients
      (loop.acceptArrivals engine host config inputs.arrivals).2.daemon)
    (hkeys : ((loop.acceptArrivals engine host config inputs.arrivals).2.serveClients engine host config
      inputs).1.toOption.all (fun marked => (frontendResizeKeys marked.leaving).isEmpty) = true) :
    RoundPublished engine host config loop inputs := by
  refine ⟨harrivals, fun accepted haccept => ?_, fun accepted marked served haccept hserve => ?_⟩
  · rwa [haccept] at hdrains
  · rw [haccept, hserve] at hkeys
    have hnone : frontendResizeKeys marked.leaving = [] := List.isEmpty_iff.mp hkeys
    rw [hnone]
    nofun

/-- A client attaches, and then resizes its pane. -/
def resizeRounds : List RoundInputs := [
  plainRound [plainArrival (.attach none plainRequest)] [],
  plainRound [] [.resize ⟨"pane-1", "actor", 100, 30, .userCommand⟩]]

/-- The loop after the client has attached. -/
def attachedLoop : LiveLoop InterimAnsiState Unit :=
  (plainLoop.round interimTextTerminalEngine .quiet plainConfig
    (plainRound [plainArrival (.attach none plainRequest)] [])).2

/-- The loop after the resize. -/
def resizedLoop : LiveLoop InterimAnsiState Unit :=
  (plainLoop.rounds interimTextTerminalEngine .quiet plainConfig resizeRounds).2

theorem resizedLoop_rounds : plainLoop.rounds interimTextTerminalEngine .quiet plainConfig resizeRounds =
    (.ok (), resizedLoop) := by
  unfold resizedLoop
  refine LiveLoop.rounds_of_ok ?_
  decide +kernel

theorem attachRound_published : RoundPublished interimTextTerminalEngine .quiet plainConfig plainLoop
    (plainRound [plainArrival (.attach none plainRequest)] []) := by
  refine .of_run (fun _ => ⟨.inl ?_, fun _ _ => trivial⟩) ?_ ?_
  · rfl
  · decide +kernel
  · decide +kernel

theorem resizeRound_published : RoundPublished interimTextTerminalEngine .quiet plainConfig attachedLoop
    (plainRound [] [.resize ⟨"pane-1", "actor", 100, 30, .userCommand⟩]) := by
  refine .of_run ?_ ?_ ?_
  · unfold ArrivalsPublished plainRound; trivial
  · decide +kernel
  · decide +kernel


theorem resizeRounds_published : plainLoop.RoundsAllowed interimTextTerminalEngine .quiet plainConfig
    (RoundPublished interimTextTerminalEngine .quiet plainConfig) resizeRounds := by
  unfold resizeRounds
  refine ⟨attachRound_published, fun attached hattached => ⟨?_, fun _ _ => trivial⟩⟩
  have hsame : attachedLoop = attached := by
    unfold attachedLoop
    rw [hattached]
  rw [← hsame]
  exact resizeRound_published

/-- The client that resized is sent the workspace it made. -/
theorem LiveLoop.no_lost_workspace_update_resize :
    resizedLoop.daemon.session.version = 2 ∧ resizedLoop.clients.length = 1 ∧
      ∀ client ∈ resizedLoop.clients, Informed resizedLoop.daemon.session.version client := by
  refine ⟨by decide +kernel, by decide +kernel, ?_⟩
  exact LiveLoop.no_lost_workspace_update resizeRounds_published resizedLoop_rounds

/-- A command that opens a tab. -/
def tabNewCommand : ControlCommandSummary where
  actorId := "cli"
  commandSeq := 1
  kind := .tabNew
  paneId := none
  tabId := none
  splitAxis := .none
  title := none
  sessionId := none

/-- A client attaches, and another connection opens a tab. -/
def commandRounds : List RoundInputs := [
  plainRound [plainArrival (.attach none plainRequest)] [],
  plainRound [plainArrival (.control tabNewCommand)] []]

/-- The loop after the tab was opened. -/
def commandLoop : LiveLoop InterimAnsiState Unit :=
  (plainLoop.rounds interimTextTerminalEngine .quiet plainConfig commandRounds).2

theorem commandLoop_rounds : plainLoop.rounds interimTextTerminalEngine .quiet plainConfig commandRounds =
    (.ok (), commandLoop) := by
  unfold commandLoop
  refine LiveLoop.rounds_of_ok ?_
  decide +kernel

/-- **The tab that another connection opens is not published**: the client still has the workspace from
before. -/
theorem LiveLoop.workspace_update_lost :
    ¬ ∀ (rounds : List RoundInputs) (after : LiveLoop InterimAnsiState Unit),
      plainLoop.rounds interimTextTerminalEngine .quiet plainConfig rounds = (.ok (), after) →
      ∀ client ∈ after.clients, Informed after.daemon.session.version client := by
  intro h
  have hinformed := h commandRounds commandLoop commandLoop_rounds
  revert hinformed
  decide +kernel

end Nmux.Live
