import Nmux.Lib.Check
import Nmux.Registry.Server

/-! What every daemon keeps. Whatever connections come, the session under an id has that id and a well
formed workspace, and the default session is there. -/
namespace Nmux

open Live (ClientStream ClientInitialFrame Connection)
open Lib (OrderedMap)

/-! ### One session -/

/-- A session that keeps its id and the shape of its workspace. -/
structure Session.Keeps (sessionId : String) (session : Session) : Prop where
  id : session.id = sessionId
  wellFormed : session.WellFormed

namespace Session.Keeps

variable {σ : Type} {sessionId : String} {session : Session}

theorem switchTab (h : Keeps sessionId session) (tabId : String) :
    Keeps sessionId (session.switchTab tabId).1 where
  id := by
    rw [← h.id]
    unfold Session.switchTab
    repeat' split
    all_goals rfl
  wellFormed := h.wellFormed.switchTab tabId

theorem paneOutput (h : Keeps sessionId session) (engine : TerminalEngine σ) (paneId : String)
    (bytes : List UInt8) (state : σ) :
    Keeps sessionId (session.applyPaneOutputWithEngine engine paneId bytes state).1 := by
  rcases session.applyPaneOutput_cases engine paneId state bytes with hsame | ⟨-, update, -, -, hresult⟩
  · rwa [hsame]
  · rw [hresult]
    exact ⟨h.id, h.wellFormed.write (fun _ => applyTerminalUpdate_id _ _ _)
      (fun _ => applyTerminalUpdate_splitAxis _ _ _) paneId⟩

/-- An event keeps the id of a session, as it keeps the workspace well formed. -/
theorem applyAccepted {engine : TerminalEngine σ} {core : SessionCore σ} (h : Keeps sessionId core.session)
    (accepted : AcceptedSessionEvent) : Keeps sessionId (core.applyAccepted engine accepted).1.session := by
  obtain ⟨metadata, event⟩ := accepted
  cases event with
  | addTab tabId title paneId host =>
    refine ⟨?_, h.wellFormed.addTab tabId title paneId host⟩
    rw [← h.id]
    show (core.session.addTab tabId title paneId host).1.id = _
    unfold Session.addTab
    repeat' split
    all_goals rfl
  | switchTab tabId => exact h.switchTab tabId
  | closeTab tabId =>
    refine ⟨?_, h.wellFormed.closeTab tabId⟩
    rw [← h.id]
    show (core.session.closeTab tabId).1.id = _
    unfold Session.closeTab
    repeat' split
    all_goals rfl
  | focusPane paneId =>
    refine ⟨?_, h.wellFormed.focusPane paneId⟩
    rw [← h.id]
    show (core.session.focusPane paneId).1.id = _
    unfold Session.focusPane
    repeat' split
    all_goals rfl
  | splitPane paneId axis newPaneId newHost =>
    refine ⟨?_, h.wellFormed.splitPane paneId axis newPaneId newHost⟩
    rw [← h.id]
    show (core.session.splitPane paneId axis newPaneId newHost).1.id = _
    unfold Session.splitPane
    repeat' split
    all_goals rfl
  | setPaneResizePolicy paneId policy =>
    refine ⟨?_, h.wellFormed.policy paneId policy⟩
    rw [← h.id]
    show (core.session.setPaneResizePolicy paneId policy).1.id = _
    unfold Session.setPaneResizePolicy
    repeat' split
    all_goals rfl
  | paneOutput paneId bytes => exact h.paneOutput engine paneId bytes _
  | commitPaneResize paneId cols rows =>
    refine ⟨?_, h.wellFormed.resize engine _ paneId cols rows⟩
    rw [← h.id]
    show (core.session.commitPaneResizeWithEngine engine paneId cols rows _).1.id = _
    unfold Session.commitPaneResizeWithEngine
    repeat' split
    all_goals rfl
  | requestSessionShutdown => exact h
  | forwardPaneInput => exact h

theorem acceptPending {engine : TerminalEngine σ} {core : SessionCore σ}
    (h : Keeps sessionId core.session) (pending : PendingSessionEvent) :
    Keeps sessionId (core.acceptPending engine pending).1.session := by
  have hnext : Keeps sessionId
      { core with nextEventIndex := satAdd64 core.nextEventIndex 1 : SessionCore σ }.session := h
  exact hnext.applyAccepted (core.accepting pending)

theorem setPaneNmuxEnvironment (h : Keeps sessionId session) (paneId socketEndpoint : String)
    (parentOriginChain : Option String) :
    Keeps sessionId (session.setPaneNmuxEnvironment paneId socketEndpoint parentOriginChain) where
  id := h.id
  wellFormed := by
    rw [Session.setPaneNmuxEnvironment]
    refine h.wellFormed.write ?_ ?_ paneId
    · intro state
      rfl
    · intro state
      rfl

/-- Another title of the first tab. -/
theorem retitle (h : Keeps sessionId session) (title : String) :
    Keeps sessionId { session with tabs := session.tabs.modifyHead fun tab => { tab with title } } := by
  obtain ⟨id, version, activeTabId, tabs⟩ := session
  cases tabs with
  | nil => exact h
  | cons tab rest =>
    have hshape := h.wellFormed
    refine ⟨h.id, by simp, ?_, hshape.tabIds, hshape.activeTab, hshape.leafIds, hshape.leafId⟩
    intro changed hchanged
    rcases List.mem_cons.mp hchanged with rfl | hrest
    · have htab := hshape.tab tab List.mem_cons_self
      exact ⟨htab.id, htab.activePane, htab.root⟩
    · exact hshape.tab changed (List.mem_cons_of_mem _ hrest)

/-- A write to the root of the first tab is a write to the first pane of its name. -/
theorem editFirstRoot_eq (session : Session) (edit : PaneState → PaneState) :
    session.editFirstRoot edit = session ∨ ∃ paneId, session.editFirstRoot edit = session.writePane edit paneId := by
  obtain ⟨id, version, activeTabId, tabs⟩ := session
  cases tabs with
  | nil => exact .inl rfl
  | cons tab rest =>
    obtain ⟨tabId, title, activePaneId, ⟨state, children⟩⟩ := tab
    refine .inr ⟨state.id, ?_⟩
    simp [Session.editFirstRoot, Session.writePane, Session.writeTabs, paneNodeMut, Pane.state, Pane.children]

theorem editFirstRoot (h : Keeps sessionId session) {edit : PaneState → PaneState}
    (hid : ∀ state, (edit state).id = state.id)
    (haxis : ∀ state, (edit state).splitAxis = state.splitAxis) :
    Keeps sessionId (session.editFirstRoot edit) := by
  rcases editFirstRoot_eq session edit with hsame | ⟨paneId, hwrite⟩
  · rwa [hsame]
  · rw [hwrite]
    exact ⟨h.id, h.wellFormed.write hid haxis paneId⟩

end Session.Keeps

/-- What every event and both direct writes keep, a connection keeps. -/
theorem Daemon.Touches.keeps {σ η : Type} {engine : TerminalEngine σ}
    {okTab : Session → String → Prop} {okOutput : String → List UInt8 → Prop}
    {daemon reached : Daemon σ η} {sessionId : String} (h : Touches engine okTab okOutput daemon reached)
    (hinit : daemon.session.Keeps sessionId) : reached.session.Keeps sessionId := by
  induction h with
  | refl => exact hinit
  | serves _ after ih =>
    exact after.invariant (I := Session.Keeps sessionId)
      (fun core pending hcore _ => hcore.acceptPending pending) ih
  | tab tabId _ _ ih => exact ih.switchTab tabId
  | @output reached paneId bytes _ _ ih =>
    unfold applyPumpedPaneOutput
    split
    · exact ih
    · exact ih.paneOutput engine paneId bytes _

/-! ### New sessions -/

theorem rootFromArgs_id (args : DaemonArgs) (state : PaneState) :
    (Session.rootFromArgs args state).id = state.id ∧
      (Session.rootFromArgs args state).splitAxis = state.splitAxis := by
  unfold Session.rootFromArgs
  refine ⟨?_, ?_⟩
  all_goals
    dsimp only
    cases args.workingDir <;> cases args.initialSize <;> cases args.command <;> rfl

/-- The first session of the arguments is well formed and has its id. -/
theorem daemonSession_keeps {args : DaemonArgs} {sessionId : String} {title : Option String}
    {session : Session} (h : daemonSession args sessionId title = .ok session) :
    session.Keeps sessionId := by
  have hinitial : Session.Keeps sessionId { Session.initial with id := sessionId } :=
    ⟨rfl, Session.initial_wellFormed.nonempty, Session.initial_wellFormed.tab,
      Session.initial_wellFormed.tabIds, Session.initial_wellFormed.activeTab,
      Session.initial_wellFormed.leafIds, Session.initial_wellFormed.leafId⟩
  have htitled : Session.Keeps sessionId (titledSession sessionId title) := by
    cases title with
    | none => exact hinitial
    | some title => exact hinitial.retitle title
  have hroot := htitled.editFirstRoot (fun state => (rootFromArgs_id args state).1)
    (fun state => (rootFromArgs_id args state).2)
  unfold daemonSession at h
  dsimp only at h
  split at h
  · obtain rfl := Except.ok.inj h
    exact hroot
  · obtain ⟨host, -, hsession⟩ := Lib.Check.bind_eq_ok.mp h
    obtain rfl := Except.ok.inj hsession
    refine hroot.editFirstRoot ?_ ?_
    · intro state
      rfl
    · intro state
      rfl

section
variable {σ η : Type} {engine : TerminalEngine σ} {sessionId : String} {args : DaemonArgs}

theorem SessionCore.apply_keeps {core : SessionCore σ} (h : core.session.Keeps sessionId)
    (event : SessionEvent) : (core.apply engine event).1.session.Keeps sessionId :=
  h.acceptPending ⟨"legacy", .control, 0, event⟩

theorem SessionCore.addInitialTabs_keeps {numbers : List Nat} {core reached : SessionCore σ}
    (h : core.session.Keeps sessionId) (hreached : core.addInitialTabs engine numbers = .ok reached) :
    reached.session.Keeps sessionId := by
  induction numbers generalizing core with
  | nil =>
    obtain rfl := Except.ok.inj hreached
    exact h
  | cons number rest ih =>
    unfold addInitialTabs at hreached
    split at hreached
    · cases hreached
    case h_2 host _ =>
      dsimp only at hreached
      split at hreached
      · cases hreached
      case h_2 added hadd =>
        have hadded : (core.apply engine (.addTab ("tab-" ++ toString number)
            ("tab-" ++ toString number) ("tab-" ++ toString number ++ "-pane-1") host)).1.session.Keeps
              sessionId := apply_keeps h _
        rw [hadd] at hadded
        exact ih hadded hreached

theorem SessionCore.switchInitialTab_keeps {activeTabId : Option String} {core reached : SessionCore σ}
    (h : core.session.Keeps sessionId) (hreached : core.switchInitialTab engine activeTabId = .ok reached) :
    reached.session.Keeps sessionId := by
  unfold switchInitialTab at hreached
  split at hreached
  · obtain rfl := Except.ok.inj hreached
    exact h
  case h_2 tabId =>
    have hswitched : (core.apply engine (.switchTab tabId)).1.session.Keeps sessionId :=
      SessionCore.apply_keeps h _
    split at hreached
    case h_1 heq =>
      obtain rfl := Except.ok.inj hreached
      rwa [heq] at hswitched
    case h_2 heq =>
      split at hreached
      · obtain rfl := Except.ok.inj hreached
        rwa [heq] at hswitched
      · cases hreached

theorem SessionCore.splitInitialPane_keeps {axis : Option Protocol.SplitAxis}
    {core reached : SessionCore σ} (h : core.session.Keeps sessionId)
    (hreached : core.splitInitialPane engine axis = .ok reached) : reached.session.Keeps sessionId := by
  unfold splitInitialPane at hreached
  split at hreached
  · obtain rfl := Except.ok.inj hreached
    exact h
  case h_2 axis =>
    split at hreached
    · cases hreached
    case h_2 activePaneId _ =>
      split at hreached
      · cases hreached
      case h_2 host _ =>
        have hsplit : (core.apply engine (.splitPane activePaneId axis "pane-2" host)).1.session.Keeps
            sessionId := SessionCore.apply_keeps h _
        split at hreached
        · cases hreached
        case h_2 heq =>
          obtain rfl := Except.ok.inj hreached
          rwa [heq] at hsplit

theorem SessionCore.configurePanes_keeps {paneIds : List String} {core : SessionCore σ}
    (h : core.session.Keeps sessionId) :
    (core.configurePanes engine args paneIds).session.Keeps sessionId := by
  induction paneIds generalizing core with
  | nil => exact h
  | cons paneId rest ih =>
    have happlied : (core.apply engine (.setPaneResizePolicy paneId args.resizePolicy)).1.session.Keeps
        sessionId := SessionCore.apply_keeps h _
    refine ih ?_
    exact happlied.setPaneNmuxEnvironment paneId args.transportEndpoint args.inheritedOrigin

theorem buildDaemonSessionCore_keeps {title : Option String} {core : SessionCore σ}
    (h : buildDaemonSessionCore engine args sessionId title = .ok core) :
    core.session.Keeps sessionId := by
  unfold buildDaemonSessionCore at h
  obtain ⟨session, hsession, h⟩ := Lib.Check.bind_eq_ok.mp h
  obtain ⟨tabs, htabs, h⟩ := Lib.Check.bind_eq_ok.mp h
  obtain ⟨switched, hswitched, h⟩ := Lib.Check.bind_eq_ok.mp h
  obtain ⟨split, hsplit, h⟩ := Lib.Check.bind_eq_ok.mp h
  obtain rfl := Except.ok.inj h
  have hnew : (SessionCore.new engine session).session.Keeps sessionId := daemonSession_keeps hsession
  exact SessionCore.configurePanes_keeps (SessionCore.splitInitialPane_keeps
    (SessionCore.switchInitialTab_keeps (SessionCore.addInitialTabs_keeps hnew htabs) hswitched) hsplit)

theorem waitForPanesOutput_serves {host : ProcessHost η} {daemon : Daemon σ η} (hidle : daemon.actor.Idle)
    (paneIds : List String) (reads rounds : Nat) :
    Daemon.Serves engine (fun _ _ => True) (fun _ => True) daemon
      (waitForPanesOutput engine host paneIds reads rounds daemon).2 := by
  induction rounds generalizing daemon with
  | zero => exact .refl _
  | succ rounds ih =>
    have hpoll : Daemon.Serves engine (fun _ _ => True) (fun _ => True) daemon
        (daemon.pollPanes engine host 0 reads paneIds).2 :=
      (Daemon.pollPanes_serves hidle _ _ (fun _ _ _ _ => trivial) (fun _ _ _ => trivial)
        fun _ _ _ _ => trivial).1
    unfold waitForPanesOutput
    split
    case h_1 heq => rw [heq] at hpoll; exact hpoll
    case h_2 heq => rw [heq] at hpoll; exact hpoll
    case h_3 heq => rw [heq] at hpoll; exact hpoll.trans (ih (hpoll.idle hidle))

/-- A new session has the id it was made for. -/
theorem createDaemonSessionActor_keeps {host : ProcessHost η} {title : Option String} {reads rounds : Nat}
    {state next : η} {actor : SessionActor σ}
    (h : createDaemonSessionActor engine host args sessionId title reads rounds state = (.ok actor, next)) :
    actor.session.Keeps sessionId ∧ actor.Idle := by
  unfold createDaemonSessionActor at h
  split at h
  · cases h
  case h_2 core hcore =>
    have hkeeps := buildDaemonSessionCore_keeps hcore
    dsimp only at h
    split at h
    · cases h
    case h_2 started _ =>
      have hidle : ({ actor := .new core daemonTraceRingCap, host := started, calls := [] } :
        Daemon σ η).actor.Idle := SessionActor.new_idle _ _
      have hserves : Daemon.Serves engine (fun _ _ => True) (fun _ => True) _
          (waitForPanesOutput engine (host.scopedTo sessionId) core.session.leafPaneIds reads rounds _).2 :=
        waitForPanesOutput_serves hidle _ _ _
      split at h
      · cases h
      case h_2 reached heq =>
        obtain ⟨hactor, -⟩ := Prod.mk.inj h
        obtain rfl := Except.ok.inj hactor
        rw [heq] at hserves
        have htouches : Daemon.Touches engine (fun _ _ => True) (fun _ _ => True) _ reached :=
          .ofServes hserves
        exact ⟨htouches.keeps hkeeps, hserves.idle (SessionActor.new_idle _ _)⟩

end

/-! ### The registry -/

namespace DaemonServer

/-- The default session is there, and every session is the one its id names. -/
structure Consistent {σ η : Type} (args : DaemonArgs) (server : DaemonServer σ η) : Prop where
  default : (server.registry.get? args.sessionId).isSome = true
  keeps : ∀ sessionId actor, server.registry.get? sessionId = some actor →
    actor.session.Keeps sessionId ∧ actor.Idle

variable {σ η : Type} {engine : TerminalEngine σ} {host : ProcessHost η} {args : DaemonArgs}
  {server : DaemonServer σ η}

/-- A session in the registry, new or in place of its former self. -/
theorem Consistent.put (h : Consistent args server) {sessionId : String} {actor : SessionActor σ}
    (hkeeps : actor.session.Keeps sessionId ∧ actor.Idle) (state : η) :
    Consistent args { registry := server.registry.insert sessionId actor, host := state } where
  default := by
    show ((server.registry.insert sessionId actor).get? args.sessionId).isSome = true
    rw [OrderedMap.get?_insert]
    split
    · rfl
    · exact h.default
  keeps id other hother := by
    rw [show ({ registry := server.registry.insert sessionId actor, host := state } :
      DaemonServer σ η).registry = server.registry.insert sessionId actor from rfl,
      OrderedMap.get?_insert] at hother
    split at hother
    case isTrue hid =>
      obtain rfl := Option.some.inj hother
      exact hid ▸ hkeeps
    case isFalse => exact h.keeps id other hother

/-- What the session of an id is after a connection for it. -/
theorem serveSession_consistent (h : Consistent args server) {sessionId : String}
    {actor : SessionActor σ} (hactor : server.registry.get? sessionId = some actor)
    (stream : ClientStream) (initial : ClientInitialFrame) (connection : Connection) :
    Consistent args
      (serveSession engine host server stream sessionId actor initial connection).2.2 := by
  obtain ⟨hkeeps, hidle⟩ := h.keeps sessionId actor hactor
  have hidle' : ({ actor, host := server.host, calls := [] } : Daemon σ η).actor.Idle := hidle
  have htouches : Daemon.Touches engine (fun _ _ => True) (fun _ _ => True)
      { actor, host := server.host, calls := [] }
      (Live.serveStreamInitial engine (host.scopedTo sessionId) stream initial
        { actor, host := server.host, calls := [] } connection).2.2 :=
    Live.serveStreamInitial_touches hidle' initial connection
      (.of_forall (fun _ _ => trivial) (fun _ _ => trivial) _ _)
  exact h.put ⟨htouches.keeps hkeeps, htouches.idle hidle'⟩ _

theorem serveSessionNewCommand_consistent (h : Consistent args server) (stream : ClientStream)
    (command : ControlCommandSummary) (connection : Connection) :
    Consistent args
      (serveSessionNewCommand engine host args server stream command connection).2.2 := by
  unfold serveSessionNewCommand
  split
  · exact h
  split
  · exact h
  split
  · exact ⟨h.default, h.keeps⟩
  case h_2 actor state hactor =>
    have hkeeps := createDaemonSessionActor_keeps hactor
    unfold insert
    split
    case h_1 heq =>
      split at heq
      · obtain ⟨-, rfl⟩ := Prod.mk.inj heq
        exact ⟨h.default, h.keeps⟩
      · cases (Prod.mk.inj heq).1
    case h_2 heq =>
      split at heq
      · cases (Prod.mk.inj heq).1
      · obtain ⟨-, rfl⟩ := Prod.mk.inj heq
        refine h.put ?_ state
        rwa [hkeeps.1.id]

/-- A first frame leaves a consistent daemon. -/
theorem serveInitial_consistent (h : Consistent args server) (stream : ClientStream)
    (initial : ClientInitialFrame) (connection : Connection) :
    Consistent args (serveInitial engine host args server stream initial connection).2.2 := by
  have hroute : ∀ initial, Consistent args
      (serveInitial.route engine host args connection server stream initial).2.2 := by
    intro initial
    unfold serveInitial.route
    dsimp only
    split
    · exact h
    case h_2 actor hactor => exact serveSession_consistent h hactor stream initial connection
  unfold serveInitial
  split
  · split
    · exact serveSessionNewCommand_consistent h stream _ connection
    · split
      · exact h
      · exact hroute _
  · exact hroute _

theorem serveUnixRegistryOnce_consistent (h : Consistent args server) (connection : Connection) :
    Consistent args (serveUnixRegistryOnce engine host args server connection).2.2 := by
  unfold serveUnixRegistryOnce
  split
  · exact h
  · exact serveInitial_consistent h _ _ connection

/-- **Every daemon is consistent**, whatever connections it has served. -/
theorem Reached.consistent (h : Reached engine host args server) : Consistent args server := by
  induction h with
  | start reads rounds state started =>
    unfold DaemonServer.start at started
    split at started
    · cases started
    case h_2 actor next hactor =>
      obtain rfl := Except.ok.inj started
      obtain ⟨hkeeps, hidle⟩ := createDaemonSessionActor_keeps hactor
      have hinsert : ({ registry := .empty, host := next } : DaemonServer σ η).insert actor =
          (true, { registry := OrderedMap.empty.insert args.sessionId actor, host := next }) := by
        rw [insert, hkeeps.id]
        rfl
      rw [hinsert]
      refine ⟨by simp, fun sessionId other hother => ?_⟩
      rw [OrderedMap.get?_insert] at hother
      split at hother
      case isTrue hid =>
        obtain rfl := Option.some.inj hother
        exact hid ▸ ⟨hkeeps, hidle⟩
      case isFalse => cases hother
  | @serve server reached stream connection _ served ih =>
    have honce : Consistent args (serveUnixRegistryOnce engine host args server connection).2.2 :=
      serveUnixRegistryOnce_consistent ih connection
    unfold DaemonServer.serve at served
    split at served
    case h_1 heq =>
      obtain ⟨-, -, rfl⟩ := served
      rwa [heq] at honce
    case h_2 =>
      split at served
      · cases (Prod.mk.inj served).1
      · split at served <;> cases (Prod.mk.inj served).1
    case h_3 => cases (Prod.mk.inj served).1

end DaemonServer

end Nmux
