import Nmux.Daemon.SessionControl
import Nmux.Core.SessionNodes
import Nmux.Core.InterimText

/-! The two paths of control commands agree: on a session and on an idle actor that holds it, every
command has the same outcome, leaves the same session and makes the same calls on the host. The actor
tells success by recorded effects, and those are there exactly if the session's operation returned
`true`. -/
namespace Nmux

/-- A refused tab leaves the session, and there is nothing to switch to. -/
theorem Session.switchTab_of_refused {session : Session} {command : ControlCommandSummary} {tab : TabNew}
    (hplan : planTabNew session command = .ok tab)
    (hrefused : (session.addTab tab.tabId tab.title tab.paneId tab.newHost).2 = false) :
    (session.addTab tab.tabId tab.title tab.paneId tab.newHost).1 = session ∧
      session.switchTab tab.tabId = (session, false) := by
  constructor
  · rcases session.addTab_cases tab.tabId tab.title tab.paneId tab.newHost with hsame | hadd
    · rw [hsame]
    · obtain ⟨-, -, -, -, active, -, hadded, -⟩ := hadd
      rw [hadded] at hrefused
      cases hrefused
  · have hfresh : session.tabs.any (·.id == tab.tabId) = false := by
      rw [planTabNew] at hplan
      split at hplan
      · cases hplan
      · split at hplan
        · cases hplan
        · dsimp only at hplan
          split at hplan
          case isTrue => cases hplan
          case isFalse hfresh =>
            cases hplan
            exact Bool.eq_false_iff.mpr hfresh
    have hnone : session.tabs.find? (·.id == tab.tabId) = none := by
      rw [List.find?_eq_none]
      intro found hmem
      exact List.any_eq_false.mp hfresh found hmem
    rw [Session.switchTab, hnone]

namespace Daemon

variable {σ η : Type} {engine : TerminalEngine σ} {daemon : Daemon σ η}
  {command : ControlCommandSummary}

/-! ### Each command -/

theorem stopPanes_agree (host : ProcessHost η) (hidle : daemon.actor.Idle) (paneIds : List String) :
    Agrees ((Session.stopPanes host daemon.host paneIds).1, daemon.session,
      (Session.stopPanes host daemon.host paneIds).2) (daemon.stopPanes host paneIds) := by
  induction paneIds generalizing daemon with
  | nil => exact ⟨rfl, rfl, rfl, hidle⟩
  | cons paneId rest ih =>
    rw [stopPanes, Session.stopPanes]
    cases host.stopPane daemon.host paneId with
    | mk result state =>
      cases result with
      | error err => exact ⟨rfl, rfl, rfl, hidle⟩
      | ok =>
        have hnext : Daemon.actor { daemon with host := state } |>.Idle := hidle
        exact ih hnext

/-- The split event is the session's `split_pane`. -/
theorem acceptSplit (engine : TerminalEngine σ) (command : ControlCommandSummary)
    {daemon : Daemon σ η} (hidle : daemon.actor.Idle) (paneId newPaneId : String)
    (axis : Protocol.SplitAxis) (newHost : HostSpec) :
    (daemon.enqueueControlSessionEvent engine command (.splitPane paneId axis newPaneId newHost)).1.session =
        (daemon.session.splitPane paneId axis newPaneId newHost).1 ∧
      (daemon.enqueueControlSessionEvent engine command (.splitPane paneId axis newPaneId newHost)).2 =
        (daemon.session.splitPane paneId axis newPaneId newHost).2 ∧
      (daemon.enqueueControlSessionEvent engine command
        (.splitPane paneId axis newPaneId newHost)).1.host = daemon.host ∧
      (daemon.enqueueControlSessionEvent engine command
        (.splitPane paneId axis newPaneId newHost)).1.actor.Idle := by
  refine acceptEvent_workspace hidle _ fun core hcore accepted hevent => ?_
  rw [SessionCore.applyAccepted, hevent, hcore]

/-- The tab event is the session's `add_tab`. -/
theorem acceptAddTab (engine : TerminalEngine σ) (command : ControlCommandSummary)
    {daemon : Daemon σ η} (hidle : daemon.actor.Idle) (tabId title paneId : String) (newHost : HostSpec) :
    (daemon.enqueueControlSessionEvent engine command (.addTab tabId title paneId newHost)).1.session =
        (daemon.session.addTab tabId title paneId newHost).1 ∧
      (daemon.enqueueControlSessionEvent engine command (.addTab tabId title paneId newHost)).2 =
        (daemon.session.addTab tabId title paneId newHost).2 ∧
      (daemon.enqueueControlSessionEvent engine command
        (.addTab tabId title paneId newHost)).1.host = daemon.host ∧
      (daemon.enqueueControlSessionEvent engine command
        (.addTab tabId title paneId newHost)).1.actor.Idle := by
  refine acceptEvent_workspace hidle _ fun core hcore accepted hevent => ?_
  rw [SessionCore.applyAccepted, hevent, hcore]

/-- The close event is the session's `close_tab`. -/
theorem acceptCloseTab (engine : TerminalEngine σ) (command : ControlCommandSummary)
    {daemon : Daemon σ η} (hidle : daemon.actor.Idle) (tabId : String) :
    (daemon.enqueueControlSessionEvent engine command (.closeTab tabId)).1.session =
        (daemon.session.closeTab tabId).1 ∧
      (daemon.enqueueControlSessionEvent engine command (.closeTab tabId)).2 =
        (daemon.session.closeTab tabId).2 ∧
      (daemon.enqueueControlSessionEvent engine command (.closeTab tabId)).1.host = daemon.host ∧
      (daemon.enqueueControlSessionEvent engine command (.closeTab tabId)).1.actor.Idle := by
  refine acceptEvent_workspace hidle _ fun core hcore accepted hevent => ?_
  rw [SessionCore.applyAccepted, hevent, hcore]

/-- The switch event is the session's `switch_tab`. -/
theorem acceptSwitchTab (engine : TerminalEngine σ) (command : ControlCommandSummary)
    {daemon : Daemon σ η} (hidle : daemon.actor.Idle) (tabId : String) :
    (daemon.enqueueControlSessionEvent engine command (.switchTab tabId)).1.session =
        (daemon.session.switchTab tabId).1 ∧
      (daemon.enqueueControlSessionEvent engine command (.switchTab tabId)).2 =
        (daemon.session.switchTab tabId).2 ∧
      (daemon.enqueueControlSessionEvent engine command (.switchTab tabId)).1.host = daemon.host ∧
      (daemon.enqueueControlSessionEvent engine command (.switchTab tabId)).1.actor.Idle := by
  refine acceptEvent_workspace hidle _ fun core hcore accepted hevent => ?_
  rw [SessionCore.applyAccepted, hevent, hcore]

theorem applyPaneSplitCommand_agree (host : ProcessHost η) (hidle : daemon.actor.Idle) :
    Agrees (daemon.session.applyPaneSplitCommand host daemon.host command)
      (daemon.applyPaneSplitCommand engine host command) := by
  rw [applyPaneSplitCommand, Session.applyPaneSplitCommand]
  cases planPaneSplit daemon.session command with
  | error error => exact ⟨rfl, rfl, rfl, hidle⟩
  | ok split =>
    dsimp only
    cases host.startPane daemon.host split.newPaneId split.newHost with
    | mk result state =>
      cases result with
      | error err => exact ⟨rfl, rfl, rfl, hidle⟩
      | ok =>
        obtain ⟨hsession, hchanged, hhost, hnext⟩ := acceptSplit engine command
          (show Daemon.actor { daemon with host := state } |>.Idle from hidle) split.targetPaneId
          split.newPaneId command.splitAxis split.newHost
        have hholds : Daemon.session { daemon with host := state } = daemon.session := rfl
        rw [hholds] at hsession hchanged
        dsimp only
        generalize enqueueControlSessionEvent engine { daemon with host := state } _ _ = accepted at *
        generalize daemon.session.splitPane _ _ _ _ = result at *
        obtain ⟨reached, changed⟩ := accepted
        obtain ⟨session, returned⟩ := result
        simp only at hsession hchanged hhost hnext
        subst hchanged hsession
        cases changed with
        | true => exact ⟨rfl, rfl, hhost, hnext⟩
        | false =>
          refine ⟨rfl, rfl, ?_, hnext⟩
          show (host.stopPane reached.host _).2 = (host.stopPane state _).2
          rw [hhost]

theorem applyTabNewCommand_agree (host : ProcessHost η) (hidle : daemon.actor.Idle) :
    Agrees (daemon.session.applyTabNewCommand host daemon.host command)
      (daemon.applyTabNewCommand engine host command) := by
  rw [applyTabNewCommand, Session.applyTabNewCommand]
  cases hplan : planTabNew daemon.session command with
  | error error => exact ⟨rfl, rfl, rfl, hidle⟩
  | ok tab =>
    dsimp only
    cases host.startPane daemon.host tab.paneId tab.newHost with
    | mk result state =>
      cases result with
      | error err => exact ⟨rfl, rfl, rfl, hidle⟩
      | ok =>
        have hrefused := Session.switchTab_of_refused hplan
        obtain ⟨hsession, hadded, hhost, hnext⟩ := acceptAddTab engine command
          (show Daemon.actor { daemon with host := state } |>.Idle from hidle) tab.tabId tab.title
          tab.paneId tab.newHost
        have hholds : Daemon.session { daemon with host := state } = daemon.session := rfl
        rw [hholds] at hsession hadded
        dsimp only
        generalize enqueueControlSessionEvent engine { daemon with host := state } _ _ = accepted at *
        generalize daemon.session.addTab _ _ _ _ = result at *
        obtain ⟨withTab, added⟩ := accepted
        obtain ⟨session, returned⟩ := result
        simp only at hsession hadded hhost hnext hrefused
        subst hadded hsession
        obtain ⟨hswitched, hchanged, hkept, hlast⟩ := acceptSwitchTab engine command hnext tab.tabId
        rw [hhost] at hkept
        cases added with
        | false =>
          -- the actor accepts the switch all the same, and it changes nothing
          obtain ⟨hsame, hnone⟩ := hrefused rfl
          rw [hsame, hnone] at hswitched
          refine ⟨rfl, hswitched.trans hsame.symm, ?_, hlast⟩
          show (host.stopPane (enqueueControlSessionEvent engine withTab command _).1.host _).2 = _
          rw [hkept]
        | true =>
          dsimp only
          generalize enqueueControlSessionEvent engine withTab _ _ = accepted at *
          obtain ⟨reached, changed⟩ := accepted
          simp only at hswitched hchanged hkept hlast
          rw [hswitched, hchanged]
          generalize withTab.session.switchTab tab.tabId = result at *
          obtain ⟨session, returned⟩ := result
          simp only [Bool.not_true, Bool.false_or] at hswitched ⊢
          split
          · refine ⟨rfl, hswitched, ?_, hlast⟩
            show (host.stopPane reached.host _).2 = _
            rw [hkept]
          · exact ⟨rfl, hswitched, hkept, hlast⟩

theorem applyTabCloseCommand_agree (host : ProcessHost η) (hidle : daemon.actor.Idle) :
    Agrees (daemon.session.applyTabCloseCommand (some host) daemon.host command)
      (daemon.applyTabCloseCommand engine host command) := by
  rw [applyTabCloseCommand, Session.applyTabCloseCommand]
  cases planTabClose daemon.session command with
  | error error => exact ⟨rfl, rfl, rfl, hidle⟩
  | ok tab =>
    obtain ⟨hsession, hchanged, hhost, hnext⟩ := acceptCloseTab engine command hidle tab.tabId
    dsimp only
    generalize enqueueControlSessionEvent engine daemon _ _ = accepted at *
    generalize daemon.session.closeTab _ = result at *
    obtain ⟨reached, changed⟩ := accepted
    obtain ⟨session, returned⟩ := result
    simp only at hsession hchanged hhost hnext
    subst hchanged hsession
    cases changed with
    | false => exact ⟨rfl, rfl, hhost, hnext⟩
    | true =>
      rw [← hhost]
      exact stopPanes_agree host hnext tab.paneIds

theorem applyTabCloseCommandWithoutHost_agree (hidle : daemon.actor.Idle) :
    Agrees (daemon.session.applyTabCloseCommand none daemon.host command)
      (daemon.applyTabCloseCommandWithoutHost engine command) := by
  rw [applyTabCloseCommandWithoutHost, Session.applyTabCloseCommand]
  cases planTabClose daemon.session command with
  | error error => exact ⟨rfl, rfl, rfl, hidle⟩
  | ok tab =>
    obtain ⟨hsession, hchanged, hhost, hnext⟩ := acceptCloseTab engine command hidle tab.tabId
    dsimp only
    generalize enqueueControlSessionEvent engine daemon _ _ = accepted at *
    generalize daemon.session.closeTab _ = result at *
    obtain ⟨reached, changed⟩ := accepted
    obtain ⟨session, returned⟩ := result
    simp only at hsession hchanged hhost hnext
    subst hchanged hsession
    cases changed <;> exact ⟨rfl, rfl, hhost, hnext⟩

theorem applyTabSwitchCommand_agree (hidle : daemon.actor.Idle) :
    Agrees ((daemon.session.applyTabSwitchCommand command).1,
        (daemon.session.applyTabSwitchCommand command).2, daemon.host)
      (daemon.applyTabSwitchCommand engine command) := by
  rw [applyTabSwitchCommand, Session.applyTabSwitchCommand]
  cases planTabSwitch daemon.session command with
  | error error => exact ⟨rfl, rfl, rfl, hidle⟩
  | ok tabId =>
    obtain ⟨hsession, hchanged, hhost, hnext⟩ := acceptSwitchTab engine command hidle tabId
    dsimp only
    generalize enqueueControlSessionEvent engine daemon _ _ = accepted at *
    generalize daemon.session.switchTab _ = result at *
    obtain ⟨reached, changed⟩ := accepted
    obtain ⟨session, returned⟩ := result
    simp only at hsession hchanged hhost hnext
    subst hchanged hsession
    dsimp only
    split <;> exact ⟨rfl, rfl, hhost, hnext⟩

/-- A kill is refused alike, and otherwise leaves session and host alone. -/
theorem applySessionKill_agree (hidle : daemon.actor.Idle) :
    Agrees (applySessionKillCommand daemon.session command, daemon.session, daemon.host)
      (daemon.applySessionKill engine command) := by
  rw [applySessionKill]
  cases applySessionKillCommand daemon.session command with
  | error error => exact ⟨rfl, rfl, rfl, hidle⟩
  | ok =>
    have haccept : ∀ core : SessionCore σ, core.session = daemon.session → ∀ accepted,
        accepted.event = .requestSessionShutdown command.sessionId →
          core.applyAccepted engine accepted =
            core.workspaceEvent accepted.metadata.eventIndex (daemon.session, false) := by
      intro core hcore accepted hevent
      rw [SessionCore.applyAccepted, hevent]
      simp [SessionCore.workspaceEvent, ← hcore]
    obtain ⟨hsession, -, hhost, hnext⟩ := acceptEvent_workspace hidle
      ⟨command.actorId, .lifecycle, command.commandSeq, .requestSessionShutdown command.sessionId⟩ haccept
    exact ⟨rfl, hsession, hhost, hnext⟩

/-! ### All commands -/

theorem Agrees.map {α β : Type} {direct : α × Session × η} {actor : α × Daemon σ η} (f : α → β)
    (h : Agrees direct actor) : Agrees (f direct.1, direct.2) (f actor.1, actor.2) :=
  ⟨congrArg f h.1, h.2⟩

/-- One command. -/
theorem applyControlCommand_agree (engine : TerminalEngine σ) (host : Option (ProcessHost η))
    (command : ControlCommandSummary) (hidle : daemon.actor.Idle) :
    Agrees (daemon.session.applyControlCommand host daemon.host command)
      (daemon.applyControlCommandWithSessionActor engine host command) := by
  cases host with
  | none =>
    simp only [Session.applyControlCommand, applyControlCommandWithSessionActor]
    split
    · exact ⟨rfl, rfl, rfl, hidle⟩
    split
    · exact ⟨rfl, rfl, rfl, hidle⟩
    split
    · exact (applyTabCloseCommandWithoutHost_agree hidle).map _
    split
    · exact (applyTabSwitchCommand_agree hidle).map _
    split
    · exact ⟨rfl, rfl, rfl, hidle⟩
    split
    · exact (applySessionKill_agree hidle).map _
    · exact ⟨rfl, rfl, rfl, hidle⟩
  | some host =>
    simp only [Session.applyControlCommand, applyControlCommandWithSessionActor, applyControlCommand]
    split
    · exact (applyPaneSplitCommand_agree host hidle).map _
    split
    · exact (applyTabNewCommand_agree host hidle).map _
    split
    · exact (applyTabCloseCommand_agree host hidle).map _
    split
    · exact (applyTabSwitchCommand_agree hidle).map _
    split
    · exact ⟨rfl, rfl, rfl, hidle⟩
    split
    · exact (applySessionKill_agree hidle).map _
    · exact ⟨rfl, rfl, rfl, hidle⟩

/-- A sequence of commands, by induction. -/
theorem applyControlCommands_agree (engine : TerminalEngine σ) (host : Option (ProcessHost η)) (hidle : daemon.actor.Idle)
    (commands : List ControlCommandSummary) :
    Agrees (daemon.session.applyControlCommands host daemon.host commands)
      (daemon.applyControlCommands engine host commands) := by
  induction commands generalizing daemon with
  | nil => exact ⟨rfl, rfl, rfl, hidle⟩
  | cons command rest ih =>
    obtain ⟨houtcome, hsession, hhost, hnext⟩ := applyControlCommand_agree engine host
      command hidle
    obtain ⟨houtcomes, hlast⟩ := ih hnext
    rw [hsession, hhost] at houtcomes hlast
    rw [Session.applyControlCommands, applyControlCommands]
    exact ⟨congrArg₂ List.cons houtcome houtcomes, hlast⟩

end Daemon

/-- **The two control paths agree.** On any session and any idle actor that holds it, with any host or
none, every sequence of commands has the same outcomes, leaves equal sessions and the host in the same
state, and makes the same starts and stops on it in the same order. -/
theorem control_paths_agree {σ η : Type} (engine : TerminalEngine σ) (host : Option (ProcessHost η))
    (daemon : Daemon σ (η × List ControlCall)) (hidle : daemon.actor.Idle)
    (commands : List ControlCommandSummary) :
    (daemon.applyControlCommands engine (host.map ProcessHost.recorded) commands).1 =
        (daemon.session.applyControlCommands (host.map ProcessHost.recorded) daemon.host commands).1 ∧
      (daemon.applyControlCommands engine (host.map ProcessHost.recorded) commands).2.session =
        (daemon.session.applyControlCommands (host.map ProcessHost.recorded) daemon.host commands).2.1 ∧
      (daemon.applyControlCommands engine (host.map ProcessHost.recorded) commands).2.host =
        (daemon.session.applyControlCommands (host.map ProcessHost.recorded) daemon.host commands).2.2 := by
  obtain ⟨houtcome, hsession, hhost, -⟩ := Daemon.applyControlCommands_agree engine
    (host.map ProcessHost.recorded) hidle commands
  exact ⟨houtcome, hsession, hhost⟩

/-- A split, a tab that is refused and a tab that is closed, on an actor that has just started. -/
theorem control_paths_agree_started :
    let commands : List ControlCommandSummary := [
      ⟨"alice", 1, .paneSplit, none, none, .vertical, none, none⟩,
      ⟨"alice", 2, .tabNew, none, some "", .none, none, none⟩,
      ⟨"alice", 3, .tabNew, none, some "work", .none, none, none⟩,
      ⟨"alice", 4, .tabClose, none, some "tab-1", .none, none, none⟩]
    let daemon := Daemon.start interimTextTerminalEngine Session.initial 16 ((), [])
    (daemon.applyControlCommands interimTextTerminalEngine
        (some ProcessHost.quiet.recorded) commands).2.host =
      (daemon.session.applyControlCommands (some ProcessHost.quiet.recorded) daemon.host
        commands).2.2 := by
  intro commands daemon
  have hidle : daemon.actor.Idle := SessionActor.new_idle _ _
  exact (control_paths_agree interimTextTerminalEngine (some ProcessHost.quiet) daemon hidle
    commands).2.2

end Nmux
