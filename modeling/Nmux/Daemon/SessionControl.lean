import Nmux.Daemon.Control

/-! Control commands without an actor. The server applies a command to a session directly where no
actor holds it; there the checks are the same text, and what passes them calls the session's
operations where the actor's path accepts events. Both paths take an optional host. -/
namespace Nmux

open Protocol (ControlCommandKind)

/-! ### Commands on a session -/

namespace Session

variable {η : Type} (host : ProcessHost η)

/-- Stops the panes of a closed tab, up to the first that fails. -/
def stopPanes (state : η) : List String → Except ControlCommandError Unit × η
  | [] => (.ok (), state)
  | paneId :: rest =>
    match host.stopPane state paneId with
    | (.error err, state) => (.error (.unknown err.message (some paneId)), state)
    | (.ok _, state) => stopPanes state rest

/-- `apply_pane_split_command`. -/
def applyPaneSplitCommand (session : Session) (state : η) (command : ControlCommandSummary) :
    Except ControlCommandError Unit × Session × η :=
  match planPaneSplit session command with
  | .error error => (.error error, session, state)
  | .ok split =>
    match host.startPane state split.newPaneId split.newHost with
    | (.error err, state) =>
      (.error (.unknown err.message (some split.newPaneId)), session, state)
    | (.ok _, state) =>
      match session.splitPane split.targetPaneId command.splitAxis split.newPaneId split.newHost with
      | (session, true) => (.ok (), session, state)
      | (session, false) =>
        (.error (.unknown ("failed to split pane: " ++ split.targetPaneId) (some split.targetPaneId)),
          session, (host.stopPane state split.newPaneId).2)

/-- `apply_tab_new_command`. The switch is tried only if the tab was added. -/
def applyTabNewCommand (session : Session) (state : η) (command : ControlCommandSummary) :
    Except ControlCommandError Unit × Session × η :=
  match planTabNew session command with
  | .error error => (.error error, session, state)
  | .ok tab =>
    match host.startPane state tab.paneId tab.newHost with
    | (.error err, state) => (.error (.unknown err.message (some tab.paneId)), session, state)
    | (.ok _, state) =>
      let failed (session : Session) :=
        (.error (.unknown ("failed to create tab: " ++ tab.tabId) none), session,
          (host.stopPane state tab.paneId).2)
      match session.addTab tab.tabId tab.title tab.paneId tab.newHost with
      | (session, false) => failed session
      | (session, true) =>
        let (session, switched) := session.switchTab tab.tabId
        if !switched && session.activeTabId != tab.tabId then failed session
        else (.ok (), session, state)

/-- `apply_tab_close_command`. Without a host no process is stopped. -/
def applyTabCloseCommand (host : Option (ProcessHost η)) (session : Session) (state : η)
    (command : ControlCommandSummary) : Except ControlCommandError Unit × Session × η :=
  match planTabClose session command with
  | .error error => (.error error, session, state)
  | .ok tab =>
    match session.closeTab tab.tabId with
    | (session, false) =>
      (.error (.unknown ("failed to close tab: " ++ tab.tabId) none), session, state)
    | (session, true) =>
      match host with
      | none => (.ok (), session, state)
      | some host => ((stopPanes host state tab.paneIds).1, session, (stopPanes host state tab.paneIds).2)

/-- `apply_tab_switch_command`. -/
def applyTabSwitchCommand (session : Session) (command : ControlCommandSummary) :
    Except ControlCommandError Unit × Session :=
  match planTabSwitch session command with
  | .error error => (.error error, session)
  | .ok tabId =>
    let (session, switched) := session.switchTab tabId
    if !switched && session.activeTabId != tabId then
      (.error (.unknown ("failed to switch tab: " ++ tabId) none), session)
    else (.ok (), session)

/-- `apply_control_command`. -/
def applyControlCommand (host : Option (ProcessHost η)) (session : Session) (state : η)
    (command : ControlCommandSummary) : Except ControlCommandError ControlCommandOutcome × Session × η :=
  let outcome (result : ControlCommandOutcome) (applied : Except ControlCommandError Unit × Session × η) :=
    (applied.1.map fun _ => result, applied.2)
  if command.kind = .paneSplit then
    match host with
    | none => (.error (.unknown "pane split requires a process host" command.paneId), session, state)
    | some host => outcome .continue (session.applyPaneSplitCommand host state command)
  else if command.kind = .tabNew then
    match host with
    | none => (.error (.unknown "tab new requires a process host" none), session, state)
    | some host => outcome .continue (session.applyTabNewCommand host state command)
  else if command.kind = .tabClose then
    outcome .continue (session.applyTabCloseCommand host state command)
  else if command.kind = .tabSwitch then
    let (applied, session) := session.applyTabSwitchCommand command
    (applied.map fun _ => .continue, session, state)
  else if command.kind = .sessionNew then
    (.error (.unknown "session new requires daemon registry routing" none), session, state)
  else if command.kind = .sessionKill then
    ((applySessionKillCommand session command).map fun _ => .shutdown, session, state)
  else
    (.error (.unknown ("unknown control command kind " ++ toString command.kind.value) command.paneId),
      session, state)

/-- The outcomes of a sequence of commands, and what they leave. -/
def applyControlCommands (host : Option (ProcessHost η)) (session : Session) (state : η) :
    List ControlCommandSummary →
      List (Except ControlCommandError ControlCommandOutcome) × Session × η
  | [] => ([], session, state)
  | command :: rest =>
    let (outcome, session, state) := applyControlCommand host session state command
    let (outcomes, session, state) := applyControlCommands host session state rest
    (outcome :: outcomes, session, state)

end Session

/-! ### Commands on an actor, with or without a host -/

namespace Daemon

variable {σ η : Type} (engine : TerminalEngine σ)

/-- `apply_tab_close_command_with_session_actor` without a host. -/
def applyTabCloseCommandWithoutHost (daemon : Daemon σ η) (command : ControlCommandSummary) :
    Except ControlCommandError Unit × Daemon σ η :=
  match planTabClose daemon.session command with
  | .error error => (.error error, daemon)
  | .ok tab =>
    match daemon.enqueueControlSessionEvent engine command (.closeTab tab.tabId) with
    | (daemon, false) => (.error (.unknown ("failed to close tab: " ++ tab.tabId) none), daemon)
    | (daemon, true) => (.ok (), daemon)

/-- `apply_control_command_with_session_actor`. -/
def applyControlCommandWithSessionActor (host : Option (ProcessHost η)) (daemon : Daemon σ η)
    (command : ControlCommandSummary) :
    Except ControlCommandError ControlCommandOutcome × Daemon σ η :=
  match host with
  | some host => daemon.applyControlCommand engine host command
  | none =>
    let outcome (result : ControlCommandOutcome) (applied : Except ControlCommandError Unit × Daemon σ η) :=
      (applied.1.map fun _ => result, applied.2)
    if command.kind = .paneSplit then
      (.error (.unknown "pane split requires a process host" command.paneId), daemon)
    else if command.kind = .tabNew then
      (.error (.unknown "tab new requires a process host" none), daemon)
    else if command.kind = .tabClose then
      outcome .continue (daemon.applyTabCloseCommandWithoutHost engine command)
    else if command.kind = .tabSwitch then
      outcome .continue (daemon.applyTabSwitchCommand engine command)
    else if command.kind = .sessionNew then
      (.error (.unknown "session new requires daemon registry routing" none), daemon)
    else if command.kind = .sessionKill then outcome .shutdown (daemon.applySessionKill engine command)
    else
      (.error (.unknown ("unknown control command kind " ++ toString command.kind.value) command.paneId),
        daemon)

/-- The outcomes of a sequence of commands, and what they leave. -/
def applyControlCommands (host : Option (ProcessHost η)) (daemon : Daemon σ η) :
    List ControlCommandSummary →
      List (Except ControlCommandError ControlCommandOutcome) × Daemon σ η
  | [] => ([], daemon)
  | command :: rest =>
    let (outcome, daemon) := daemon.applyControlCommandWithSessionActor engine host command
    let (outcomes, daemon) := applyControlCommands host daemon rest
    (outcome :: outcomes, daemon)

end Daemon

/-! ### The calls on a host -/

/-- A call control commands make on the host. -/
inductive ControlCall where
  | startPane (paneId : String) (spec : HostSpec)
  | stopPane (paneId : String)
deriving DecidableEq, Repr

/-- The host with a list of the starts and stops it was asked for. -/
def ProcessHost.recorded {η : Type} (host : ProcessHost η) : ProcessHost (η × List ControlCall) where
  startPane state paneId spec :=
    let (result, next) := host.startPane state.1 paneId spec
    (result, next, state.2 ++ [.startPane paneId spec])
  checkPane state paneId :=
    let (result, next) := host.checkPane state.1 paneId
    (result, next, state.2)
  writeInput state paneId bytes :=
    let (result, next) := host.writeInput state.1 paneId bytes
    (result, next, state.2)
  resizePane state paneId cols rows :=
    let (result, next) := host.resizePane state.1 paneId cols rows
    (result, next, state.2)
  stopPane state paneId :=
    let (result, next) := host.stopPane state.1 paneId
    (result, next, state.2 ++ [.stopPane paneId])
  tryReadOutput state paneId :=
    let (result, next) := host.tryReadOutput state.1 paneId
    (result, next, state.2)

/-! ### Events and operations -/

namespace Daemon

variable {σ η : Type} {engine : TerminalEngine σ} {daemon : Daemon σ η}

/-- An event that rearranges the session, accepted by an idle actor: the operation's session, and an
effect exactly if the operation returned `true`. -/
theorem acceptEvent_workspace (hidle : daemon.actor.Idle) (pending : PendingSessionEvent)
    {result : Session × Bool}
    (hevent : ∀ core : SessionCore σ, core.session = daemon.session → ∀ accepted,
      accepted.event = pending.event →
        core.applyAccepted engine accepted =
          core.workspaceEvent accepted.metadata.eventIndex result) :
    (daemon.acceptEvent engine pending).1.session = result.1 ∧
      (daemon.acceptEvent engine pending).2 = result.2 ∧
      (daemon.acceptEvent engine pending).1.host = daemon.host ∧
      (daemon.acceptEvent engine pending).1.actor.Idle := by
  have happlied := hevent { daemon.actor.core with
    nextEventIndex := satAdd64 daemon.actor.core.nextEventIndex 1 } rfl
    (daemon.actor.core.accepting pending) rfl
  have hactor := SessionActor.acceptEvent_actor engine hidle pending
  refine ⟨?_, ?_, rfl, ?_⟩
  · show (daemon.actor.acceptEvent engine pending).1.core.session = result.1
    rw [hactor]
    show (SessionCore.applyAccepted engine _ _).1.session = result.1
    rw [happlied]
    rfl
  · show (daemon.actor.acceptEvent engine pending).2 = result.2
    rw [SessionActor.acceptEvent_changed engine hidle]
    show (!(SessionCore.applyAccepted engine _ _).2.isEmpty) = result.2
    rw [happlied]
    cases hresult : result.2 <;> simp [SessionCore.workspaceEvent, hresult]
  · show (daemon.actor.acceptEvent engine pending).1.Idle
    rw [hactor]
    rfl

/-- What the two paths agree on: the outcome, the session and the host. -/
def Agrees {α : Type} (direct : α × Session × η) (actor : α × Daemon σ η) : Prop :=
  actor.1 = direct.1 ∧ actor.2.session = direct.2.1 ∧ actor.2.host = direct.2.2 ∧ actor.2.actor.Idle

end Daemon

end Nmux
