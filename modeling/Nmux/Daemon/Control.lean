import Mathlib
import Nmux.Daemon.Serves

/-! Control commands. A command is checked against the session first; what passes starts or stops
processes on the host and reaches the session as accepted events. New names are the smallest free
ones. -/
namespace Nmux

open Protocol (SplitAxis ControlCommandKind ErrorCode)

structure ControlCommandSummary where
  actorId : String
  commandSeq : UInt64
  kind : ControlCommandKind
  paneId : Option String
  tabId : Option String
  splitAxis : SplitAxis
  title : Option String
  sessionId : Option String
deriving DecidableEq, Repr

structure ControlCommandError where
  code : ErrorCode
  message : String
  paneId : Option String
deriving DecidableEq, Repr

def ControlCommandError.paneNotFound (paneId : String) : ControlCommandError :=
  { code := .paneNotFound, message := "pane not found: " ++ paneId, paneId := some paneId }

def ControlCommandError.unknown (message : String) (paneId : Option String) : ControlCommandError :=
  { code := .unknown, message, paneId }

inductive ControlCommandOutcome where
  | continue
  | shutdown
deriving DecidableEq, Repr

/-! ### Names -/

/-- The first free name of `stem` and a number, from `next` on. The source searches without a bound;
one more name than are taken is enough. -/
def firstFreeName (stem : String) (taken : String → Bool) : Nat → Nat → String
  | 0, next => stem ++ toString next
  | fuel + 1, next =>
    if taken (stem ++ toString next) then firstFreeName stem taken fuel (next + 1)
    else stem ++ toString next

def nextPaneId (session : Session) : String :=
  firstFreeName "pane-" (fun paneId => (session.paneHost paneId).isSome) session.nodes.length 1

def nextTabId (session : Session) : String :=
  firstFreeName "tab-" (fun tabId => session.tabs.any (·.id == tabId)) session.tabs.length 1

theorem numbered_injective (stem : String) : Function.Injective fun n : Nat => stem ++ toString n := by
  intro m n h
  exact Nat.repr_injective ((String.append_right_inj stem).mp h)

/-- Of more names than are taken one is free, so the search ends on a free one. -/
theorem firstFreeName_free {stem : String} {taken : String → Bool} {ids : List String}
    (htaken : ∀ name, taken name = true → name ∈ ids) (next : Nat) :
    taken (firstFreeName stem taken ids.length next) = false := by
  by_contra hfound
  simp only [Bool.not_eq_false] at hfound
  have hall (fuel : Nat) : ∀ next, taken (firstFreeName stem taken fuel next) = true →
      ∀ k ≤ fuel, taken (stem ++ toString (next + k)) = true := by
    induction fuel with
    | zero =>
      intro next h k hk
      obtain rfl : k = 0 := by omega
      exact h
    | succ fuel ih =>
      intro next h k hk
      rw [firstFreeName] at h
      split at h
      case isTrue hnext =>
        cases k with
        | zero => exact hnext
        | succ k =>
          have := ih (next + 1) h k (by omega)
          rwa [show next + 1 + k = next + (k + 1) by omega] at this
      case isFalse hnext => exact absurd h hnext
  have hnodup : ((List.range (ids.length + 1)).map fun k => stem ++ toString (next + k)).Nodup := by
    refine List.nodup_range.map fun a b h => ?_
    have := numbered_injective stem h
    omega
  have hsubset : ((List.range (ids.length + 1)).map fun k => stem ++ toString (next + k)) ⊆ ids := by
    intro name hname
    obtain ⟨k, hk, rfl⟩ := List.mem_map.mp hname
    exact htaken _ (hall ids.length next hfound k (by have := List.mem_range.mp hk; omega))
  have hlength := (hnodup.subperm hsubset).length_le
  simp at hlength

/-! ### Hosts of new panes -/

def envValue (env : List (String × String)) (key : String) : Option String :=
  (env.find? (·.1 == key)).map (·.2)

def hostWithPaneEnvironment (host : HostSpec) (sessionId paneId : String) : HostSpec :=
  let socket := (envValue host.command.env "NMUX_SOCKET").getD ""
  let previousOrigin := (envValue host.command.env "NMUX_ORIGIN").getD host.id
  let kept := host.command.env.filter fun (key, _) =>
    key ∉ ["NMUX", "NMUX_SESSION_ID", "NMUX_PANE_ID", "NMUX_SOCKET", "NMUX_ORIGIN"]
  { host with command := { host.command with env := kept ++ [("NMUX", "1"),
    ("NMUX_SESSION_ID", sessionId), ("NMUX_PANE_ID", paneId), ("NMUX_SOCKET", socket),
    ("NMUX_ORIGIN", previousOrigin)] } }

/-! ### What a command asks for -/

/-- The pane a command names, the active pane if it names none. -/
def splitTarget (session : Session) (command : ControlCommandSummary) :
    Except ControlCommandError String :=
  match command.paneId with
  | some paneId => .ok paneId
  | none =>
    match session.activePaneId with
    | some paneId => .ok paneId
    | none => .error (.paneNotFound "active pane")

structure PaneSplit where
  targetPaneId : String
  newPaneId : String
  newHost : HostSpec
deriving DecidableEq, Repr

/-- The checks of a pane split, up to the start of its process. -/
def planPaneSplit (session : Session) (command : ControlCommandSummary) :
    Except ControlCommandError PaneSplit :=
  match splitTarget session command with
  | .error error => .error error
  | .ok targetPaneId =>
    if command.splitAxis ≠ .horizontal ∧ command.splitAxis ≠ .vertical then
      .error (.unknown "pane split requires horizontal or vertical axis" (some targetPaneId))
    else
      match session.paneHost targetPaneId with
      | none => .error (.paneNotFound targetPaneId)
      | some template =>
        let newPaneId := nextPaneId session
        .ok {
          targetPaneId
          newPaneId
          newHost := hostWithPaneEnvironment template session.id newPaneId }

structure TabNew where
  tabId : String
  title : String
  paneId : String
  newHost : HostSpec
deriving DecidableEq, Repr

/-- The checks of a new tab, up to the start of its process. -/
def planTabNew (session : Session) (command : ControlCommandSummary) :
    Except ControlCommandError TabNew :=
  match session.activePaneId with
  | none => .error (.paneNotFound "active pane")
  | some activePaneId =>
    match session.paneHost activePaneId with
    | none => .error (.paneNotFound activePaneId)
    | some template =>
      let tabId := command.tabId.getD (nextTabId session)
      if session.tabs.any (·.id == tabId) then
        .error (.unknown ("tab already exists: " ++ tabId) none)
      else
        let paneId := tabId ++ "-pane-1"
        .ok {
          tabId
          title := command.title.getD tabId
          paneId
          newHost := hostWithPaneEnvironment template session.id paneId }

structure TabClose where
  tabId : String
  paneIds : List String
deriving DecidableEq, Repr

def planTabClose (session : Session) (command : ControlCommandSummary) :
    Except ControlCommandError TabClose :=
  let tabId := command.tabId.getD session.activeTabId
  match session.tabs.find? (·.id == tabId) with
  | none => .error (.unknown ("tab not found: " ++ tabId) none)
  | some tab => .ok { tabId, paneIds := collectLeafPaneIds tab.root }

/-- `required_control_tab_id`, and that the tab exists. -/
def planTabSwitch (session : Session) (command : ControlCommandSummary) :
    Except ControlCommandError String :=
  match command.tabId.filter fun tabId => !tabId.isEmpty with
  | none => .error (.unknown "tab switch requires a tab ID" none)
  | some tabId =>
    if session.tabs.any (·.id == tabId) then .ok tabId
    else .error (.unknown ("tab not found: " ++ tabId) none)

/-- `apply_session_kill_command`. -/
def applySessionKillCommand (session : Session) (command : ControlCommandSummary) :
    Except ControlCommandError Unit :=
  match command.sessionId with
  | none => .ok ()
  | some sessionId =>
    if sessionId = session.id then .ok ()
    else .error { code := .sessionNotFound, message := "session not found: " ++ sessionId, paneId := none }

/-! ### Commands on an actor and its host -/

namespace Daemon

variable {σ η : Type} (engine : TerminalEngine σ) (host : ProcessHost η)

def enqueueControlSessionEvent (daemon : Daemon σ η) (command : ControlCommandSummary)
    (event : SessionEvent) : Daemon σ η × Bool :=
  daemon.acceptEvent engine ⟨command.actorId, .control, command.commandSeq, event⟩

def enqueueLifecycleSessionEvent (daemon : Daemon σ η) (command : ControlCommandSummary)
    (event : SessionEvent) : Daemon σ η :=
  (daemon.acceptEvent engine ⟨command.actorId, .lifecycle, command.commandSeq, event⟩).1

/-- `host.stop_pane`, with its answer dropped. -/
def stopPane (daemon : Daemon σ η) (paneId : String) : Daemon σ η :=
  { daemon with host := (host.stopPane daemon.host paneId).2 }

/-- Stops the panes of a closed tab, up to the first that fails. -/
def stopPanes (daemon : Daemon σ η) : List String → Except ControlCommandError Unit × Daemon σ η
  | [] => (.ok (), daemon)
  | paneId :: rest =>
    match host.stopPane daemon.host paneId with
    | (.error err, state) => (.error (.unknown err.message (some paneId)), { daemon with host := state })
    | (.ok _, state) => stopPanes { daemon with host := state } rest

/-- `apply_pane_split_command_with_session_actor`. -/
def applyPaneSplitCommand (daemon : Daemon σ η) (command : ControlCommandSummary) :
    Except ControlCommandError Unit × Daemon σ η :=
  match planPaneSplit daemon.session command with
  | .error error => (.error error, daemon)
  | .ok split =>
    match host.startPane daemon.host split.newPaneId split.newHost with
    | (.error err, state) =>
      (.error (.unknown err.message (some split.newPaneId)), { daemon with host := state })
    | (.ok _, state) =>
      match { daemon with host := state }.enqueueControlSessionEvent engine command
        (.splitPane split.targetPaneId command.splitAxis split.newPaneId split.newHost) with
      | (daemon, true) => (.ok (), daemon)
      | (daemon, false) =>
        (.error (.unknown ("failed to split pane: " ++ split.targetPaneId) (some split.targetPaneId)),
          daemon.stopPane host split.newPaneId)

/-- `apply_tab_new_command_with_session_actor`. Both events are accepted, whatever the first did. -/
def applyTabNewCommand (daemon : Daemon σ η) (command : ControlCommandSummary) :
    Except ControlCommandError Unit × Daemon σ η :=
  match planTabNew daemon.session command with
  | .error error => (.error error, daemon)
  | .ok tab =>
    match host.startPane daemon.host tab.paneId tab.newHost with
    | (.error err, state) =>
      (.error (.unknown err.message (some tab.paneId)), { daemon with host := state })
    | (.ok _, state) =>
      let (daemon, added) := { daemon with host := state }.enqueueControlSessionEvent engine command
        (.addTab tab.tabId tab.title tab.paneId tab.newHost)
      let (daemon, switched) := daemon.enqueueControlSessionEvent engine command (.switchTab tab.tabId)
      if !added || (!switched && daemon.session.activeTabId != tab.tabId) then
        (.error (.unknown ("failed to create tab: " ++ tab.tabId) none),
          daemon.stopPane host tab.paneId)
      else (.ok (), daemon)

/-- `apply_tab_close_command_with_session_actor`. -/
def applyTabCloseCommand (daemon : Daemon σ η) (command : ControlCommandSummary) :
    Except ControlCommandError Unit × Daemon σ η :=
  match planTabClose daemon.session command with
  | .error error => (.error error, daemon)
  | .ok tab =>
    match daemon.enqueueControlSessionEvent engine command (.closeTab tab.tabId) with
    | (daemon, false) => (.error (.unknown ("failed to close tab: " ++ tab.tabId) none), daemon)
    | (daemon, true) => daemon.stopPanes host tab.paneIds

/-- `apply_tab_switch_command_with_session_actor`. -/
def applyTabSwitchCommand (daemon : Daemon σ η) (command : ControlCommandSummary) :
    Except ControlCommandError Unit × Daemon σ η :=
  match planTabSwitch daemon.session command with
  | .error error => (.error error, daemon)
  | .ok tabId =>
    let (daemon, switched) := daemon.enqueueControlSessionEvent engine command (.switchTab tabId)
    if !switched && daemon.session.activeTabId != tabId then
      (.error (.unknown ("failed to switch tab: " ++ tabId) none), daemon)
    else (.ok (), daemon)

/-- The session kill of `apply_control_command_with_session_actor`. -/
def applySessionKill (daemon : Daemon σ η) (command : ControlCommandSummary) :
    Except ControlCommandError Unit × Daemon σ η :=
  match applySessionKillCommand daemon.session command with
  | .error error => (.error error, daemon)
  | .ok _ =>
    (.ok (), daemon.enqueueLifecycleSessionEvent engine command
      (.requestSessionShutdown command.sessionId))

/-- `apply_control_command_with_session_actor`, as the server calls it: with a host. -/
def applyControlCommand (daemon : Daemon σ η) (command : ControlCommandSummary) :
    Except ControlCommandError ControlCommandOutcome × Daemon σ η :=
  let outcome (result : ControlCommandOutcome) (applied : Except ControlCommandError Unit × Daemon σ η) :=
    (applied.1.map fun _ => result, applied.2)
  if command.kind = .paneSplit then
    outcome .continue (daemon.applyPaneSplitCommand engine host command)
  else if command.kind = .tabNew then outcome .continue (daemon.applyTabNewCommand engine host command)
  else if command.kind = .tabClose then
    outcome .continue (daemon.applyTabCloseCommand engine host command)
  else if command.kind = .tabSwitch then
    outcome .continue (daemon.applyTabSwitchCommand engine command)
  else if command.kind = .sessionNew then
    (.error (.unknown "session new requires daemon registry routing" none), daemon)
  else if command.kind = .sessionKill then outcome .shutdown (daemon.applySessionKill engine command)
  else
    (.error (.unknown ("unknown control command kind " ++ toString command.kind.value) command.paneId),
      daemon)

end Daemon

/-! ### What a command does to the daemon -/

namespace Daemon

variable {σ η : Type} {engine : TerminalEngine σ} {host : ProcessHost η}
  {okEvent : Session → SessionEvent → Prop} {okCall : HostCall η → Prop} {daemon : Daemon σ η}
  {command : ControlCommandSummary}

theorem stopPanes_serves (paneIds : List String) :
    Serves engine okEvent okCall daemon (daemon.stopPanes host paneIds).2 := by
  induction paneIds generalizing daemon with
  | nil => exact .refl _
  | cons paneId rest ih =>
    rw [stopPanes]
    split
    · exact (Serves.refl daemon).onHost _
    · exact ((Serves.refl daemon).onHost _).trans ih

/-- A split accepts the one event of its plan. -/
theorem applyPaneSplitCommand_serves (hidle : daemon.actor.Idle)
    (ok : ∀ split, planPaneSplit daemon.session command = .ok split → okEvent daemon.session
      (.splitPane split.targetPaneId command.splitAxis split.newPaneId split.newHost)) :
    Serves engine okEvent okCall daemon (daemon.applyPaneSplitCommand engine host command).2 := by
  rw [applyPaneSplitCommand]
  split
  case h_1 => exact .refl _
  case h_2 split hplan =>
    split
    case h_1 => exact (Serves.refl daemon).onHost _
    case h_2 state _ =>
      have hstarted : Serves engine okEvent okCall daemon { daemon with host := state } :=
        (Serves.refl daemon).onHost state
      have haccept := hstarted.acceptEvent hidle
        ⟨command.actorId, .control, command.commandSeq, _⟩ (ok split hplan)
      split
      case h_1 reached heq =>
        obtain rfl : _ = reached := congrArg Prod.fst heq
        exact haccept
      case h_2 reached heq =>
        obtain rfl : _ = reached := congrArg Prod.fst heq
        exact haccept.onHost _

/-- A new tab accepts the tab and then the switch to it. -/
theorem applyTabNewCommand_serves (hidle : daemon.actor.Idle)
    (okAdd : ∀ tab, planTabNew daemon.session command = .ok tab →
      okEvent daemon.session (.addTab tab.tabId tab.title tab.paneId tab.newHost))
    (okSwitch : ∀ session tabId, okEvent session (.switchTab tabId)) :
    Serves engine okEvent okCall daemon (daemon.applyTabNewCommand engine host command).2 := by
  rw [applyTabNewCommand]
  split
  case h_1 => exact .refl _
  case h_2 tab hplan =>
    split
    case h_1 => exact (Serves.refl daemon).onHost _
    case h_2 state _ =>
      have hstarted : Serves engine okEvent okCall daemon { daemon with host := state } :=
        (Serves.refl daemon).onHost state
      have hadded := hstarted.acceptEvent hidle
        ⟨command.actorId, .control, command.commandSeq, _⟩ (okAdd tab hplan)
      have hswitched := hadded.acceptEvent hidle
        ⟨command.actorId, .control, command.commandSeq, .switchTab tab.tabId⟩ (okSwitch _ _)
      dsimp only
      split
      · exact hswitched.onHost _
      · exact hswitched

theorem applyTabCloseCommand_serves (hidle : daemon.actor.Idle)
    (ok : ∀ tab, planTabClose daemon.session command = .ok tab →
      okEvent daemon.session (.closeTab tab.tabId)) :
    Serves engine okEvent okCall daemon (daemon.applyTabCloseCommand engine host command).2 := by
  rw [applyTabCloseCommand]
  split
  case h_1 => exact .refl _
  case h_2 tab hplan =>
    have haccept : Serves engine okEvent okCall daemon (daemon.acceptEvent engine
        ⟨command.actorId, .control, command.commandSeq, .closeTab tab.tabId⟩).1 :=
      (Serves.refl daemon).acceptEvent hidle _ (ok tab hplan)
    split
    case h_1 reached heq =>
      obtain rfl : _ = reached := congrArg Prod.fst heq
      exact haccept
    case h_2 reached heq =>
      obtain rfl : _ = reached := congrArg Prod.fst heq
      exact haccept.trans (stopPanes_serves _)

theorem applyTabSwitchCommand_serves (hidle : daemon.actor.Idle)
    (ok : ∀ session tabId, okEvent session (.switchTab tabId)) :
    Serves engine okEvent okCall daemon (daemon.applyTabSwitchCommand engine command).2 := by
  rw [applyTabSwitchCommand]
  split
  case h_1 => exact .refl _
  case h_2 tabId _ =>
    have haccept : Serves engine okEvent okCall daemon (daemon.acceptEvent engine
        ⟨command.actorId, .control, command.commandSeq, .switchTab tabId⟩).1 :=
      (Serves.refl daemon).acceptEvent hidle _ (ok _ tabId)
    dsimp only
    split <;> exact haccept

theorem applySessionKill_serves (hidle : daemon.actor.Idle)
    (ok : ∀ session sessionId, okEvent session (.requestSessionShutdown sessionId)) :
    Serves engine okEvent okCall daemon (daemon.applySessionKill engine command).2 := by
  rw [applySessionKill]
  split
  case h_1 => exact .refl _
  case h_2 =>
    exact (Serves.refl daemon).acceptEvent hidle
      ⟨command.actorId, .lifecycle, command.commandSeq, _⟩ (ok _ _)

/-- The events of a command: those its plan asks for, and the ones that need no condition. -/
structure CommandAllowed (okEvent : Session → SessionEvent → Prop) (session : Session)
    (command : ControlCommandSummary) : Prop where
  split : command.kind = .paneSplit → ∀ split, planPaneSplit session command = .ok split →
    okEvent session (.splitPane split.targetPaneId command.splitAxis split.newPaneId split.newHost)
  addTab : command.kind = .tabNew → ∀ tab, planTabNew session command = .ok tab →
    okEvent session (.addTab tab.tabId tab.title tab.paneId tab.newHost)
  closeTab : command.kind = .tabClose → ∀ tab, planTabClose session command = .ok tab →
    okEvent session (.closeTab tab.tabId)
  switchTab : ∀ session tabId, okEvent session (.switchTab tabId)
  shutdown : ∀ session sessionId, okEvent session (.requestSessionShutdown sessionId)

/-- **A control command** reaches the session only through the events of its plan. -/
theorem applyControlCommand_serves (hidle : daemon.actor.Idle)
    (ok : CommandAllowed okEvent daemon.session command) :
    Serves engine okEvent okCall daemon (daemon.applyControlCommand engine host command).2 := by
  simp only [applyControlCommand]
  split
  case isTrue hkind => exact applyPaneSplitCommand_serves hidle (ok.split hkind)
  case isFalse =>
  split
  case isTrue hkind => exact applyTabNewCommand_serves hidle (ok.addTab hkind) ok.switchTab
  case isFalse =>
  split
  case isTrue hkind => exact applyTabCloseCommand_serves hidle (ok.closeTab hkind)
  case isFalse =>
  split
  case isTrue => exact applyTabSwitchCommand_serves hidle ok.switchTab
  case isFalse =>
  split
  case isTrue => exact .refl _
  case isFalse =>
  split
  case isTrue => exact applySessionKill_serves hidle ok.shutdown
  case isFalse => exact .refl _

end Daemon

end Nmux
