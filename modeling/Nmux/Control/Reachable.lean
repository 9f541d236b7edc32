import Nmux.Workspace.WellFormed
import Nmux.Control.Agreement

/-! Sessions reached by control commands and committed resizes. Commands may meet any host in any
state, or none, and a resize any engine; what they do to the session is what its operations do, so every
session they reach is well formed. -/
namespace Nmux

/-- The sessions reached from the initial one by commands and resizes that meet a condition in the
session they find. -/
inductive SessionReached (okCommand : Session → ControlCommandSummary → Prop)
    (okResize : Session → String → UInt32 → UInt32 → Prop) : Session → Prop
  | initial : SessionReached okCommand okResize Session.initial
  | command {session : Session} {η : Type} (host : Option (ProcessHost η)) (state : η)
      (command : ControlCommandSummary) (before : SessionReached okCommand okResize session)
      (ok : okCommand session command) :
      SessionReached okCommand okResize (session.applyControlCommand host state command).2.1
  | resize {session : Session} {σ : Type} (engine : TerminalEngine σ) (state : σ) (paneId : String)
      (cols rows : UInt32) (before : SessionReached okCommand okResize session)
      (ok : okResize session paneId cols rows) :
      SessionReached okCommand okResize
        (session.commitPaneResizeWithEngine engine paneId cols rows state).1

/-- The sessions control commands reach. -/
def ControlReachable : Session → Prop := SessionReached (fun _ _ => True) fun _ _ _ _ => False

namespace Session

variable {η : Type} {session : Session} {state : η} {command : ControlCommandSummary}

/-- The session after a command: the one before, or what one operation of its plan made of it; for a
new tab, two. -/
inductive CommandStep (session : Session) (command : ControlCommandSummary) : Session → Prop
  | same : CommandStep session command session
  | split (split : PaneSplit) (kind : command.kind = .paneSplit)
      (plan : planPaneSplit session command = .ok split) :
      CommandStep session command
        (session.splitPane split.targetPaneId command.splitAxis split.newPaneId split.newHost).1
  | tabNew (tab : TabNew) (kind : command.kind = .tabNew) (plan : planTabNew session command = .ok tab) :
      CommandStep session command
        ((session.addTab tab.tabId tab.title tab.paneId tab.newHost).1.switchTab tab.tabId).1
  | tabClose (tab : TabClose) (kind : command.kind = .tabClose)
      (plan : planTabClose session command = .ok tab) :
      CommandStep session command (session.closeTab tab.tabId).1
  | tabSwitch (tabId : String) (kind : command.kind = .tabSwitch) :
      CommandStep session command (session.switchTab tabId).1

theorem applyPaneSplitCommand_step (host : ProcessHost η) (hkind : command.kind = .paneSplit) :
    CommandStep session command (session.applyPaneSplitCommand host state command).2.1 := by
  rw [applyPaneSplitCommand]
  split
  case h_1 => exact .same
  case h_2 split hplan =>
    split
    case h_1 => exact .same
    case h_2 =>
      have hstep := CommandStep.split split hkind hplan
      split
      case h_1 heq => rwa [heq] at hstep
      case h_2 heq => rwa [heq] at hstep

theorem applyTabNewCommand_step (host : ProcessHost η) (hkind : command.kind = .tabNew) :
    CommandStep session command (session.applyTabNewCommand host state command).2.1 := by
  rw [applyTabNewCommand]
  split
  case h_1 => exact .same
  case h_2 tab hplan =>
    split
    case h_1 => exact .same
    case h_2 =>
      have hstep := CommandStep.tabNew tab hkind hplan
      dsimp only
      split
      case h_1 heq =>
        have hsame := (switchTab_of_refused hplan (by rw [heq])).1
        rw [heq] at hsame
        simp only at hsame ⊢
        rw [hsame]
        exact .same
      case h_2 heq =>
        rw [heq] at hstep
        split
        · exact hstep
        · exact hstep

theorem applyTabCloseCommand_step (host : Option (ProcessHost η)) (hkind : command.kind = .tabClose) :
    CommandStep session command (session.applyTabCloseCommand host state command).2.1 := by
  rw [applyTabCloseCommand]
  split
  case h_1 => exact .same
  case h_2 tab hplan =>
    have hstep := CommandStep.tabClose tab hkind hplan
    split
    case h_1 heq => rwa [heq] at hstep
    case h_2 heq =>
      rw [heq] at hstep
      split <;> exact hstep

theorem applyTabSwitchCommand_step (hkind : command.kind = .tabSwitch) :
    CommandStep session command (session.applyTabSwitchCommand command).2 := by
  rw [applyTabSwitchCommand]
  split
  case h_1 => exact .same
  case h_2 tabId hplan =>
    have hstep : CommandStep session command (session.switchTab tabId).1 := .tabSwitch tabId hkind
    dsimp only
    split <;> exact hstep

/-- **A command on a session** is at most one operation of its plan. -/
theorem applyControlCommand_step (host : Option (ProcessHost η)) :
    CommandStep session command (session.applyControlCommand host state command).2.1 := by
  simp only [applyControlCommand]
  split
  case isTrue hkind =>
    cases host with
    | none => exact .same
    | some host => exact applyPaneSplitCommand_step host hkind
  split
  case isTrue hkind =>
    cases host with
    | none => exact .same
    | some host => exact applyTabNewCommand_step host hkind
  split
  case isTrue hkind => exact applyTabCloseCommand_step host hkind
  split
  case isTrue hkind => exact applyTabSwitchCommand_step hkind
  split
  · exact .same
  split
  · exact .same
  · exact .same

theorem CommandStep.wellFormed {after : Session} (h : CommandStep session command after)
    (hsession : session.WellFormed) : after.WellFormed := by
  cases h with
  | same => exact hsession
  | split split => exact hsession.splitPane _ _ _ _
  | tabNew tab => exact (hsession.addTab _ _ _ _).switchTab _
  | tabClose tab => exact hsession.closeTab _
  | tabSwitch tabId => exact hsession.switchTab _

end Session

/-! ### Names of new panes -/

theorem firstFreeName_eq (stem : String) (taken : String → Bool) (fuel next : Nat) :
    ∃ number : Nat, firstFreeName stem taken fuel next = stem ++ toString number := by
  induction fuel generalizing next with
  | zero => exact ⟨next, rfl⟩
  | succ fuel ih =>
    rw [firstFreeName]
    split
    · exact ih (next + 1)
    · exact ⟨next, rfl⟩

/-- A new pane's name is a number after `pane-`. -/
theorem nextPaneId_eq (session : Session) : ∃ number : Nat, nextPaneId session = "pane-" ++ toString number :=
  firstFreeName_eq _ _ _ _

theorem nextPaneId_isEmpty (session : Session) : (nextPaneId session).isEmpty = false := by
  obtain ⟨number, hname⟩ := nextPaneId_eq session
  rw [← Bool.not_eq_true, String.isEmpty_iff, hname]
  intro hempty
  have hlength := congrArg String.length hempty
  have hstem : "pane-".length = 5 := rfl
  have hnone : "".length = 0 := rfl
  rw [String.length_append] at hlength
  omega

/-- No pane has the name a new pane gets. -/
theorem nextPaneId_fresh (session : Session) : session.pane (nextPaneId session) = none := by
  have htaken : ∀ name, (session.paneHost name).isSome = true → name ∈ session.nodes.map (·.state.id) := by
    intro name hname
    rw [Session.paneHost, Option.isSome_map, Session.pane_isSome] at hname
    obtain ⟨node, hnode, hid⟩ := List.any_eq_true.mp hname
    exact List.mem_map.mpr ⟨node, hnode, by simpa [PaneNode.named] using hid⟩
  have hfree : (session.paneHost (firstFreeName "pane-" (fun name => (session.paneHost name).isSome)
      (session.nodes.map (·.state.id)).length 1)).isSome = false := firstFreeName_free htaken 1
  rw [List.length_map] at hfree
  rwa [Session.paneHost, Option.isSome_map, Option.isSome_eq_false_iff,
    Option.isNone_iff_eq_none] at hfree

/-! ### What they keep -/

/-- Every session they reach is well formed. -/
theorem SessionReached.wellFormed {okCommand : Session → ControlCommandSummary → Prop}
    {okResize : Session → String → UInt32 → UInt32 → Prop} {session : Session}
    (h : SessionReached okCommand okResize session) : session.WellFormed := by
  induction h with
  | initial => exact Session.initial_wellFormed
  | command host state command _ _ ih => exact (Session.applyControlCommand_step host).wellFormed ih
  | resize engine state paneId cols rows _ _ ih => exact ih.resize engine state paneId cols rows

end Nmux
