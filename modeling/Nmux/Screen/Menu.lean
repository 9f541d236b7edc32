import Nmux.Screen.State

/-! The menu of the interactive client. Each of its four actions opens an overlay with the lines of the
workspace, some of which do something when they are selected; one line is selected at a time, and the
selection moves over those lines only. -/
namespace Nmux.Screen

open Client (WorkspacePaneFields WorkspacePaneSummary WorkspaceSummary WorkspaceTabSummary)
open Live (SessionInventorySummary)
open Tui (MenuAction OverlayAction TuiOverlay TuiOverlayLine)

/-! ### Selection -/

def menuActions : List MenuAction := [.sessions, .newSession, .windows, .clipboard]

def menuIndex (action : MenuAction) : Option ℕ := menuActions.findIdx? fun candidate => candidate == action

/-- The next index in a list, round its ends. -/
def cycled (current : ℕ) (delta : ℤ) (length : ℕ) : ℕ := ((current + delta) % (length : ℤ)).toNat

def cycleLiveMenu (activeMenuIndex : Option ℕ) (delta : ℤ) : Option ℕ :=
  some (cycled (activeMenuIndex.getD 0) delta menuActions.length)

def selectableOverlayIndex (overlay : TuiOverlay) : Option ℕ :=
  overlay.lines.findIdx? fun line => line.action.isSome

/-- The indices of the lines that do something. -/
def selectableLines (overlay : TuiOverlay) : List ℕ :=
  (overlay.lines.zipIdx).filterMap fun entry => if entry.1.action.isSome then some entry.2 else none

def moveOverlaySelection (overlay : TuiOverlay) (delta : ℤ) : TuiOverlay :=
  let selectable := selectableLines overlay
  if selectable.isEmpty then { overlay with selected := none }
  else
    let current := (overlay.selected.bind fun selected =>
      selectable.findIdx? fun index => index == selected).getD 0
    { overlay with selected := selectable[cycled current delta selectable.length]? }

def selectedOverlayAction (overlay : TuiOverlay) : Option OverlayAction :=
  (overlay.selected.bind (overlay.lines[·]?)).bind (·.action)

/-! ### Lines -/

def overlayText (text : String) : TuiOverlayLine := { text, action := none }

/-- A line that is marked, or else does something. -/
def markedLine (marked : Bool) (text : String) (action : OverlayAction) : TuiOverlayLine where
  text := (if marked then "*" else " ") ++ " " ++ text
  action := if marked then none else some action

def sessionOverlayLines (workspace : WorkspaceSummary) (sessionInventory : Option SessionInventorySummary) :
    List TuiOverlayLine :=
  match sessionInventory with
  | none => [overlayText ("session " ++ workspace.sessionId)]
  | some inventory => inventory.sessions.map fun session =>
    markedLine (session.sessionId == workspace.sessionId) (session.sessionId ++ " " ++ session.title)
      (.switchSession session.sessionId)

def workspaceTabs (workspace : WorkspaceSummary) : List WorkspaceTabSummary :=
  if !workspace.tabs.isEmpty then workspace.tabs
  else
    let root := workspace.paneTree.getD
      (.node ⟨workspace.paneId, workspace.cols, workspace.rows, workspace.resizePolicy, .none⟩ [])
    [{ tabId := workspace.tabId, title := workspace.tabId, activePaneId := workspace.paneId, root }]

def windowOverlayLines (workspace : WorkspaceSummary) : List TuiOverlayLine :=
  overlayText ("tab " ++ workspace.tabId) ::
    ((workspaceTabs workspace).map fun tab =>
      markedLine (tab.tabId == workspace.tabId) (tab.tabId ++ " " ++ tab.title) (.switchTab tab.tabId)) ++
    (workspacePanes workspace).map fun pane =>
      markedLine (pane.paneId == workspace.paneId)
        (pane.paneId ++ " " ++ toString pane.cols ++ "x" ++ toString pane.rows) (.focusPane pane.paneId)

/-! ### Overlays -/

/-- `menu_overlay_for_action_with_session_inventory`. -/
def menuOverlayForAction (action : MenuAction) (workspace : WorkspaceSummary)
    (surfaceState : LiveSurfaceState) (sessionInventory : Option SessionInventorySummary) : TuiOverlay :=
  let (title, lines) :=
    match action with
    | .sessions => ("sessions", sessionOverlayLines workspace sessionInventory)
    | .newSession => ("new session", [overlayText "new named session"])
    | .windows => ("windows", windowOverlayLines workspace)
    | .clipboard =>
      ("clipboard",
        [overlayText (if surfaceState.currentModes.bracketedPaste then "pane bracketed paste enabled"
          else "nmux paste forwarding enabled")])
  { title, lines, selected := lines.findIdx? fun line => line.action.isSome }

/-- The selection of a fresh overlay is its first line that does something. -/
theorem menuOverlayForAction_selected (action : MenuAction) (workspace : WorkspaceSummary)
    (surfaceState : LiveSurfaceState) (sessionInventory : Option SessionInventorySummary) :
    let overlay := menuOverlayForAction action workspace surfaceState sessionInventory
    overlay.selected = selectableOverlayIndex overlay := by
  cases action <;> rfl

theorem cycled_lt {current length : ℕ} {delta : ℤ} (h : 0 < length) : cycled current delta length < length := by
  have hnonneg := Int.emod_nonneg (current + delta) (show (length : ℤ) ≠ 0 by omega)
  have hlt := Int.emod_lt_of_pos (current + delta) (show (0 : ℤ) < length by omega)
  unfold cycled
  omega

/-- A menu that is cycled is at one of the actions. -/
theorem cycleLiveMenu_action (activeMenuIndex : Option ℕ) (delta : ℤ) :
    ∃ index action, cycleLiveMenu activeMenuIndex delta = some index ∧ menuActions[index]? = some action := by
  have hlt : cycled (activeMenuIndex.getD 0) delta menuActions.length < menuActions.length :=
    cycled_lt (by decide)
  exact ⟨_, _, rfl, List.getElem?_eq_getElem hlt⟩

end Nmux.Screen
