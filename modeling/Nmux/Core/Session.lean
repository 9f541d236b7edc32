import Nmux.Core.PaneTree

/-! A session: its tabs, each with a tree of panes, and the operations on them. Every operation
returns the session after it and whether it changed anything. -/
namespace Nmux

open Protocol (SplitAxis ResizePolicy)

structure Tab where
  id : String
  title : String
  activePaneId : String
  root : Pane
deriving Repr

structure Session where
  id : String
  version : UInt64
  activeTabId : String
  tabs : List Tab
deriving Repr

namespace Session

/-- `Session::initial`. -/
def initial : Session where
  id := "local"
  version := 1
  activeTabId := "tab-1"
  tabs := [{
    id := "tab-1"
    title := "local"
    activePaneId := "pane-1"
    root := .node
      { newPaneFromTemplate "pane-1" (.local "local" (.new "sh")) 80 24 with
        host := .local "local" (.new "sh")
        surfaceVersion := 2 } [] }]

/-- The nodes of all tabs, in tab order. -/
def nodes (session : Session) : List PaneNode := session.tabs.flatMap (·.root.nodes)

def bumpVersion (session : Session) : Session :=
  { session with version := satAdd64 session.version 1 }

/-! ### Lookups -/

def pane (session : Session) (paneId : String) : Option Pane :=
  session.tabs.findSome? fun tab => paneNode paneId tab.root

/-- The tab `active_tab_id` names. -/
def activeTab (session : Session) : Option Tab :=
  session.tabs.find? fun tab => tab.id == session.activeTabId

def activePaneId (session : Session) : Option String := do
  let tab ← session.activeTab
  if (paneNode tab.activePaneId tab.root).isSome then some tab.activePaneId else none

def surfaceVersion (session : Session) (paneId : String) : Option UInt64 :=
  (session.pane paneId).map (·.state.surfaceVersion)

def scrollbackVersion (session : Session) (paneId : String) : Option UInt64 :=
  (session.pane paneId).map (·.state.scrollbackVersion)

def surfacePatchKind (session : Session) (paneId : String) : Option Protocol.PatchKind :=
  (session.pane paneId).map (·.state.lastPatchKind)

def paneSize (session : Session) (paneId : String) : Option (UInt32 × UInt32) :=
  (session.pane paneId).map fun pane => (pane.state.cols, pane.state.rows)

def paneResizePolicy (session : Session) (paneId : String) : Option ResizePolicy :=
  (session.pane paneId).map (·.state.resizePolicy)

def paneHost (session : Session) (paneId : String) : Option HostSpec :=
  (session.pane paneId).map (·.state.host)

def paneSurface (session : Session) (paneId : String) : Option PaneSurface :=
  (session.pane paneId).map (·.state.paneSurface)

/-- The terminal modes of a pane; a flag of a missing pane is off. -/
def paneModes (session : Session) (paneId : String) : Option TerminalModes :=
  (session.pane paneId).map (·.state.modes)

def paneFocusReporting (session : Session) (paneId : String) : Bool :=
  (session.paneModes paneId).any (·.focusReporting)

def paneBracketedPaste (session : Session) (paneId : String) : Bool :=
  (session.paneModes paneId).any (·.bracketedPaste)

def paneMouseTracking (session : Session) (paneId : String) : Bool :=
  (session.paneModes paneId).any (·.mouseTracking)

def paneMouseTrackingMode (session : Session) (paneId : String) : Option Protocol.MouseTrackingMode :=
  (session.paneModes paneId).map (·.mouseTrackingMode)

def paneMouseFormat (session : Session) (paneId : String) : Option Protocol.MouseFormat :=
  (session.paneModes paneId).map (·.mouseFormat)

def paneApplicationKeypad (session : Session) (paneId : String) : Bool :=
  (session.paneModes paneId).any (·.applicationKeypad)

def paneApplicationCursor (session : Session) (paneId : String) : Bool :=
  (session.paneModes paneId).any (·.applicationCursor)

def leafPaneIds (session : Session) : List String :=
  session.tabs.flatMap fun tab => collectLeafPaneIds tab.root

/-! ### Writes to a pane -/

/-- The tabs with the first node of that id changed. -/
def writeTabs (write : PaneState → PaneState) (paneId : String) : List Tab → List Tab
  | [] => []
  | tab :: rest =>
    match paneNodeMut write paneId tab.root with
    | some root => { tab with root } :: rest
    | none => tab :: writeTabs write paneId rest

/-- A write through `pane_mut`; nothing if no pane has the id. -/
def writePane (session : Session) (write : PaneState → PaneState) (paneId : String) : Session :=
  { session with tabs := writeTabs write paneId session.tabs }

end Session

/-- What an engine is shown of a pane. -/
def PaneState.terminalInput (pane : PaneState) : TerminalInput where
  paneId := pane.id
  cols := pane.cols
  rows := pane.rows
  surface := pane.surface
  cursor := pane.cursor
  modes := pane.modes
  title := pane.terminalTitle
  workingDirectory := pane.terminalWorkingDirectory
  colors := pane.colors
  styles := pane.styles
  surfaceLines := pane.surfaceLines
  surfaceRowRuns := pane.surfaceRowRuns
  surfaceSemanticPrompts := pane.surfaceSemanticPrompts
  surfaceDirtyRows := pane.surfaceDirtyRows
  surfaceKittyPlaceholders := pane.surfaceKittyPlaceholders
  scrollbackLines := pane.scrollbackLines
  scrollbackRowRuns := pane.scrollbackRowRuns
  scrollbackSemanticPrompts := pane.scrollbackSemanticPrompts
  scrollbackDirtyRows := pane.scrollbackDirtyRows
  scrollbackKittyPlaceholders := pane.scrollbackKittyPlaceholders

namespace Session

section
variable {σ : Type} (engine : TerminalEngine σ)

/-- `apply_pane_output_with_engine`, with the engine's state after it. -/
def applyPaneOutputWithEngine (session : Session) (paneId : String) (output : List UInt8) (state : σ) :
    Session × σ × Bool :=
  match session.pane paneId with
  | none => (session, state, false)
  | some pane =>
    match engine.applyOutput state pane.state.terminalInput output with
    | (state, none) => (session, state, false)
    | (state, some update) =>
      (session.writePane (fun pane => (applyTerminalUpdate pane update false).1) paneId, state,
        (applyTerminalUpdate pane.state update false).2)

/-- A pane in its new size, with the engine's update for it. -/
def resizedPane (cols rows : UInt32) (update : TerminalUpdate) (pane : PaneState) : PaneState :=
  (applyTerminalUpdate { pane with cols, rows } update true).1

/-- `commit_pane_resize_with_engine`, with the engine's state after it. -/
def commitPaneResizeWithEngine (session : Session) (paneId : String) (cols rows : UInt32) (state : σ) :
    Session × σ × Bool :=
  match session.pane paneId with
  | none => (session, state, false)
  | some pane =>
    if pane.state.cols = cols ∧ pane.state.rows = rows then (session, state, false)
    else
      match engine.resize state pane.state.terminalInput cols rows with
      | (state, none) => (session, state, false)
      | (state, some update) =>
        ((session.writePane (resizedPane cols rows update) paneId).bumpVersion, state, true)

end

def setPaneResizePolicy (session : Session) (paneId : String) (policy : ResizePolicy) :
    Session × Bool :=
  match session.pane paneId with
  | none => (session, false)
  | some pane =>
    if pane.state.resizePolicy = policy then (session, false)
    else
      ((session.writePane (fun pane => { pane with resizePolicy := policy }) paneId).bumpVersion, true)

/-! ### Tabs -/

def addTab (session : Session) (tabId title paneId : String) (host : HostSpec) : Session × Bool :=
  if tabId.isEmpty || paneId.isEmpty || session.tabs.any (·.id == tabId) ||
      (session.pane paneId).isSome then
    (session, false)
  else
    match session.activeTab with
    | none => (session, false)
    | some active =>
      let tab := {
        id := tabId
        title
        activePaneId := paneId
        root := .node
          (newPaneFromTemplate paneId host active.root.state.cols active.root.state.rows) [] }
      ({ session with tabs := session.tabs ++ [tab] }.bumpVersion, true)

def switchTab (session : Session) (tabId : String) : Session × Bool :=
  match session.tabs.find? (·.id == tabId) with
  | none => (session, false)
  | some tab =>
    if (paneNode tab.activePaneId tab.root).isNone then (session, false)
    else if session.activeTabId = tabId then (session, false)
    else ({ session with activeTabId := tabId }.bumpVersion, true)

def closeTab (session : Session) (tabId : String) : Session × Bool :=
  if session.tabs.length ≤ 1 then (session, false)
  else
    match session.tabs.findIdx? (·.id == tabId) with
    | none => (session, false)
    | some index =>
      let tabs := session.tabs.eraseIdx index
      let activeTabId :=
        if session.activeTabId = tabId then
          ((tabs[min index (tabs.length - 1)]?).map (·.id)).getD session.activeTabId
        else session.activeTabId
      ({ session with tabs, activeTabId }.bumpVersion, true)

/-- The tabs with the first one of that id changed: what the source does at the position of the
active tab. -/
def writeTab (session : Session) (write : Tab → Tab) : List Tab :=
  Lib.replaceFirst (·.id == session.activeTabId) write session.tabs

def focusPane (session : Session) (paneId : String) : Session × Bool :=
  match session.activeTab with
  | none => (session, false)
  | some tab =>
    if (paneNode paneId tab.root).isNone then (session, false)
    else if tab.activePaneId = paneId then (session, false)
    else
      ({ session with tabs := session.writeTab fun tab => { tab with activePaneId := paneId }
        }.bumpVersion, true)

def splitPane (session : Session) (paneId : String) (axis : SplitAxis) (newPaneId : String)
    (newHost : HostSpec) : Session × Bool :=
  if axis ≠ .horizontal ∧ axis ≠ .vertical then (session, false)
  else if newPaneId.isEmpty || (session.pane newPaneId).isSome then (session, false)
  else
    match session.activeTab with
    | none => (session, false)
    | some tab =>
      match splitPaneNode paneId axis newPaneId newHost tab.root with
      | none => (session, false)
      | some root =>
        ({ session with tabs := session.writeTab fun tab => { tab with root, activePaneId := newPaneId }
          }.bumpVersion, true)

end Session

end Nmux
