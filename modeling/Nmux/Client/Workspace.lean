import Nmux.Core.WorkspaceFrames
import Nmux.Client.Frames

/-! Reading a workspace frame. The client checks every string and every enum of the tree, then keeps
the tree of each tab and looks up the active pane of the active one. -/
namespace Nmux.Client

open Lib.Check
open Protocol (ResizePolicy SplitAxis)

/-- `WorkspacePaneSummary` without its children. -/
structure WorkspacePaneFields where
  paneId : String
  cols : UInt32
  rows : UInt32
  resizePolicy : ResizePolicy
  splitAxis : SplitAxis
deriving DecidableEq, Repr

/-- `WorkspacePaneSummary`. -/
inductive WorkspacePaneSummary where
  | node (fields : WorkspacePaneFields) (children : List WorkspacePaneSummary)
deriving Repr

structure WorkspaceTabSummary where
  tabId : String
  title : String
  activePaneId : String
  root : WorkspacePaneSummary
deriving Repr

structure WorkspaceSummary where
  sessionId : String
  tabId : String
  paneId : String
  cols : UInt32
  rows : UInt32
  resizePolicy : ResizePolicy
  paneTree : Option WorkspacePaneSummary
  tabs : List WorkspaceTabSummary
deriving Repr

/-! ### Checks -/

def validateResizePolicy (policy : ResizePolicy) : Except String ResizePolicy := do
  require policy.known ("unknown resize policy " ++ toString policy.value)
  return policy

def validatePaneKind (kind : Protocol.PaneKind) : Except String Protocol.PaneKind := do
  require kind.known ("unknown pane kind " ++ toString kind.value)
  return kind

def validateSplitAxis (axis : SplitAxis) : Except String SplitAxis := do
  require axis.known ("unknown split axis " ++ toString axis.value)
  return axis

mutual
def validatePaneNode : Protocol.PaneNode → Except String Unit
  | .node fields children => do
    let _ ← requiredString fields.paneId "workspace pane_id"
    let _ ← validatePaneKind fields.kind
    let _ ← validateSplitAxis fields.splitAxis
    let _ ← validateResizePolicy fields.resizePolicy
    validatePaneNodes children

def validatePaneNodes : List Protocol.PaneNode → Except String Unit
  | [] => .ok ()
  | child :: rest => do
    validatePaneNode child
    validatePaneNodes rest
end

mutual
def findPaneNode (paneId : String) : Protocol.PaneNode → Option Protocol.PaneNode
  | .node fields children =>
    if fields.paneId = some paneId then some (.node fields children)
    else findPaneNodeIn paneId children

def findPaneNodeIn (paneId : String) : List Protocol.PaneNode → Option Protocol.PaneNode
  | [] => none
  | child :: rest =>
    match findPaneNode paneId child with
    | some pane => some pane
    | none => findPaneNodeIn paneId rest
end

mutual
def workspacePaneSummaryFromNode : Protocol.PaneNode → Except String WorkspacePaneSummary
  | .node fields children => do
    let children ← workspacePaneSummariesFromNodes children
    let paneId ← requiredString fields.paneId "workspace pane_id"
    let resizePolicy ← validateResizePolicy fields.resizePolicy
    let splitAxis ← validateSplitAxis fields.splitAxis
    return .node { paneId, cols := fields.cols, rows := fields.rows, resizePolicy, splitAxis } children

def workspacePaneSummariesFromNodes :
    List Protocol.PaneNode → Except String (List WorkspacePaneSummary)
  | [] => .ok []
  | child :: rest => do
    let child ← workspacePaneSummaryFromNode child
    let rest ← workspacePaneSummariesFromNodes rest
    return child :: rest
end

/-- `.ok_or(message)`. -/
def okOr {α : Type} (value : Option α) (message : String) : Except String α :=
  match value with
  | some value => .ok value
  | none => .error message

/-- One tab of the snapshot. -/
def workspaceTabSummary (tab : Protocol.TabNode) : Except String WorkspaceTabSummary := do
  let _ ← requiredString tab.tabId "workspace tab_id"
  let _ ← requiredString tab.title "workspace tab title"
  let _ ← requiredString tab.activePaneId "workspace active_pane_id"
  let root ← okOr tab.root "workspace tab has no root pane"
  validatePaneNode root
  let tabId ← requiredString tab.tabId "workspace tab_id"
  let title ← requiredString tab.title "workspace tab title"
  let activePaneId ← requiredString tab.activePaneId "workspace active_pane_id"
  let root ← workspacePaneSummaryFromNode root
  return { tabId, title, activePaneId, root }

def workspaceTabSummaries : List Protocol.TabNode → Except String (List WorkspaceTabSummary)
  | [] => .ok []
  | tab :: rest => do
    let tab ← workspaceTabSummary tab
    let rest ← workspaceTabSummaries rest
    return tab :: rest

/-- `workspace_summary_from_frame`. -/
def workspaceSummaryFromFrame (frame : WorkspaceFrame) : Except String WorkspaceSummary := do
  let envelope ← sizePrefixedRootAsEnvelope frame
  let snapshot := envelope.body
  let tabs ← okOr snapshot.tabs "workspace tree has no tabs"
  let _ ← requiredString snapshot.sessionId "workspace session_id"
  let _ ← requiredString snapshot.activeTabId "workspace active_tab_id"
  let tabSummaries ← workspaceTabSummaries tabs
  let activeTabId ← requiredString snapshot.activeTabId "workspace active_tab_id"
  let tab ← okOr (tabs.find? fun tab => tab.tabId = some activeTabId)
    ("workspace active tab not found: " ++ activeTabId)
  let activePaneId ← requiredString tab.activePaneId "workspace active_pane_id"
  let root ← okOr tab.root "workspace tab has no root pane"
  let pane ← okOr (findPaneNode activePaneId root)
    ("workspace active pane not found: " ++ activePaneId)
  let paneTree ← workspacePaneSummaryFromNode root
  let sessionId ← requiredString snapshot.sessionId "workspace session_id"
  let tabId ← requiredString tab.tabId "workspace tab_id"
  let paneId ← requiredString pane.fields.paneId "workspace pane_id"
  let resizePolicy ← validateResizePolicy pane.fields.resizePolicy
  return {
    sessionId, tabId, paneId, cols := pane.fields.cols, rows := pane.fields.rows, resizePolicy
    paneTree := some paneTree, tabs := tabSummaries }

end Nmux.Client
