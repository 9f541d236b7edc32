import Nmux.Core.Session

/-! Workspace frames. A session publishes its tabs as one table each, and in it the tree of panes. A
FlatBuffers reader verifies a frame before it reads it; of its limits, the model has the one that
depends on the shape of the workspace: tables may be nested to a depth of 64. -/
namespace Nmux

namespace Protocol

abbrev PaneKind := ByteEnum ["Pty", "Adapter"]
def PaneKind.pty : PaneKind := ⟨0⟩

/-- `table PaneNode` without its children. -/
structure PaneNodeFields where
  paneId : Option String
  kind : PaneKind
  splitAxis : SplitAxis
  surfaceVersion : UInt64
  cols : UInt32
  rows : UInt32
  resizePolicy : ResizePolicy
deriving DecidableEq, Repr

/-- `table PaneNode`. A leaf has no vector of children, which reads like an empty one. -/
inductive PaneNode where
  | node (fields : PaneNodeFields) (children : List PaneNode)
deriving Repr

def PaneNode.fields : PaneNode → PaneNodeFields
  | .node fields _ => fields

structure TabNode where
  tabId : Option String
  title : Option String
  root : Option PaneNode
  activePaneId : Option String
deriving Repr

structure WorkspaceTreeSnapshot where
  version : UInt64
  sessionId : Option String
  tabs : Option (List TabNode)
  activeTabId : Option String
deriving Repr

end Protocol

/-- `table Envelope` with a workspace tree as its body. -/
structure WorkspaceFrame where
  sessionId : String
  connectionId : String
  seq : UInt64
  body : Protocol.WorkspaceTreeSnapshot
deriving Repr

/-! ### Encoding -/

mutual
def buildPaneNode : Pane → Protocol.PaneNode
  | .node state children =>
    .node {
        paneId := some state.id
        kind := .pty
        splitAxis := state.splitAxis
        surfaceVersion := state.surfaceVersion
        cols := state.cols
        rows := state.rows
        resizePolicy := state.resizePolicy }
      (buildPaneNodes children)

def buildPaneNodes : List Pane → List Protocol.PaneNode
  | [] => []
  | child :: rest => buildPaneNode child :: buildPaneNodes rest
end

def buildTabNode (tab : Tab) : Protocol.TabNode where
  tabId := some tab.id
  title := some tab.title
  root := some (buildPaneNode tab.root)
  activePaneId := some tab.activePaneId

def Session.workspaceTreeFrame (session : Session) (connectionId : String) (seq : UInt64) :
    WorkspaceFrame where
  sessionId := session.id
  connectionId := connectionId
  seq := seq
  body := {
    version := session.version
    sessionId := some session.id
    tabs := some (session.tabs.map buildTabNode)
    activeTabId := some session.activeTabId }

/-! ### Verification -/

mutual
/-- The nesting of a pane's tables. -/
def Protocol.PaneNode.depth : Protocol.PaneNode → Nat
  | .node _ children => Protocol.PaneNode.depths children + 1

/-- The deepest of some panes. -/
def Protocol.PaneNode.depths : List Protocol.PaneNode → Nat
  | [] => 0
  | child :: rest => max child.depth (depths rest)
end

def Protocol.TabNode.depth (tab : Protocol.TabNode) : Nat :=
  (tab.root.elim 0 Protocol.PaneNode.depth) + 1

/-- The nesting of all tables of the frame: the envelope, the snapshot, a tab and its panes. -/
def WorkspaceFrame.depth (frame : WorkspaceFrame) : Nat :=
  ((frame.body.tabs.getD []).map Protocol.TabNode.depth).foldr max 0 + 2

/-- `VerifierOptions::max_depth`, as it is by default. -/
def maxDepth : Nat := 64

/-- `size_prefixed_root_as_envelope`. -/
def sizePrefixedRootAsEnvelope (frame : WorkspaceFrame) : Except String WorkspaceFrame :=
  if frame.depth ≤ maxDepth then .ok frame else .error "Nested table depth limit reached."

/-! ### The depth of a tree -/

mutual
/-- The height of a tree of panes; a leaf's is one. -/
def Pane.height : Pane → Nat
  | .node _ children => Pane.heights children + 1

def Pane.heights : List Pane → Nat
  | [] => 0
  | child :: rest => max child.height (Pane.heights rest)
end

mutual
@[simp] theorem buildPaneNode_depth : ∀ pane : Pane, (buildPaneNode pane).depth = pane.height
  | .node state children => by
    rw [buildPaneNode, Protocol.PaneNode.depth, Pane.height, buildPaneNodes_depths children]

theorem buildPaneNodes_depths : ∀ panes : List Pane,
    Protocol.PaneNode.depths (buildPaneNodes panes) = Pane.heights panes
  | [] => rfl
  | child :: rest => by
    rw [buildPaneNodes, Protocol.PaneNode.depths, Pane.heights, buildPaneNode_depth child,
      buildPaneNodes_depths rest]
end

/-- **A workspace is verified** exactly if no tree is higher than 61. -/
theorem workspaceTreeFrame_depth (session : Session) (connectionId : String) (seq : UInt64) :
    (session.workspaceTreeFrame connectionId seq).depth ≤ maxDepth ↔
      ∀ tab ∈ session.tabs, tab.root.height ≤ 61 := by
  have hmax (depths : List Nat) (limit : Nat) :
      depths.foldr max 0 ≤ limit ↔ ∀ depth ∈ depths, depth ≤ limit := by
    induction depths with
    | nil => simp
    | cons depth rest ih => simp [ih]
  have hshift : (session.workspaceTreeFrame connectionId seq).depth ≤ maxDepth ↔
      ((session.tabs.map buildTabNode).map Protocol.TabNode.depth).foldr max 0 ≤ 62 := by
    show _ + 2 ≤ 64 ↔ _
    exact Nat.add_le_add_iff_right
  rw [hshift, hmax]
  simp only [List.forall_mem_map, buildTabNode, Protocol.TabNode.depth, Option.elim_some,
    buildPaneNode_depth]
  exact forall₂_congr fun _ _ => Nat.add_le_add_iff_right

end Nmux
