import Nmux.Core.Surface
import Nmux.Lib.FirstMatch

/-! The panes of a tab. A pane is a leaf or a split of its children; every function on panes follows
the tree in the order of the source, the node before its children. `Pane.nodes` lists the nodes in
that order, and the lemmas here say what each function does to the list, so that later proofs are
about lists: a lookup is the first match, an update replaces it, a split puts three nodes in the
place of one. -/
namespace Nmux

open Protocol (SplitAxis)
open Lib (replaceFirst replaceFirst_append)

/-- A pane: its state and its children, none for a leaf. -/
inductive Pane where
  | node (state : PaneState) (children : List Pane)
deriving Repr

def Pane.state : Pane → PaneState
  | .node state _ => state

def Pane.children : Pane → List Pane
  | .node _ children => children

/-- A node of a tree as the list of nodes keeps it: the state, and whether it is a leaf. -/
structure PaneNode where
  state : PaneState
  leaf : Bool
deriving DecidableEq, Repr

def Pane.asNode (pane : Pane) : PaneNode := ⟨pane.state, pane.children.isEmpty⟩

mutual
/-- The nodes of a pane, itself first. -/
def Pane.nodes : Pane → List PaneNode
  | .node state children => ⟨state, children.isEmpty⟩ :: Pane.nodesOf children

def Pane.nodesOf : List Pane → List PaneNode
  | [] => []
  | child :: rest => child.nodes ++ Pane.nodesOf rest
end

/-! ### Functions on panes -/

mutual
/-- `pane_node`. -/
def paneNode (paneId : String) : Pane → Option Pane
  | .node state children =>
    if state.id == paneId then some (.node state children) else paneNodeIn paneId children

def paneNodeIn (paneId : String) : List Pane → Option Pane
  | [] => none
  | child :: rest =>
    match paneNode paneId child with
    | some pane => some pane
    | none => paneNodeIn paneId rest
end

mutual
/-- `pane_node_mut` and a write through it: the pane with the state of the first match changed. -/
def paneNodeMut (write : PaneState → PaneState) (paneId : String) : Pane → Option Pane
  | .node state children =>
    if state.id == paneId then some (.node (write state) children)
    else (paneNodeMutIn write paneId children).map (.node state)

def paneNodeMutIn (write : PaneState → PaneState) (paneId : String) : List Pane → Option (List Pane)
  | [] => none
  | child :: rest =>
    match paneNodeMut write paneId child with
    | some child => some (child :: rest)
    | none => (paneNodeMutIn write paneId rest).map (child :: ·)
end

mutual
def collectLeafPaneIds : Pane → List String
  | .node state children => if children.isEmpty then [state.id] else collectLeafPaneIdsIn children

def collectLeafPaneIdsIn : List Pane → List String
  | [] => []
  | child :: rest => collectLeafPaneIds child ++ collectLeafPaneIdsIn rest
end

/-! ### Splitting -/

structure SplitSizes where
  firstCols : UInt32
  firstRows : UInt32
  secondCols : UInt32
  secondRows : UInt32
deriving DecidableEq, Repr

def splitChildSizes (cols rows : UInt32) (axis : SplitAxis) : Option SplitSizes :=
  if axis = .horizontal ∧ 2 ≤ rows then some ⟨cols, rows / 2, cols, rows - rows / 2⟩
  else if axis = .vertical ∧ 2 ≤ cols then some ⟨cols / 2, rows, cols - cols / 2, rows⟩
  else none

/-- The split pane as the first child. Its lines stay as they are, whatever its new rows. -/
def splitExisting (pane : PaneState) (sizes : SplitSizes) : PaneState :=
  { pane with
    cols := sizes.firstCols
    rows := sizes.firstRows
    host := { pane.host with command :=
      { pane.host.command with initialSize := some (sizes.firstCols, sizes.firstRows) } }
    surfaceVersion := satAdd64 pane.surfaceVersion 1
    lastPatchKind := .fullRefreshRequired
    lastRowUpdateIndices := allRowIndices pane.surfaceLines.length
    lastPaletteDiff := none }

/-- The node that takes the place of the split pane. It keeps the pane's terminal state. -/
def splitContainer (pane : PaneState) (axis : SplitAxis) (newPaneId : String) (sizes : SplitSizes) :
    PaneState :=
  { pane with
    id := "split-" ++ pane.id ++ "-" ++ newPaneId
    splitAxis := axis
    cols := if axis = .horizontal then max sizes.firstCols sizes.secondCols
      else satAdd32 sizes.firstCols sizes.secondCols
    rows := if axis = .horizontal then satAdd32 sizes.firstRows sizes.secondRows
      else max sizes.firstRows sizes.secondRows
    surfaceVersion := 0
    lastPatchKind := .fullRefreshRequired
    lastRowUpdateIndices := []
    lastPaletteDiff := none }

mutual
/-- `split_pane_node`. A match that is no leaf, or too small, ends the search below it only. -/
def splitPaneNode (paneId : String) (axis : SplitAxis) (newPaneId : String) (newHost : HostSpec) :
    Pane → Option Pane
  | .node state children =>
    if state.id == paneId then
      if !children.isEmpty then none
      else
        match splitChildSizes state.cols state.rows axis with
        | none => none
        | some sizes =>
          some (.node (splitContainer state axis newPaneId sizes)
            [.node (splitExisting state sizes) [],
              .node (newPaneFromTemplate newPaneId newHost sizes.secondCols sizes.secondRows) []])
    else (splitPaneNodeIn paneId axis newPaneId newHost children).map (.node state)

def splitPaneNodeIn (paneId : String) (axis : SplitAxis) (newPaneId : String) (newHost : HostSpec) :
    List Pane → Option (List Pane)
  | [] => none
  | child :: rest =>
    match splitPaneNode paneId axis newPaneId newHost child with
    | some child => some (child :: rest)
    | none => (splitPaneNodeIn paneId axis newPaneId newHost rest).map (child :: ·)
end

/-! ### The functions on the list of nodes -/

mutual
theorem paneNode_asNode (paneId : String) : ∀ pane : Pane,
    (paneNode paneId pane).map Pane.asNode = pane.nodes.find? fun node => node.state.id == paneId
  | .node state children => by
    by_cases h : (state.id == paneId) = true
    · simp [paneNode, Pane.nodes, Pane.asNode, Pane.state, Pane.children, h]
    · simp [paneNode, Pane.nodes, h, paneNodeIn_asNode paneId children]

theorem paneNodeIn_asNode (paneId : String) : ∀ panes : List Pane,
    (paneNodeIn paneId panes).map Pane.asNode =
      (Pane.nodesOf panes).find? fun node => node.state.id == paneId
  | [] => rfl
  | child :: rest => by
    rw [Pane.nodesOf, List.find?_append, ← paneNode_asNode paneId child,
      ← paneNodeIn_asNode paneId rest, paneNodeIn]
    cases paneNode paneId child <;> simp
end

/-- Lists of one length are empty together. -/
theorem isEmpty_of_length {α : Type} {xs ys : List α} (h : xs.length = ys.length) :
    xs.isEmpty = ys.isEmpty := by
  cases xs <;> cases ys <;> simp_all

/-- A write to a node, as a change of the list. -/
def PaneNode.write (write : PaneState → PaneState) (node : PaneNode) : PaneNode :=
  { node with state := write node.state }

/-- Whether the node has the id. -/
def PaneNode.named (paneId : String) (node : PaneNode) : Bool := node.state.id == paneId

mutual
/-- A write through `pane_node_mut` changes the first node of that id, if there is one. -/
theorem paneNodeMut_nodes (write : PaneState → PaneState) (paneId : String) : ∀ pane : Pane,
    match paneNodeMut write paneId pane with
    | some pane' => pane.nodes.any (PaneNode.named paneId) = true ∧
        pane'.nodes = replaceFirst (PaneNode.named paneId) (PaneNode.write write) pane.nodes
    | none => pane.nodes.any (PaneNode.named paneId) = false
  | .node state children => by
    by_cases h : (state.id == paneId) = true
    · simp [paneNodeMut, Pane.nodes, PaneNode.named, PaneNode.write, replaceFirst, h]
    · have ih := paneNodeMutIn_nodes write paneId children
      cases hm : paneNodeMutIn write paneId children with
      | none =>
        rw [hm] at ih
        simpa [paneNodeMut, h, hm, Pane.nodes, PaneNode.named] using ih
      | some children' =>
        rw [hm] at ih
        obtain ⟨hany, hlength, hnodes⟩ := ih
        have hempty : children'.isEmpty = children.isEmpty := isEmpty_of_length hlength
        simp only [paneNodeMut, h, hm, Pane.nodes, PaneNode.named, replaceFirst, hnodes, hempty,
          Bool.false_eq_true, if_false, Option.map_some, List.any_cons, Bool.false_or, and_true]
        exact hany

theorem paneNodeMutIn_nodes (write : PaneState → PaneState) (paneId : String) : ∀ panes : List Pane,
    match paneNodeMutIn write paneId panes with
    | some panes' => (Pane.nodesOf panes).any (PaneNode.named paneId) = true ∧
        panes'.length = panes.length ∧
        Pane.nodesOf panes' =
          replaceFirst (PaneNode.named paneId) (PaneNode.write write) (Pane.nodesOf panes)
    | none => (Pane.nodesOf panes).any (PaneNode.named paneId) = false
  | [] => rfl
  | child :: rest => by
    have ihChild := paneNodeMut_nodes write paneId child
    have ihRest := paneNodeMutIn_nodes write paneId rest
    cases hc : paneNodeMut write paneId child with
    | some child' =>
      rw [hc] at ihChild
      simp [paneNodeMutIn, hc, Pane.nodesOf, replaceFirst_append, ihChild]
    | none =>
      rw [hc] at ihChild
      cases hr : paneNodeMutIn write paneId rest with
      | some rest' =>
        rw [hr] at ihRest
        simp [paneNodeMutIn, hc, hr, Pane.nodesOf, replaceFirst_append, ihChild, ihRest]
      | none =>
        rw [hr] at ihRest
        simp [paneNodeMutIn, hc, hr, Pane.nodesOf, ihChild, ihRest]
end

mutual
theorem collectLeafPaneIds_eq : ∀ pane : Pane,
    collectLeafPaneIds pane = (pane.nodes.filter (·.leaf)).map (·.state.id)
  | .node state [] => by simp [collectLeafPaneIds, Pane.nodes, Pane.nodesOf]
  | .node state (child :: rest) => by
    simp [collectLeafPaneIds, Pane.nodes, collectLeafPaneIdsIn_eq (child :: rest)]

theorem collectLeafPaneIdsIn_eq : ∀ panes : List Pane,
    collectLeafPaneIdsIn panes = ((Pane.nodesOf panes).filter (·.leaf)).map (·.state.id)
  | [] => rfl
  | child :: rest => by
    simp [collectLeafPaneIdsIn, Pane.nodesOf, collectLeafPaneIds_eq child, collectLeafPaneIdsIn_eq rest]
end

/-! ### Splits on the list of nodes -/

/-- What a split does to a list of nodes: a leaf of that id gives way to the container, itself in
its new size and the new pane. -/
structure SplitNodes (paneId : String) (axis : SplitAxis) (newPaneId : String) (newHost : HostSpec)
    (nodes nodes' : List PaneNode) : Prop where
  split : ∃ before after target sizes, nodes = before ++ ⟨target, true⟩ :: after ∧
    target.id = paneId ∧ splitChildSizes target.cols target.rows axis = some sizes ∧
    nodes' = before ++ ⟨splitContainer target axis newPaneId sizes, false⟩ ::
      ⟨splitExisting target sizes, true⟩ ::
      ⟨newPaneFromTemplate newPaneId newHost sizes.secondCols sizes.secondRows, true⟩ :: after

theorem SplitNodes.append {paneId newPaneId : String} {axis : SplitAxis} {newHost : HostSpec}
    {nodes nodes' : List PaneNode} (h : SplitNodes paneId axis newPaneId newHost nodes nodes')
    (left right : List PaneNode) :
    SplitNodes paneId axis newPaneId newHost (left ++ nodes ++ right) (left ++ nodes' ++ right) := by
  obtain ⟨before, after, target, sizes, rfl, hid, hsizes, rfl⟩ := h.split
  exact ⟨left ++ before, after ++ right, target, sizes, by simp, hid, hsizes, by simp⟩

mutual
theorem splitPaneNode_nodes (paneId : String) (axis : SplitAxis) (newPaneId : String)
    (newHost : HostSpec) : ∀ pane pane' : Pane,
    splitPaneNode paneId axis newPaneId newHost pane = some pane' →
      SplitNodes paneId axis newPaneId newHost pane.nodes pane'.nodes
  | .node state children, pane', h => by
    by_cases hid : state.id = paneId
    · cases children with
      | cons child rest => simp [splitPaneNode, hid] at h
      | nil =>
        cases hsizes : splitChildSizes state.cols state.rows axis with
        | none => simp [splitPaneNode, hid, hsizes] at h
        | some sizes =>
          simp only [splitPaneNode, hid, hsizes, beq_self_eq_true, if_true, List.isEmpty_nil,
            Bool.not_true, Bool.false_eq_true, if_false, Option.some.injEq] at h
          subst h
          exact ⟨[], [], state, sizes, rfl, hid, hsizes, rfl⟩
    · simp only [splitPaneNode, beq_iff_eq, hid, if_false, Option.map_eq_some_iff] at h
      obtain ⟨children', hchildren, rfl⟩ := h
      obtain ⟨hlength, hnodes⟩ := splitPaneNodeIn_nodes paneId axis newPaneId newHost _ _ hchildren
      have hempty : children'.isEmpty = children.isEmpty := isEmpty_of_length hlength
      simpa [Pane.nodes, hempty] using hnodes.append [⟨state, children.isEmpty⟩] []

theorem splitPaneNodeIn_nodes (paneId : String) (axis : SplitAxis) (newPaneId : String)
    (newHost : HostSpec) : ∀ panes panes' : List Pane,
    splitPaneNodeIn paneId axis newPaneId newHost panes = some panes' →
      panes'.length = panes.length ∧
        SplitNodes paneId axis newPaneId newHost (Pane.nodesOf panes) (Pane.nodesOf panes')
  | [], panes', h => by simp [splitPaneNodeIn] at h
  | child :: rest, panes', h => by
    cases hc : splitPaneNode paneId axis newPaneId newHost child with
    | some child' =>
      simp only [splitPaneNodeIn, hc, Option.some.injEq] at h
      subst h
      exact ⟨rfl, by
        simpa [Pane.nodesOf] using
          (splitPaneNode_nodes paneId axis newPaneId newHost _ _ hc).append [] (Pane.nodesOf rest)⟩
    | none =>
      simp only [splitPaneNodeIn, hc, Option.map_eq_some_iff] at h
      obtain ⟨rest', hrest, rfl⟩ := h
      obtain ⟨hlength, hnodes⟩ := splitPaneNodeIn_nodes paneId axis newPaneId newHost _ _ hrest
      exact ⟨by simp [hlength], by simpa [Pane.nodesOf] using hnodes.append child.nodes []⟩
end

end Nmux
