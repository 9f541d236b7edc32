import Nmux.Core.Actor
import Nmux.Core.SessionNodes

/-! The shape of a session: its tabs, which of them is active, and the panes each is made of, but for
what the panes hold. Output, sizes and input of panes leave it alone; which panes there are, which of
them are leaves and which is active is read off it. -/
namespace Nmux

/-- A tab but for what its panes hold. -/
structure TabShape where
  id : String
  activePaneId : String
  panes : List (Bool × String)
deriving DecidableEq, Repr

def PaneNode.shape (node : PaneNode) : Bool × String := (node.leaf, node.state.id)

def Tab.shape (tab : Tab) : TabShape where
  id := tab.id
  activePaneId := tab.activePaneId
  panes := tab.root.nodes.map PaneNode.shape

structure SessionShape where
  id : String
  activeTabId : String
  tabs : List TabShape
deriving DecidableEq, Repr

/-- The panes of all tabs, in tab order. -/
def SessionShape.panes (shape : SessionShape) : List (Bool × String) := shape.tabs.flatMap (·.panes)

/-- Output, sizes and input of panes: what the clients of a session and the polls for them do to it. -/
def SessionEvent.OfPanes : SessionEvent → Prop
  | .paneOutput _ _ | .commitPaneResize _ _ _ | .forwardPaneInput _ _ _ => True
  | _ => False

/-- A write that keeps the id keeps the shape. -/
theorem PaneNode.write_shape {write : PaneState → PaneState} (hid : ∀ pane, (write pane).id = pane.id)
    (node : PaneNode) : (node.write write).shape = node.shape := by
  simp [PaneNode.shape, PaneNode.write, hid]

namespace Session

def shape (session : Session) : SessionShape where
  id := session.id
  activeTabId := session.activeTabId
  tabs := session.tabs.map Tab.shape

/-! ### Writes to a pane -/

theorem writeTabs_shape {write : PaneState → PaneState} (hid : ∀ pane, (write pane).id = pane.id)
    (paneId : String) (tabs : List Tab) :
    (writeTabs write paneId tabs).map Tab.shape = tabs.map Tab.shape := by
  induction tabs with
  | nil => rfl
  | cons tab rest ih =>
    have htab := paneNodeMut_nodes write paneId tab.root
    cases hm : paneNodeMut write paneId tab.root with
    | some root =>
      rw [hm] at htab
      simp only [writeTabs, hm, List.map_cons, Tab.shape, htab.2,
        Lib.map_replaceFirst (PaneNode.write_shape hid)]
    | none => simp only [writeTabs, hm, List.map_cons, ih]

theorem writePane_shape (session : Session) {write : PaneState → PaneState} {paneId : String}
    (hid : ∀ pane, (write pane).id = pane.id) : (session.writePane write paneId).shape = session.shape := by
  simp only [shape, writePane, writeTabs_shape hid]

section
variable {σ : Type} (engine : TerminalEngine σ) (session : Session) (paneId : String) (state : σ)

theorem applyPaneOutput_shape (output : List UInt8) :
    (session.applyPaneOutputWithEngine engine paneId output state).1.shape = session.shape := by
  rcases session.applyPaneOutput_cases engine paneId state output with hsame | ⟨-, update, -, -, hresult⟩
  · rw [hsame]
  · rw [hresult]
    exact session.writePane_shape fun pane => applyTerminalUpdate_id pane _ _

theorem commitPaneResize_shape (cols rows : UInt32) :
    (session.commitPaneResizeWithEngine engine paneId cols rows state).1.shape = session.shape := by
  rcases session.commitPaneResize_cases engine paneId state cols rows with hsame | ⟨-, update, -, -, hresult⟩
  · rw [hsame]
  · rw [hresult]
    exact session.writePane_shape fun pane => applyTerminalUpdate_id _ _ _

end

/-- Events of panes keep the shape. -/
theorem applyAccepted_shape {σ : Type} (engine : TerminalEngine σ) (core : SessionCore σ)
    {accepted : AcceptedSessionEvent} (h : accepted.event.OfPanes) :
    (core.applyAccepted engine accepted).1.session.shape = core.session.shape := by
  obtain ⟨metadata, event⟩ := accepted
  cases event with
  | paneOutput paneId bytes => exact applyPaneOutput_shape engine _ _ _ _
  | commitPaneResize paneId cols rows => exact commitPaneResize_shape engine _ _ _ _ _
  | forwardPaneInput => rfl
  | addTab => exact h.elim
  | switchTab => exact h.elim
  | closeTab => exact h.elim
  | focusPane => exact h.elim
  | splitPane => exact h.elim
  | setPaneResizePolicy => exact h.elim
  | requestSessionShutdown => exact h.elim

/-! ### What is read off the shape -/

theorem nodes_shape (session : Session) : session.nodes.map PaneNode.shape = session.shape.panes := by
  simp only [nodes, shape, SessionShape.panes, List.map_flatMap, List.flatMap_map, Tab.shape]

theorem leafPaneIds_shape (session : Session) :
    session.leafPaneIds = (session.shape.panes.filter (·.1)).map (·.2) := by
  rw [leafPaneIds_eq, ← nodes_shape]
  induction session.nodes with
  | nil => rfl
  | cons node rest ih =>
    by_cases hleaf : node.leaf = true <;> simp [PaneNode.shape, hleaf, ih]

theorem pane_isSome_shape (session : Session) (paneId : String) :
    (session.pane paneId).isSome = session.shape.panes.any (·.2 == paneId) := by
  rw [pane_isSome, ← nodes_shape, List.any_map]
  rfl

theorem surfaceVersion_isSome (session : Session) (paneId : String) :
    (session.surfaceVersion paneId).isSome = session.shape.panes.any (·.2 == paneId) := by
  rw [surfaceVersion, Option.isSome_map, pane_isSome_shape]

end Session

end Nmux
