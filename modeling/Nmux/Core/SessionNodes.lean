import Nmux.Core.Session
import Nmux.Core.PaneUpdate

/-! What each operation does to the nodes of a session. A lookup is the first node of that id over
all tabs; a write changes it; a new tab adds a node at the end, a closed tab removes nodes, a split
turns a leaf into three nodes. -/
namespace Nmux

open Protocol (SplitAxis ResizePolicy)
open Lib (replaceFirst replaceFirst_append map_replaceFirst find?_replaceFirst_self
  find?_replaceFirst_other)

namespace Session

theorem pane_asNode (session : Session) (paneId : String) :
    (session.pane paneId).map Pane.asNode = session.nodes.find? (PaneNode.named paneId) := by
  rw [pane, nodes]
  induction session.tabs with
  | nil => rfl
  | cons tab rest ih =>
    have htab := paneNode_asNode paneId tab.root
    rw [List.findSome?_cons, List.flatMap_cons, List.find?_append, ← ih]
    change _ = Option.or (tab.root.nodes.find? fun node => node.state.id == paneId) _
    rw [← htab]
    cases paneNode paneId tab.root <;> simp

theorem pane_isSome (session : Session) (paneId : String) :
    (session.pane paneId).isSome = session.nodes.any (PaneNode.named paneId) := by
  rw [← Option.isSome_map (f := Pane.asNode), pane_asNode, Bool.eq_iff_iff, List.find?_isSome,
    List.any_eq_true]

/-- What a lookup finds is a node of the session, and it has the id. -/
theorem pane_mem_nodes {session : Session} {paneId : String} {pane : Pane}
    (h : session.pane paneId = some pane) :
    session.nodes.find? (PaneNode.named paneId) = some pane.asNode ∧ pane.asNode ∈ session.nodes ∧
      pane.state.id = paneId := by
  have hfind : session.nodes.find? (PaneNode.named paneId) = some pane.asNode := by
    rw [← pane_asNode, h]
    rfl
  have hnamed := List.find?_some hfind
  exact ⟨hfind, List.mem_of_find?_eq_some hfind, by simpa [PaneNode.named, Pane.asNode] using hnamed⟩

theorem writeTabs_nodes (write : PaneState → PaneState) (paneId : String) (tabs : List Tab) :
    (writeTabs write paneId tabs).flatMap (·.root.nodes) =
      replaceFirst (PaneNode.named paneId) (PaneNode.write write) (tabs.flatMap (·.root.nodes)) := by
  induction tabs with
  | nil => rfl
  | cons tab rest ih =>
    have htab := paneNodeMut_nodes write paneId tab.root
    cases hm : paneNodeMut write paneId tab.root with
    | some root =>
      rw [hm] at htab
      simp [writeTabs, hm, replaceFirst_append, htab]
    | none =>
      rw [hm] at htab
      simp [writeTabs, hm, replaceFirst_append, htab, ih]

@[simp] theorem writePane_nodes (session : Session) (write : PaneState → PaneState)
    (paneId : String) :
    (session.writePane write paneId).nodes =
      replaceFirst (PaneNode.named paneId) (PaneNode.write write) session.nodes :=
  writeTabs_nodes write paneId session.tabs

@[simp] theorem bumpVersion_nodes (session : Session) : session.bumpVersion.nodes = session.nodes := rfl

theorem leafPaneIds_eq (session : Session) :
    session.leafPaneIds = (session.nodes.filter (·.leaf)).map (·.state.id) := by
  rw [leafPaneIds, nodes]
  induction session.tabs with
  | nil => rfl
  | cons tab rest ih =>
    rw [List.flatMap_cons, List.flatMap_cons, ih, collectLeafPaneIds_eq, List.filter_append,
      List.map_append]

/-! ### Tabs -/

/-- A tab is added with one new leaf, in the size of the active tab's root. -/
theorem addTab_cases (session : Session) (tabId title paneId : String) (host : HostSpec) :
    (session.addTab tabId title paneId host = (session, false)) ∨
      (tabId.isEmpty = false ∧ paneId.isEmpty = false ∧
        session.tabs.any (·.id == tabId) = false ∧ session.pane paneId = none ∧
        ∃ active, session.activeTab = some active ∧
          (session.addTab tabId title paneId host).2 = true ∧
          (session.addTab tabId title paneId host).1.nodes = session.nodes ++
            [⟨newPaneFromTemplate paneId host active.root.state.cols active.root.state.rows, true⟩]) := by
  by_cases hbad : (tabId.isEmpty || paneId.isEmpty || session.tabs.any (·.id == tabId) ||
      (session.pane paneId).isSome) = true
  · exact .inl (by rw [addTab, if_pos hbad])
  · cases hactive : session.activeTab with
    | none => exact .inl (by rw [addTab, if_neg hbad, hactive])
    | some active =>
      have hadd := hbad
      simp only [Bool.or_eq_true, not_or, Bool.not_eq_true, Option.isSome_eq_false_iff,
        Option.isNone_iff_eq_none] at hadd
      obtain ⟨⟨⟨htab, hpane⟩, hfresh⟩, hnone⟩ := hadd
      refine .inr ⟨htab, hpane, hfresh, hnone, active, rfl, ?_, ?_⟩
      · rw [addTab, if_neg hbad, hactive]
      · rw [addTab, if_neg hbad, hactive]
        simp [nodes, bumpVersion, Pane.nodes, Pane.nodesOf]

@[simp] theorem switchTab_nodes (session : Session) (tabId : String) :
    (session.switchTab tabId).1.nodes = session.nodes := by
  simp only [switchTab]
  repeat' split
  all_goals rfl

/-- A closed tab takes its nodes with it. -/
theorem closeTab_nodes (session : Session) (tabId : String) :
    (session.closeTab tabId).1.nodes.Sublist session.nodes := by
  simp only [closeTab]
  split
  · exact List.Sublist.refl _
  · split
    · exact List.Sublist.refl _
    · exact List.Sublist.flatMap (List.eraseIdx_sublist _ _) _

theorem writeTab_nodes {session : Session} {write : Tab → Tab}
    (h : ∀ tab, (write tab).root.nodes = tab.root.nodes) :
    (session.writeTab write).flatMap (·.root.nodes) = session.nodes := by
  rw [writeTab, nodes, List.flatMap_def, map_replaceFirst h, List.flatMap_def]

@[simp] theorem focusPane_nodes (session : Session) (paneId : String) :
    (session.focusPane paneId).1.nodes = session.nodes := by
  simp only [focusPane]
  repeat' split
  all_goals first
    | rfl
    | exact writeTab_nodes fun _ => rfl

/-- Nodes of one tab among the nodes of a session. -/
theorem writeTab_root {session : Session} {active : Tab} {root : Pane} (write : Tab → Tab)
    (hactive : session.activeTab = some active) (hwrite : ∀ tab, (write tab).root = root) :
    ∃ left right, session.nodes = left ++ active.root.nodes ++ right ∧
      (session.writeTab write).flatMap (·.root.nodes) = left ++ root.nodes ++ right := by
  rw [activeTab] at hactive
  rw [writeTab, nodes]
  generalize session.tabs = tabs at *
  induction tabs with
  | nil => simp at hactive
  | cons tab rest ih =>
    by_cases h : (tab.id == session.activeTabId) = true
    · simp only [List.find?_cons, h, Option.some.injEq] at hactive
      subst hactive
      exact ⟨[], rest.flatMap (·.root.nodes), by simp, by simp [replaceFirst, h, hwrite]⟩
    · simp only [List.find?_cons, h] at hactive
      obtain ⟨left, right, hnodes, hwritten⟩ := ih hactive
      exact ⟨tab.root.nodes ++ left, right, by simp [hnodes], by simp [replaceFirst, h, hwritten]⟩

/-- A split happens in the active tab, on a leaf of that id, for a new id no pane has. The nodes of
the other tabs stay around those of the split one. -/
theorem splitPane_cases (session : Session) (paneId : String) (axis : SplitAxis)
    (newPaneId : String) (newHost : HostSpec) :
    (session.splitPane paneId axis newPaneId newHost = (session, false)) ∨
      (newPaneId.isEmpty = false ∧ session.pane newPaneId = none ∧
        ∃ active root left right, session.activeTab = some active ∧
          (session.splitPane paneId axis newPaneId newHost).2 = true ∧
          SplitNodes paneId axis newPaneId newHost active.root.nodes root ∧
          session.nodes = left ++ active.root.nodes ++ right ∧
          (session.splitPane paneId axis newPaneId newHost).1.nodes = left ++ root ++ right) := by
  by_cases haxis : axis ≠ .horizontal ∧ axis ≠ .vertical
  · exact .inl (by rw [splitPane, if_pos haxis])
  by_cases hnew : (newPaneId.isEmpty || (session.pane newPaneId).isSome) = true
  · exact .inl (by rw [splitPane, if_neg haxis, if_pos hnew])
  cases hactive : session.activeTab with
  | none => exact .inl (by rw [splitPane, if_neg haxis, if_neg hnew, hactive])
  | some active =>
    cases hsplit : splitPaneNode paneId axis newPaneId newHost active.root with
    | none =>
      refine .inl ?_
      rw [splitPane, if_neg haxis, if_neg hnew, hactive]
      simp [hsplit]
    | some root =>
      have hresult : session.splitPane paneId axis newPaneId newHost =
          ({ session with
              tabs := session.writeTab fun tab => { tab with root, activePaneId := newPaneId }
            }.bumpVersion, true) := by
        rw [splitPane, if_neg haxis, if_neg hnew, hactive]
        simp [hsplit]
      simp only [Bool.or_eq_true, not_or, Bool.not_eq_true, Option.isSome_eq_false_iff,
        Option.isNone_iff_eq_none] at hnew
      obtain ⟨left, right, hnodes, hwritten⟩ := writeTab_root
        (fun tab => { tab with root, activePaneId := newPaneId }) hactive fun _ => rfl
      refine .inr ⟨hnew.1, hnew.2, active, root.nodes, left, right, rfl, by rw [hresult], ?_, hnodes, ?_⟩
      · exact splitPaneNode_nodes paneId axis newPaneId newHost _ _ hsplit
      · rw [hresult]
        exact hwritten

/-! ### Writes by an engine -/

section
variable {σ : Type} (engine : TerminalEngine σ) (session : Session) (paneId : String) (state : σ)

/-- Output leaves the session alone, or updates the first pane of that id. -/
theorem applyPaneOutput_cases (output : List UInt8) :
    (session.applyPaneOutputWithEngine engine paneId output state).1 = session ∨
      ∃ pane update, session.pane paneId = some pane ∧
        (engine.applyOutput state pane.state.terminalInput output).2 = some update ∧
        (session.applyPaneOutputWithEngine engine paneId output state).1 =
          session.writePane (fun pane => (applyTerminalUpdate pane update false).1) paneId := by
  simp only [applyPaneOutputWithEngine]
  cases hpane : session.pane paneId with
  | none => exact .inl rfl
  | some pane =>
    cases hupdate : engine.applyOutput state pane.state.terminalInput output with
    | mk state' update =>
      cases update with
      | none => exact .inl (by simp [hupdate])
      | some update => exact .inr ⟨pane, update, rfl, by rw [hupdate], by simp [hupdate]⟩

/-- A resize leaves the session alone, or updates the first pane of that id in its new size. -/
theorem commitPaneResize_cases (cols rows : UInt32) :
    (session.commitPaneResizeWithEngine engine paneId cols rows state).1 = session ∨
      ∃ pane update, session.pane paneId = some pane ∧
        (engine.resize state pane.state.terminalInput cols rows).2 = some update ∧
        (session.commitPaneResizeWithEngine engine paneId cols rows state).1 =
          (session.writePane (resizedPane cols rows update) paneId).bumpVersion := by
  simp only [commitPaneResizeWithEngine]
  cases hpane : session.pane paneId with
  | none => exact .inl rfl
  | some pane =>
    by_cases hsize : pane.state.cols = cols ∧ pane.state.rows = rows
    · exact .inl (by simp [hsize])
    · cases hupdate : engine.resize state pane.state.terminalInput cols rows with
      | mk state' update =>
        cases update with
        | none => exact .inl (by simp [hsize, hupdate])
        | some update => exact .inr ⟨pane, update, rfl, by rw [hupdate], by simp [hsize, hupdate]⟩

/-- A resize that returns `false` has left the session alone. -/
theorem commitPaneResize_refused {cols rows : UInt32}
    (h : (session.commitPaneResizeWithEngine engine paneId cols rows state).2.2 = false) :
    (session.commitPaneResizeWithEngine engine paneId cols rows state).1 = session := by
  unfold commitPaneResizeWithEngine at h ⊢
  repeat' split
  all_goals simp_all

end

theorem setPaneResizePolicy_cases (session : Session) (paneId : String) (policy : ResizePolicy) :
    (session.setPaneResizePolicy paneId policy).1 = session ∨
      (session.setPaneResizePolicy paneId policy).1 =
        (session.writePane (fun pane => { pane with resizePolicy := policy }) paneId).bumpVersion := by
  simp only [setPaneResizePolicy]
  repeat' split
  all_goals simp

/-! ### Leaves -/

/-- A write that keeps the id keeps the leaves. -/
theorem writePane_leafPaneIds (session : Session) {write : PaneState → PaneState} {paneId : String}
    (hid : ∀ pane, (write pane).id = pane.id) :
    (session.writePane write paneId).leafPaneIds = session.leafPaneIds := by
  have hleaves (nodes : List PaneNode) : (nodes.filter (·.leaf)).map (·.state.id) =
      (nodes.map fun node => (node.leaf, node.state.id)).filterMap
        fun (leaf, id) => if leaf then some id else none := by
    induction nodes with
    | nil => rfl
    | cons node rest ih => cases hleaf : node.leaf <;> simp [hleaf, ih]
  have hkept (node : PaneNode) : ((node.write write).leaf, (node.write write).state.id) =
      (node.leaf, node.state.id) := by
    simp [PaneNode.write, hid]
  rw [leafPaneIds_eq, leafPaneIds_eq, writePane_nodes, hleaves, hleaves, map_replaceFirst hkept]

theorem leafPaneIds_of_nodes_eq {before after : Session} (h : after.nodes = before.nodes) :
    after.leafPaneIds = before.leafPaneIds := by
  rw [leafPaneIds_eq, leafPaneIds_eq, h]

section
variable {σ : Type} (engine : TerminalEngine σ) (session : Session) (paneId : String) (state : σ)

@[simp] theorem applyPaneOutput_leafPaneIds (output : List UInt8) :
    (session.applyPaneOutputWithEngine engine paneId output state).1.leafPaneIds =
      session.leafPaneIds := by
  rcases session.applyPaneOutput_cases engine paneId state output with hsame | hupdate
  · rw [hsame]
  · obtain ⟨-, update, -, -, hresult⟩ := hupdate
    rw [hresult]
    exact session.writePane_leafPaneIds fun pane => applyTerminalUpdate_id pane _ _

@[simp] theorem commitPaneResize_leafPaneIds (cols rows : UInt32) :
    (session.commitPaneResizeWithEngine engine paneId cols rows state).1.leafPaneIds =
      session.leafPaneIds := by
  rcases session.commitPaneResize_cases engine paneId state cols rows with hsame | hupdate
  · rw [hsame]
  · obtain ⟨-, update, -, -, hresult⟩ := hupdate
    rw [hresult, leafPaneIds_of_nodes_eq (bumpVersion_nodes _)]
    exact session.writePane_leafPaneIds fun pane => applyTerminalUpdate_id _ _ _

end

/-! ### Sizes -/

section
variable {session : Session}

/-- The size of a pane is that of the first node of its id. -/
theorem paneSize_eq (session : Session) (paneId : String) :
    session.paneSize paneId =
      (session.nodes.find? (PaneNode.named paneId)).map fun node => (node.state.cols, node.state.rows) := by
  rw [← pane_asNode, paneSize, Option.map_map]
  rfl

theorem paneSize_of_nodes_eq {before after : Session} (h : after.nodes = before.nodes)
    (paneId : String) : after.paneSize paneId = before.paneSize paneId := by
  rw [paneSize_eq, paneSize_eq, h]

theorem named_ne {paneId other : String} (hne : other ≠ paneId) (node : PaneNode)
    (h : PaneNode.named paneId node = true) : PaneNode.named other node = false := by
  simp only [PaneNode.named, beq_iff_eq, beq_eq_false_iff_ne] at h ⊢
  exact fun hother => hne (hother ▸ h)

section
variable {σ : Type} (engine : TerminalEngine σ) (state : σ)

/-- Output leaves the size of every pane. -/
theorem applyPaneOutput_size (paneId : String) (output : List UInt8) (other : String) :
    (session.applyPaneOutputWithEngine engine paneId output state).1.paneSize other =
      session.paneSize other := by
  rcases session.applyPaneOutput_cases engine paneId state output with hsame | hupdate
  · rw [hsame]
  · obtain ⟨-, update, -, -, hresult⟩ := hupdate
    have hid : ∀ node, (PaneNode.write (fun pane => (applyTerminalUpdate pane update false).1) node).state.id =
        node.state.id := fun node => applyTerminalUpdate_id _ _ _
    rw [hresult, paneSize_eq, paneSize_eq, writePane_nodes]
    by_cases hne : other = paneId
    · subst hne
      rw [find?_replaceFirst_self fun node h => by
        simp only [PaneNode.named, beq_iff_eq] at h ⊢
        rw [hid, h], Option.map_map]
      congr 1
      funext node
      simp [PaneNode.write]
    · rw [find?_replaceFirst_other (named_ne hne) fun node h => named_ne hne _ (by
        simp only [PaneNode.named, beq_iff_eq] at h ⊢
        rw [hid, h])]

/-- A resize leaves the size of other panes. -/
theorem commitPaneResize_size_other {paneId other : String} (hne : other ≠ paneId) (cols rows : UInt32) :
    (session.commitPaneResizeWithEngine engine paneId cols rows state).1.paneSize other =
      session.paneSize other := by
  rcases session.commitPaneResize_cases engine paneId state cols rows with hsame | hupdate
  · rw [hsame]
  · obtain ⟨-, update, -, -, hresult⟩ := hupdate
    have hid : ∀ node, (PaneNode.write (resizedPane cols rows update) node).state.id = node.state.id :=
      fun node => applyTerminalUpdate_id _ _ _
    rw [hresult, paneSize_of_nodes_eq (bumpVersion_nodes _), paneSize_eq, paneSize_eq, writePane_nodes,
      find?_replaceFirst_other (named_ne hne) fun node h => named_ne hne _ (by
        simp only [PaneNode.named, beq_iff_eq] at h ⊢
        rw [hid, h])]

/-- A resize the engine answers gives the pane its size. -/
theorem commitPaneResize_size {paneId : String} {pane : Pane} (hpane : session.pane paneId = some pane)
    {cols rows : UInt32}
    (hanswers : (engine.resize state pane.state.terminalInput cols rows).2.isSome = true) :
    (session.commitPaneResizeWithEngine engine paneId cols rows state).1.paneSize paneId =
      some (cols, rows) := by
  by_cases hsize : pane.state.cols = cols ∧ pane.state.rows = rows
  · rw [commitPaneResizeWithEngine, hpane]
    simp only [hsize, and_self, if_true]
    rw [paneSize, hpane, Option.map_some, hsize.1, hsize.2]
  · obtain ⟨update, hupdate⟩ := Option.isSome_iff_exists.mp hanswers
    have hresult : (session.commitPaneResizeWithEngine engine paneId cols rows state).1 =
        (session.writePane (resizedPane cols rows update) paneId).bumpVersion := by
      rw [commitPaneResizeWithEngine, hpane]
      simp only [hsize, if_false]
      rw [← Prod.mk.eta (p := engine.resize state _ cols rows), hupdate]
    rw [hresult, paneSize_of_nodes_eq (bumpVersion_nodes _), paneSize_eq, writePane_nodes,
      find?_replaceFirst_self, (pane_mem_nodes hpane).1]
    · simp [PaneNode.write, resizedPane]
    · intro node h
      simpa [PaneNode.named, PaneNode.write, resizedPane] using h

end

end

end Session

end Nmux
