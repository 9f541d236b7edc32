import Nmux.Core.SessionNodes

/-! The shape of a tab's tree. A leaf has no axis, an interior node has an axis and exactly two
children. Writes to a pane and splits keep the shape; both find their pane by its id, and the ids they
leave in the tree are known. -/
namespace Nmux

open Protocol (SplitAxis)

/-- A tree of leaves without an axis and of splits in two along one. -/
inductive Pane.WellFormed : Pane → Prop
  | leaf {state : PaneState} (axis : state.splitAxis = .none) : WellFormed (.node state [])
  | split {state : PaneState} {first second : Pane}
      (axis : state.splitAxis = .horizontal ∨ state.splitAxis = .vertical)
      (hfirst : first.WellFormed) (hsecond : second.WellFormed) : WellFormed (.node state [first, second])

/-- The ids of all nodes of a tree. -/
def Pane.ids (pane : Pane) : List String := pane.nodes.map (·.state.id)

theorem paneNode_isSome (paneId : String) (pane : Pane) :
    (paneNode paneId pane).isSome = true ↔ paneId ∈ pane.ids := by
  rw [← Option.isSome_map (f := Pane.asNode), paneNode_asNode, List.find?_isSome, Pane.ids,
    List.mem_map]
  simp only [beq_iff_eq]

/-! ### Writes -/

/-- A write that keeps the id keeps all ids of the tree. -/
theorem paneNodeMut_ids {write : PaneState → PaneState} (hid : ∀ state, (write state).id = state.id)
    {paneId : String} {pane written : Pane} (h : paneNodeMut write paneId pane = some written) :
    written.ids = pane.ids := by
  have hnodes := paneNodeMut_nodes write paneId pane
  rw [h] at hnodes
  rw [Pane.ids, hnodes.2, Lib.map_replaceFirst fun node => hid node.state]
  rfl

/-- A write that keeps the axis keeps the shape. -/
theorem paneNodeMut_wellFormed {write : PaneState → PaneState}
    (haxis : ∀ state, (write state).splitAxis = state.splitAxis) {paneId : String} {pane : Pane}
    (h : pane.WellFormed) : ∀ written, paneNodeMut write paneId pane = some written →
      written.WellFormed := by
  induction h with
  | @leaf state axis =>
    intro written hwritten
    by_cases hid : state.id = paneId
    · simp only [paneNodeMut, hid, beq_self_eq_true, if_true, Option.some.injEq] at hwritten
      subst hwritten
      exact .leaf ((haxis state).trans axis)
    · simp [paneNodeMut, paneNodeMutIn, hid] at hwritten
  | @split state first second axis hfirst hsecond ihFirst ihSecond =>
    intro written hwritten
    by_cases hid : state.id = paneId
    · simp only [paneNodeMut, hid, beq_self_eq_true, if_true, Option.some.injEq] at hwritten
      subst hwritten
      exact .split (by rwa [haxis]) hfirst hsecond
    · cases hf : paneNodeMut write paneId first with
      | some first' =>
        simp only [paneNodeMut, paneNodeMutIn, hid, hf, beq_iff_eq, if_false, Option.map_some,
          Option.some.injEq] at hwritten
        subst hwritten
        exact .split axis (ihFirst _ hf) hsecond
      | none =>
        cases hs : paneNodeMut write paneId second with
        | none => simp [paneNodeMut, paneNodeMutIn, hid, hf, hs] at hwritten
        | some second' =>
          simp only [paneNodeMut, paneNodeMutIn, hid, hf, hs, beq_iff_eq, if_false, Option.map_some,
            Option.some.injEq] at hwritten
          subst hwritten
          exact .split axis hfirst (ihSecond _ hs)

/-! ### Splits -/

theorem splitChildSizes_axis {cols rows : UInt32} {axis : SplitAxis} {sizes : SplitSizes}
    (h : splitChildSizes cols rows axis = some sizes) : axis = .horizontal ∨ axis = .vertical := by
  unfold splitChildSizes at h
  split at h
  case isTrue hrows => exact .inl hrows.1
  case isFalse =>
    split at h
    case isTrue hcols => exact .inr hcols.1
    case isFalse => cases h

/-- A split keeps the shape: a leaf becomes a split of two leaves. -/
theorem splitPaneNode_wellFormed {paneId newPaneId : String} {axis : SplitAxis} {newHost : HostSpec}
    {pane : Pane} (h : pane.WellFormed) :
    ∀ root, splitPaneNode paneId axis newPaneId newHost pane = some root → root.WellFormed := by
  induction h with
  | @leaf state hleaf =>
    intro root hroot
    by_cases hid : state.id = paneId
    · cases hsizes : splitChildSizes state.cols state.rows axis with
      | none => simp [splitPaneNode, hid, hsizes] at hroot
      | some sizes =>
        simp only [splitPaneNode, hid, hsizes, beq_self_eq_true, if_true, List.isEmpty_nil,
          Bool.not_true, Bool.false_eq_true, if_false, Option.some.injEq] at hroot
        subst hroot
        exact .split (splitChildSizes_axis hsizes) (.leaf hleaf) (.leaf rfl)
    · simp [splitPaneNode, splitPaneNodeIn, hid] at hroot
  | @split state first second haxis hfirst hsecond ihFirst ihSecond =>
    intro root hroot
    by_cases hid : state.id = paneId
    · simp [splitPaneNode, hid] at hroot
    · cases hf : splitPaneNode paneId axis newPaneId newHost first with
      | some first' =>
        simp only [splitPaneNode, splitPaneNodeIn, hid, hf, beq_iff_eq, if_false, Option.map_some,
          Option.some.injEq] at hroot
        subst hroot
        exact .split haxis (ihFirst _ hf) hsecond
      | none =>
        cases hs : splitPaneNode paneId axis newPaneId newHost second with
        | none => simp [splitPaneNode, splitPaneNodeIn, hid, hf, hs] at hroot
        | some second' =>
          simp only [splitPaneNode, splitPaneNodeIn, hid, hf, hs, beq_iff_eq, if_false,
            Option.map_some, Option.some.injEq] at hroot
          subst hroot
          exact .split haxis hfirst (ihSecond _ hs)

/-- A split keeps the ids of the tree and adds those of the container and of the new pane. -/
theorem SplitNodes.mem_ids {paneId newPaneId : String} {axis : SplitAxis} {newHost : HostSpec}
    {nodes nodes' : List PaneNode} (h : SplitNodes paneId axis newPaneId newHost nodes nodes')
    (id : String) : id ∈ nodes'.map (·.state.id) ↔
      id ∈ nodes.map (·.state.id) ∨ id = newPaneId ∨ id = "split-" ++ paneId ++ "-" ++ newPaneId := by
  obtain ⟨before, after, target, sizes, rfl, rfl, -, rfl⟩ := h.split
  simp only [List.map_append, List.map_cons, List.mem_append, List.mem_cons, splitContainer,
    splitExisting, newPaneFromTemplate]
  tauto

end Nmux
