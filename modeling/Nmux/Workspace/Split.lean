import Nmux.Workspace.WellFormed

/-! Splitting a pane. The search for the pane goes through the whole tree, but the names of the nodes
tell them apart, so it ends at the one leaf it looks for; the split takes the place of that leaf, and
nothing else of the session but the active pane and the version is touched. -/
namespace Nmux

open Lib (replaceFirst replaceFirst_append replaceFirst_of_not_any)
open Protocol (SplitAxis)

/-- One place of a tree changed: the old pane there gave way to the new one. -/
inductive Pane.Replaced (old new : Pane) : Pane → Pane → Prop
  | here : Replaced old new old new
  | inside {state : PaneState} {before after : List Pane} {child changed : Pane}
      (h : Replaced old new child changed) :
      Replaced old new (.node state (before ++ child :: after)) (.node state (before ++ changed :: after))

/-- The pane that takes the place of a split leaf. -/
def splitLeaf (target : PaneState) (axis : SplitAxis) (newPaneId : String) (newHost : HostSpec)
    (sizes : SplitSizes) : Pane :=
  .node (splitContainer target axis newPaneId sizes)
    [.node (splitExisting target sizes) [],
      .node (newPaneFromTemplate newPaneId newHost sizes.secondCols sizes.secondRows) []]

section
variable {paneId newPaneId : String} {axis : SplitAxis} {newHost : HostSpec}

mutual
/-- A split replaces a leaf of that id. -/
theorem splitPaneNode_replaced : ∀ pane root : Pane,
    splitPaneNode paneId axis newPaneId newHost pane = some root → ∃ target sizes,
      target.id = paneId ∧ ⟨target, true⟩ ∈ pane.nodes ∧
      splitChildSizes target.cols target.rows axis = some sizes ∧
      Pane.Replaced (.node target []) (splitLeaf target axis newPaneId newHost sizes) pane root
  | .node state children, root, h => by
    by_cases hid : state.id = paneId
    · cases children with
      | cons child rest => simp [splitPaneNode, hid] at h
      | nil =>
        cases hsizes : splitChildSizes state.cols state.rows axis with
        | none => simp [splitPaneNode, hid, hsizes] at h
        | some sizes =>
          simp only [splitPaneNode, hid, hsizes, beq_self_eq_true, if_true, List.isEmpty_nil,
            Bool.not_true, Bool.false_eq_true, if_false, Option.some.injEq] at h
          subst h
          exact ⟨state, sizes, hid, List.mem_cons_self, hsizes, .here⟩
    · simp only [splitPaneNode, beq_iff_eq, hid, if_false, Option.map_eq_some_iff] at h
      obtain ⟨children', hchildren, rfl⟩ := h
      obtain ⟨target, sizes, before, child, changed, after, htarget, hmem, hsizes, rfl, rfl, hchild⟩ :=
        splitPaneNodeIn_replaced children children' hchildren
      exact ⟨target, sizes, htarget, List.mem_cons_of_mem _ hmem, hsizes, .inside hchild⟩

theorem splitPaneNodeIn_replaced : ∀ panes panes' : List Pane,
    splitPaneNodeIn paneId axis newPaneId newHost panes = some panes' →
      ∃ target sizes before child changed after,
        target.id = paneId ∧ ⟨target, true⟩ ∈ Pane.nodesOf panes ∧
        splitChildSizes target.cols target.rows axis = some sizes ∧
        panes = before ++ child :: after ∧ panes' = before ++ changed :: after ∧
        Pane.Replaced (.node target []) (splitLeaf target axis newPaneId newHost sizes) child changed
  | [], panes', h => by simp [splitPaneNodeIn] at h
  | first :: rest, panes', h => by
    cases hfirst : splitPaneNode paneId axis newPaneId newHost first with
    | some changed =>
      simp only [splitPaneNodeIn, hfirst, Option.some.injEq] at h
      obtain ⟨target, sizes, htarget, hmem, hsizes, hreplaced⟩ := splitPaneNode_replaced first changed hfirst
      exact ⟨target, sizes, [], first, changed, rest, htarget, List.mem_append_left _ hmem, hsizes, rfl,
        h.symm, hreplaced⟩
    | none =>
      simp only [splitPaneNodeIn, hfirst, Option.map_eq_some_iff] at h
      obtain ⟨rest', hrest, rfl⟩ := h
      obtain ⟨target, sizes, before, child, changed, after, htarget, hmem, hsizes, rfl, rfl, hreplaced⟩ :=
        splitPaneNodeIn_replaced rest rest' hrest
      exact ⟨target, sizes, first :: before, child, changed, after, htarget,
        List.mem_append_right _ hmem, hsizes, rfl, rfl, hreplaced⟩
end

mutual
/-- A leaf that is large enough is found and split, if no other node has its id. -/
theorem splitPaneNode_isSome {target : PaneState}
    (hsizes : (splitChildSizes target.cols target.rows axis).isSome) : ∀ pane : Pane,
    (pane.nodes.map (·.state.id)).Nodup → ⟨target, true⟩ ∈ pane.nodes →
      (splitPaneNode target.id axis newPaneId newHost pane).isSome
  | .node state children, hnodup, hmem => by
    obtain ⟨hfresh, hrest⟩ := List.nodup_cons.mp hnodup
    by_cases hid : state.id = target.id
    · have hhead : (⟨target, true⟩ : PaneNode) = ⟨state, children.isEmpty⟩ := by
        rcases List.mem_cons.mp hmem with hhead | hbelow
        · exact hhead
        · exact absurd (List.mem_map.mpr ⟨_, hbelow, hid.symm⟩) hfresh
      obtain ⟨rfl, hleaf⟩ := PaneNode.mk.inj hhead
      obtain ⟨sizes, hsizes⟩ := Option.isSome_iff_exists.mp hsizes
      simp [splitPaneNode, ← hleaf, hsizes]
    · have hbelow : ⟨target, true⟩ ∈ Pane.nodesOf children := by
        rcases List.mem_cons.mp hmem with hhead | hbelow
        · exact absurd (congrArg (·.state.id) hhead).symm hid
        · exact hbelow
      simp only [splitPaneNode, beq_iff_eq, hid, if_false, Option.isSome_map]
      exact splitPaneNodeIn_isSome hsizes children hrest hbelow

theorem splitPaneNodeIn_isSome {target : PaneState}
    (hsizes : (splitChildSizes target.cols target.rows axis).isSome) : ∀ panes : List Pane,
    ((Pane.nodesOf panes).map (·.state.id)).Nodup → ⟨target, true⟩ ∈ Pane.nodesOf panes →
      (splitPaneNodeIn target.id axis newPaneId newHost panes).isSome
  | [], _, hmem => by cases hmem
  | first :: rest, hnodup, hmem => by
    rw [Pane.nodesOf, List.map_append] at hnodup
    have hfirst := splitPaneNode_isSome hsizes first hnodup.of_append_left
    rw [splitPaneNodeIn]
    cases hsplit : splitPaneNode target.id axis newPaneId newHost first with
    | some changed => rfl
    | none =>
      rw [hsplit] at hfirst
      have hrest : ⟨target, true⟩ ∈ Pane.nodesOf rest :=
        (List.mem_append.mp hmem).resolve_left fun hmem => absurd (hfirst hmem) (by simp)
      simpa using splitPaneNodeIn_isSome hsizes rest hnodup.of_append_right hrest
end

end

/-! ### The panes of a split -/

/-- What stands in the place of a split leaf: a container of its size, the leaf with what it shows,
and the new pane beside it. -/
structure SplitInto (target : PaneState) (axis : SplitAxis) (newPaneId : String) (newHost : HostSpec)
    (container first second : PaneState) : Prop where
  cols : container.cols = target.cols
  rows : container.rows = target.rows
  along : container.splitAxis = axis
  positive : 0 < first.cols ∧ 0 < first.rows ∧ 0 < second.cols ∧ 0 < second.rows
  horizontal : axis = .horizontal → first.cols = container.cols ∧ second.cols = container.cols ∧
    first.rows.toNat + second.rows.toNat = container.rows.toNat
  vertical : axis = .vertical → first.rows = container.rows ∧ second.rows = container.rows ∧
    first.cols.toNat + second.cols.toNat = container.cols.toNat
  existing : first = { target with
    cols := first.cols
    rows := first.rows
    host := { target.host with command :=
      { target.host.command with initialSize := some (first.cols, first.rows) } }
    surfaceVersion := first.surfaceVersion
    lastPatchKind := .fullRefreshRequired
    lastRowUpdateIndices := allRowIndices target.surfaceLines.length
    lastPaletteDiff := none }
  version : first.surfaceVersion.toNat = min (target.surfaceVersion.toNat + 1) (2 ^ 64 - 1)
  new : second = newPaneFromTemplate newPaneId newHost second.cols second.rows

/-- The two halves of a size of at least two. -/
theorem halves {size : UInt32} (h : 2 ≤ size) : 0 < size / 2 ∧ 0 < size - size / 2 ∧
    (size / 2).toNat + (size - size / 2).toNat = size.toNat := by
  have hsize : 2 ≤ size.toNat := UInt32.le_iff_toNat_le.mp h
  have hhalf : (size / 2).toNat = size.toNat / 2 := by
    rw [UInt32.toNat_div]
    rfl
  have hle : size / 2 ≤ size := by
    rw [UInt32.le_iff_toNat_le, hhalf]
    omega
  have hrest : (size - size / 2).toNat = size.toNat - size.toNat / 2 := by
    rw [UInt32.toNat_sub_of_le _ _ hle, hhalf]
  refine ⟨?_, ?_, by omega⟩
  · rw [UInt32.lt_iff_toNat_lt, hhalf]
    exact Nat.div_pos hsize (by decide)
  · rw [UInt32.lt_iff_toNat_lt, hrest]
    change 0 < _
    omega

theorem satAdd32_of_toNat {a b c : UInt32} (h : a.toNat + b.toNat = c.toNat) : satAdd32 a b = c := by
  have hbound := c.toNat_lt
  rw [satAdd32, if_pos (by omega)]
  apply UInt32.toNat_inj.mp
  rw [UInt32.toNat_add, h, Nat.mod_eq_of_lt hbound]

theorem max_self32 (a : UInt32) : max a a = a := by
  change (if a ≤ a then a else a) = a
  split <;> rfl

theorem splitInto_of_sizes {target : PaneState} {axis : SplitAxis} {newPaneId : String}
    {newHost : HostSpec} {sizes : SplitSizes} (hcols : 0 < target.cols) (hrows : 0 < target.rows)
    (h : splitChildSizes target.cols target.rows axis = some sizes) :
    SplitInto target axis newPaneId newHost (splitContainer target axis newPaneId sizes)
      (splitExisting target sizes)
      (newPaneFromTemplate newPaneId newHost sizes.secondCols sizes.secondRows) := by
  have hversion : (splitExisting target sizes).surfaceVersion.toNat =
      min (target.surfaceVersion.toNat + 1) (2 ^ 64 - 1) := by
    have hbound := target.surfaceVersion.toNat_lt
    change (satAdd64 target.surfaceVersion 1).toNat = _
    rw [satAdd64_one_toNat]
    split <;> omega
  unfold splitChildSizes at h
  split at h
  case isTrue haxis =>
    obtain ⟨rfl, hsize⟩ := haxis
    obtain rfl := Option.some.inj h
    obtain ⟨hfirst, hsecond, hsum⟩ := halves hsize
    exact {
      cols := max_self32 _
      rows := satAdd32_of_toNat hsum
      along := rfl
      positive := ⟨hcols, hfirst, hcols, hsecond⟩
      horizontal := fun _ => ⟨(max_self32 _).symm, (max_self32 _).symm,
        hsum.trans (congrArg UInt32.toNat (satAdd32_of_toNat hsum)).symm⟩
      vertical := fun haxis => by cases haxis
      existing := rfl
      version := hversion
      new := rfl }
  case isFalse =>
    split at h
    case isFalse => cases h
    case isTrue haxis =>
      obtain ⟨rfl, hsize⟩ := haxis
      obtain rfl := Option.some.inj h
      obtain ⟨hfirst, hsecond, hsum⟩ := halves hsize
      exact {
        cols := satAdd32_of_toNat hsum
        rows := max_self32 _
        along := rfl
        positive := ⟨hfirst, hrows, hsecond, hrows⟩
        horizontal := fun haxis => by cases haxis
        vertical := fun _ => ⟨(max_self32 _).symm, (max_self32 _).symm,
          hsum.trans (congrArg UInt32.toNat (satAdd32_of_toNat hsum)).symm⟩
        existing := rfl
        version := hversion
        new := rfl }

theorem splitChildSizes_isSome {cols rows : UInt32} {axis : SplitAxis} :
    (splitChildSizes cols rows axis).isSome = true ↔
      axis = .horizontal ∧ 2 ≤ rows ∨ axis = .vertical ∧ 2 ≤ cols := by
  unfold splitChildSizes
  split
  case isTrue h => simp [h]
  case isFalse h =>
    split
    case isTrue hcols => simp [hcols]
    case isFalse hcols => simp [h, hcols]

/-! ### The session -/

namespace Session

variable {session : Session}

/-- A leaf of the active tab with room along the axis, and a name for the new pane that no node has. -/
structure Splittable (session : Session) (paneId : String) (axis : SplitAxis) (newPaneId : String)
    (tab : Tab) (target : PaneState) : Prop where
  active : session.activeTab = some tab
  leaf : ⟨target, true⟩ ∈ tab.root.nodes
  named : target.id = paneId
  room : axis = .horizontal ∧ 2 ≤ target.rows ∨ axis = .vertical ∧ 2 ≤ target.cols
  newId : newPaneId ≠ ""
  fresh : ∀ node ∈ session.nodes, node.state.id ≠ newPaneId

/-- The active tab in its place, before and after a write to it. -/
theorem writeTab_append {tab : Tab} (h : session.activeTab = some tab) (write : Tab → Tab) :
    ∃ before after, session.tabs = before ++ tab :: after ∧
      session.writeTab write = before ++ write tab :: after := by
  obtain ⟨hactive, before, after, htabs, hbefore⟩ := List.find?_eq_some_iff_append.mp h
  refine ⟨before, after, htabs, ?_⟩
  have hnone : before.any (·.id == session.activeTabId) = false := by
    rw [List.any_eq_false]
    intro other hother
    simpa using hbefore other hother
  rw [writeTab, htabs, replaceFirst_append, hnone]
  simp [replaceFirst, hactive]

theorem pane_eq_none {paneId : String} :
    session.pane paneId = none ↔ ∀ node ∈ session.nodes, node.state.id ≠ paneId := by
  rw [← Option.not_isSome_iff_eq_none, pane_isSome]
  simp [PaneNode.named]

theorem splitPane_of_splittable {paneId newPaneId : String} {axis : SplitAxis} {tab : Tab}
    {target : PaneState} (hdistinct : (session.nodes.map (·.state.id)).Nodup)
    (h : session.Splittable paneId axis newPaneId tab target) (newHost : HostSpec) :
    (session.splitPane paneId axis newPaneId newHost).2 = true := by
  have haxis : ¬ (axis ≠ .horizontal ∧ axis ≠ .vertical) := by
    rcases h.room with ⟨rfl, -⟩ | ⟨rfl, -⟩ <;> simp
  have hnew : ¬ (newPaneId.isEmpty || (session.pane newPaneId).isSome) = true := by
    rw [pane_eq_none.mpr h.fresh]
    simpa using h.newId
  have htab : (tab.root.nodes.map (·.state.id)).Nodup := by
    obtain ⟨before, after, htabs, -⟩ := writeTab_append h.active fun tab => tab
    rw [nodes, htabs, List.flatMap_append, List.flatMap_cons, List.map_append, List.map_append] at hdistinct
    exact hdistinct.of_append_right.of_append_left
  have hsplit : (splitPaneNode paneId axis newPaneId newHost tab.root).isSome := by
    rw [← h.named]
    exact splitPaneNode_isSome (splitChildSizes_isSome.mpr h.room) tab.root htab h.leaf
  obtain ⟨root, hroot⟩ := Option.isSome_iff_exists.mp hsplit
  rw [splitPane, if_neg haxis, if_neg hnew, h.active]
  simp [hroot]

/-- A split that is refused changes nothing; one that is made replaces a leaf of the active tab. -/
theorem splitPane_result (session : Session) (paneId : String) (axis : SplitAxis) (newPaneId : String)
    (newHost : HostSpec) :
    session.splitPane paneId axis newPaneId newHost = (session, false) ∨
      ∃ tab target sizes root before after, session.Splittable paneId axis newPaneId tab target ∧
        splitChildSizes target.cols target.rows axis = some sizes ∧
        Pane.Replaced (.node target []) (splitLeaf target axis newPaneId newHost sizes) tab.root root ∧
        session.tabs = before ++ tab :: after ∧
        session.splitPane paneId axis newPaneId newHost = ({ session with
          version := satAdd64 session.version 1
          tabs := before ++ { tab with root, activePaneId := newPaneId } :: after }, true) := by
  by_cases haxis : axis ≠ .horizontal ∧ axis ≠ .vertical
  · exact .inl (by rw [splitPane, if_pos haxis])
  by_cases hnew : (newPaneId.isEmpty || (session.pane newPaneId).isSome) = true
  · exact .inl (by rw [splitPane, if_neg haxis, if_pos hnew])
  cases hactive : session.activeTab with
  | none => exact .inl (by rw [splitPane, if_neg haxis, if_neg hnew, hactive])
  | some tab =>
    cases hsplit : splitPaneNode paneId axis newPaneId newHost tab.root with
    | none =>
      refine .inl ?_
      rw [splitPane, if_neg haxis, if_neg hnew, hactive]
      simp [hsplit]
    | some root =>
      obtain ⟨target, sizes, hnamed, hleaf, hsizes, hreplaced⟩ := splitPaneNode_replaced tab.root root hsplit
      obtain ⟨before, after, htabs, hwritten⟩ :=
        writeTab_append hactive fun tab => { tab with root, activePaneId := newPaneId }
      simp only [Bool.or_eq_true, not_or, Bool.not_eq_true, Option.isSome_eq_false_iff,
        Option.isNone_iff_eq_none] at hnew
      refine .inr ⟨tab, target, sizes, root, before, after, {
        active := hactive
        leaf := hleaf
        named := hnamed
        room := splitChildSizes_isSome.mp (hsizes ▸ rfl)
        newId := fun hempty => by simp [hempty] at hnew
        fresh := pane_eq_none.mp hnew.2 }, hsizes, hreplaced, htabs, ?_⟩
      rw [splitPane, if_neg haxis, if_neg (by simp [hnew]), hactive]
      simp [hsplit, bumpVersion, hwritten]

/-- **A pane is split exactly if it can be, and nothing else is touched.** -/
theorem splitPane_exact (session : Session) (hdistinct : (session.nodes.map (·.state.id)).Nodup)
    (hpositive : ∀ node ∈ session.nodes, 0 < node.state.cols ∧ 0 < node.state.rows)
    (paneId : String) (axis : SplitAxis) (newPaneId : String) (newHost : HostSpec) :
    ((session.splitPane paneId axis newPaneId newHost).2 = true ↔
      ∃ tab target, session.Splittable paneId axis newPaneId tab target) ∧
    ((session.splitPane paneId axis newPaneId newHost).2 = true →
      ∃ tab target container first second root before after,
        session.Splittable paneId axis newPaneId tab target ∧
        SplitInto target axis newPaneId newHost container first second ∧
        Pane.Replaced (.node target []) (.node container [.node first [], .node second []]) tab.root root ∧
        session.tabs = before ++ tab :: after ∧
        (session.splitPane paneId axis newPaneId newHost).1 = { session with
          version := satAdd64 session.version 1
          tabs := before ++ { tab with root, activePaneId := newPaneId } :: after }) ∧
    ((session.splitPane paneId axis newPaneId newHost).2 = false →
      (session.splitPane paneId axis newPaneId newHost).1 = session) := by
  refine ⟨⟨fun hsplit => ?_, fun ⟨_, _, h⟩ => splitPane_of_splittable hdistinct h newHost⟩,
    fun hsplit => ?_, fun hrefused => ?_⟩
  all_goals rcases splitPane_result session paneId axis newPaneId newHost with
    hnone | ⟨tab, target, sizes, root, before, after, hsplittable, hsizes, hreplaced, htabs, hresult⟩
  · rw [hnone] at hsplit
    cases hsplit
  · exact ⟨tab, target, hsplittable⟩
  · rw [hnone] at hsplit
    cases hsplit
  · have hmem : ⟨target, true⟩ ∈ session.nodes :=
      List.mem_flatMap.mpr ⟨tab, activeTab_mem hsplittable.active, hsplittable.leaf⟩
    obtain ⟨hcols, hrows⟩ := hpositive _ hmem
    exact ⟨tab, target, _, _, _, root, before, after, hsplittable, splitInto_of_sizes hcols hrows hsizes,
      hreplaced, htabs, by rw [hresult]⟩
  · rw [hnone]
  · rw [hresult] at hrefused
    cases hrefused

/-- The first pane of a new session can be split. -/
theorem splitPane_exact_initial : ∃ tab target, initial.Splittable "pane-1" .vertical "pane-2" tab target :=
  (splitPane_exact initial (by decide) (by decide) "pane-1" .vertical "pane-2" (.local "pane-2" (.new "sh"))
    ).1.mp (by decide)

/-- The initial session with the counter of its pane at its end. -/
def worn : Session :=
  initial.writePane (fun pane => { pane with surfaceVersion := 0xffffffffffffffff }) "pane-1"

/-- Its pane is split, and the first child has the version the pane had. -/
theorem worn_split_keeps_version :
    worn.WellFormed ∧ (worn.nodes.map (·.state.id)).Nodup ∧
      (∀ node ∈ worn.nodes, 0 < node.state.cols ∧ 0 < node.state.rows) ∧
      (worn.splitPane "pane-1" .vertical "pane-2" (.local "pane-2" (.new "sh"))).2 = true ∧
      worn.surfaceVersion "pane-1" = some 0xffffffffffffffff ∧
      (worn.splitPane "pane-1" .vertical "pane-2" (.local "pane-2" (.new "sh"))).1.surfaceVersion "pane-1" =
        some 0xffffffffffffffff := by
  refine ⟨?_, by decide, by decide +kernel, by decide +kernel, by decide +kernel, by decide +kernel⟩
  rw [worn]
  apply initial_wellFormed.write
  · exact fun _ => rfl
  · exact fun _ => rfl

end Session

end Nmux
