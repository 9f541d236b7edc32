import Nmux.Tui.Frame

/-! Drawing and resizing agree. A frame is its background, menu and window tree followed by the
regions of the panes, and a resize reports a rectangle out of the same list of panes. Their chrome
tiles the pane area, so a click on the content of a pane hits that pane. -/
namespace Nmux.Tui

open Client (WorkspacePaneSummary WorkspaceSummary)
open Lib (Tiles)
open Lib.Word16

variable {rects : RectLibrary} {workspace : WorkspaceSummary} {cols rows : UInt16}

/-- The cells of the frame below the menu and beside the window tree with its rule. -/
def paneRegion (workspace : WorkspaceSummary) (cols rows : UInt16) : Set (ℕ × ℕ) :=
  {cell | menuHeight.toNat ≤ cell.2 ∧ cell.2 < rows.toNat ∧ cell.1 < cols.toNat ∧
    (treeWidthFor cols workspace.paneTree = 0 ∨
      (treeWidthFor cols workspace.paneTree).toNat < cell.1)}

/-- The chrome of the drawn panes, in order. -/
def paneChromes (hits : List HitRegion) : List (String × Rect) :=
  hits.filterMap fun hit =>
    match hit.target with
    | .pane paneId => some (paneId, hit.rect)
    | _ => none

/-- The ids of the panes a workspace shows. -/
def workspaceLeaves (workspace : WorkspaceSummary) : List String :=
  match workspace.paneTree with
  | some root => leafIds root
  | none => [workspace.paneId]

/-! ### The frame -/

/-- A region of the frame that is no pane's. -/
structure FrameHit (workspace : WorkspaceSummary) (cols rows : UInt16) (hit : HitRegion) : Prop where
  target : hit.target = .background ∨ (∃ action, hit.target = .menu action) ∨
    ∃ paneId, hit.target = .windowTreePane paneId
  within : hit.rect.Within ⟨0, 0, cols, rows⟩
  beside : hit.target ≠ .background → Disjoint hit.rect.cells (paneRegion workspace cols rows)

theorem FrameHit.background : FrameHit workspace cols rows ⟨⟨0, 0, cols, rows⟩, .background⟩ where
  target := .inl rfl
  within := .refl _
  beside h := absurd rfl h

theorem FrameHit.menu {hit : HitRegion} (htarget : ∃ action, hit.target = .menu action)
    (h : hit.rect.Within ⟨0, 0, cols, min menuHeight rows⟩) : FrameHit workspace cols rows hit where
  target := .inr (.inl htarget)
  within := h.trans ⟨Nat.le_refl _, Nat.le_refl _, Nat.le_refl _, by
    dsimp only
    rw [toNat_min]
    omega⟩
  beside _ := by
    obtain ⟨-, -, -, hbottom⟩ := h
    dsimp only at hbottom
    rw [toNat_min, show (0 : UInt16).toNat = 0 from rfl] at hbottom
    refine Set.disjoint_left.mpr fun cell hcell hregion => ?_
    have hrow := hregion.1
    rw [Rect.mem_cells] at hcell
    omega

theorem FrameHit.tree {hit : HitRegion} (htarget : ∃ paneId, hit.target = .windowTreePane paneId)
    (hrows : 1 < rows.toNat) (htree : treeWidthFor cols workspace.paneTree ≠ 0)
    (h : hit.rect.Within ⟨0, 1, treeWidthFor cols workspace.paneTree, rows - 1⟩) :
    FrameHit workspace cols rows hit := by
  have hone : (1 : UInt16).toNat = 1 := rfl
  have hzero : (0 : UInt16).toNat = 0 := rfl
  have hheight : (rows - 1).toNat = rows.toNat - 1 :=
    UInt16.toNat_sub_of_le _ _ (UInt16.le_iff_toNat_le.mpr (by omega))
  obtain ⟨hnarrow, hwide⟩ := treeWidthFor_le htree
  obtain ⟨hleft, hright, htop, hbottom⟩ := h
  dsimp only at hleft hright htop hbottom
  refine ⟨.inr (.inr htarget), ⟨hleft, by dsimp only; omega, by dsimp only; omega, by dsimp only; omega⟩,
    fun _ => Set.disjoint_left.mpr fun cell hcell hregion => ?_⟩
  obtain ⟨-, -, -, hcolumn⟩ := hregion
  rw [Rect.mem_cells] at hcell
  rcases hcolumn with hnone | hcolumn
  · exact htree hnone
  · omega

theorem frameSize_fits (cols rows : UInt16) : (⟨0, 0, cols, rows⟩ : Rect).Fits := by
  have hzero : (0 : UInt16).toNat = 0 := rfl
  have hcols := cols.toNat_lt
  have hrows := rows.toNat_lt
  exact ⟨by dsimp only; omega, by dsimp only; omega⟩

theorem rows_of_not_le (h : ¬ rows ≤ menuHeight) : 1 < rows.toNat :=
  UInt16.lt_iff_toNat_lt.mp (UInt16.not_le.mp h)

theorem renderPanes_eq (hcols : cols ≠ 0) (hrows : ¬ rows ≤ menuHeight) :
    renderPanes rects (paneFrame workspace cols rows) workspace =
      .ok ((paneLeaves workspace cols rows).flatMap leafHits) := by
  have hfits := paneFrame_fits workspace cols (rows_of_not_le hrows)
  unfold renderPanes paneLeaves
  rw [if_neg (not_or.mpr ⟨hcols, hrows⟩)]
  cases workspace.paneTree with
  | some root => exact renderPaneNode_eq root hfits
  | none => rw [renderLeafPane_eq hfits, List.flatMap_singleton]

theorem renderTreeColumn_ok (workspace : WorkspaceSummary) (cols : UInt16) (hrows : 1 < rows.toNat) :
    ∃ hits, renderTreeColumn rects
        (if treeWidthFor cols workspace.paneTree = 0 then rects.rectNew 0 1 0 (rows - 1)
          else rects.rectNew 0 1 (treeWidthFor cols workspace.paneTree) (rows - 1)) workspace = .ok hits ∧
      ∀ hit ∈ hits, FrameHit workspace cols rows hit := by
  have hzero : (0 : UInt16).toNat = 0 := rfl
  have hone : (1 : UInt16).toNat = 1 := rfl
  have hlt := rows.toNat_lt
  have hheight : (rows - 1).toNat = rows.toNat - 1 :=
    UInt16.toNat_sub_of_le _ _ (UInt16.le_iff_toNat_le.mpr (by omega))
  by_cases htree : treeWidthFor cols workspace.paneTree = 0
  · rw [if_pos htree, rects.rectNew_of_fits ⟨0, 1, 0, rows - 1⟩
      ⟨by dsimp only; omega, by dsimp only; omega⟩]
    exact ⟨[], rfl, fun hit hhit => absurd hhit (by simp)⟩
  · obtain ⟨hnarrow, hwide⟩ := treeWidthFor_le htree
    have hfits : (⟨0, 1, treeWidthFor cols workspace.paneTree, rows - 1⟩ : Rect).Fits :=
      ⟨by dsimp only; omega, by dsimp only; omega⟩
    have hpos : treeWidthFor cols workspace.paneTree > 0 :=
      UInt16.lt_iff_toNat_lt.mpr (Nat.pos_of_ne_zero fun h => htree (UInt16.toNat_inj.mp h))
    obtain ⟨hits, hhits, hall⟩ := renderWindowTree_ok hfits workspace
    refine ⟨hits, ?_, fun hit hhit => .tree (hall hit hhit).1 hrows htree (hall hit hhit).2⟩
    rw [if_neg htree, rects.rectNew_of_fits _ hfits, renderTreeColumn, if_pos hpos, hhits,
      Lib.Check.ok_bind, checkedAdd_of_fits hfits.right]
    rfl

/-- **The frame of a workspace**: what frames the panes, then their regions, without an overflow. -/
theorem renderWorkspaceFrame_eq (rects : RectLibrary) (workspace : WorkspaceSummary) (cols rows : UInt16) :
    ∃ frame, renderWorkspaceFrame rects workspace none cols rows =
        .ok (frame ++ (paneLeaves workspace cols rows).flatMap leafHits) ∧
      ∀ hit ∈ frame, FrameHit workspace cols rows hit := by
  have hsize := frameSize_fits cols rows
  unfold renderWorkspaceFrame renderWorkspaceToBuffer
  rw [rects.rectNew_of_fits ⟨0, 0, cols, rows⟩ hsize]
  dsimp only
  by_cases hempty : cols = 0 ∨ rows = 0
  · have hnone : cols = 0 ∨ rows ≤ menuHeight :=
      hempty.imp_right fun h => by rw [h]; decide
    refine ⟨[⟨⟨0, 0, cols, rows⟩, .background⟩], ?_, fun hit hhit => ?_⟩
    · rw [if_pos hempty, paneLeaves, if_pos hnone]
      rfl
    · rw [List.mem_singleton.mp hhit]
      exact .background
  · have hmenu : (⟨0, 0, cols, min menuHeight rows⟩ : Rect).Within ⟨0, 0, cols, rows⟩ :=
      ⟨Nat.le_refl _, Nat.le_refl _, Nat.le_refl _, by
        dsimp only
        rw [toNat_min]
        omega⟩
    obtain ⟨menuHits, hmenuHits, hall⟩ := renderMenu_ok (hmenu.fits hsize)
    have hmenuFrame : ∀ hit ∈ menuHits, FrameHit workspace cols rows hit := fun hit hhit =>
      .menu (hall hit hhit).1 (hall hit hhit).2
    rw [if_neg hempty, rects.rectNew_of_fits _ (hmenu.fits hsize), hmenuHits, Lib.Check.ok_bind]
    by_cases hrows : rows ≤ menuHeight
    · refine ⟨⟨⟨0, 0, cols, rows⟩, .background⟩ :: menuHits, ?_, fun hit hhit => ?_⟩
      · rw [if_pos hrows, paneLeaves, if_pos (.inr hrows)]
        simp only [List.flatMap_nil, List.append_nil]
        rfl
      · rcases List.mem_cons.mp hhit with rfl | hhit
        · exact .background
        · exact hmenuFrame hit hhit
    · have hlarge := rows_of_not_le hrows
      obtain ⟨htop, hheight, hbody⟩ := body_eq cols hlarge
      rw [if_neg hrows, htop, hheight, Lib.Check.ok_bind, Lib.Check.ok_bind, hbody]
      obtain ⟨treeHits, htreeHits, hallTree⟩ := renderTreeColumn_ok workspace cols hlarge
      refine ⟨⟨⟨0, 0, cols, rows⟩, .background⟩ :: menuHits ++ treeHits, ?_, fun hit hhit => ?_⟩
      · dsimp only
        rw [htreeHits, Lib.Check.ok_bind, paneArea_eq hlarge,
          renderPanes_eq (fun h => hempty (.inl h)) hrows, Lib.Check.ok_bind]
        simp only [pure_bind, List.append_assoc, List.append_nil]
        rfl
      · rcases List.mem_append.mp hhit with hhit | hhit
        · rcases List.mem_cons.mp hhit with rfl | hhit
          · exact .background
          · exact hmenuFrame hit hhit
        · exact hallTree hit hhit

/-- **A resize looks the pane up among the panes of the frame.** -/
theorem paneContentRect_eq (workspace : WorkspaceSummary) (cols rows : UInt16) (paneId : String) :
    paneContentRect rects workspace cols rows paneId =
      .ok (contentOf paneId (paneLeaves workspace cols rows)) := by
  unfold paneContentRect paneLeaves
  rw [rects.rectNew_of_fits ⟨0, 0, cols, rows⟩ (frameSize_fits cols rows)]
  dsimp only
  by_cases hnone : cols = 0 ∨ rows ≤ menuHeight
  · rw [if_pos hnone, if_pos hnone]
    rfl
  · have hlarge := rows_of_not_le (not_or.mp hnone).2
    have hfits := paneFrame_fits workspace cols hlarge
    obtain ⟨htop, hheight, hbody⟩ := body_eq cols hlarge
    rw [if_neg hnone, if_neg hnone, htop, hheight, Lib.Check.ok_bind, Lib.Check.ok_bind, hbody]
    dsimp only
    rw [paneArea_eq hlarge]
    cases workspace.paneTree with
    | some root => exact paneContentRectForNode_eq paneId root hfits
    | none =>
      dsimp only
      rw [contentOf, List.findSome?_singleton]
      by_cases hid : workspace.paneId = paneId
      · rw [if_pos hid, if_pos hid, inset_eq hfits]
      · rw [if_neg hid, if_neg hid]
        rfl

/-! ### The panes -/

theorem paneFrame_cells (hrows : 1 < rows.toNat) :
    (paneFrame workspace cols rows).cells = paneRegion workspace cols rows := by
  obtain ⟨hy, hheight, hright, hx⟩ := paneFrame_toNat workspace cols hrows
  have hmenu : menuHeight.toNat = 1 := rfl
  ext cell
  rw [Rect.mem_cells, hy, hheight, hright, hx]
  show _ ↔ menuHeight.toNat ≤ cell.2 ∧ _
  rw [hmenu]
  by_cases htree : treeWidthFor cols workspace.paneTree = 0
  · rw [if_pos htree]
    simp only [htree, true_or, and_true]
    omega
  · rw [if_neg htree]
    simp only [htree, false_or]
    omega

theorem paneRegion_empty (h : cols = 0 ∨ rows ≤ menuHeight) : paneRegion workspace cols rows = ∅ := by
  refine Set.eq_empty_iff_forall_notMem.mpr fun cell hcell => ?_
  obtain ⟨htop, hbottom, hright, -⟩ := hcell
  rcases h with rfl | h
  · exact absurd hright (Nat.not_lt_zero _)
  · have hle := UInt16.le_iff_toNat_le.mp h
    omega

/-- A workspace whose tree splits along its axes and names no leaf twice. -/
structure ShowsTree (workspace : WorkspaceSummary) : Prop where
  splits : ∀ root, workspace.paneTree = some root → Splits root
  distinct : (workspaceLeaves workspace).Nodup

theorem paneLeaves_tiles (h : ShowsTree workspace) (cols rows : UInt16) :
    Tiles ((paneLeaves workspace cols rows).map (·.2.cells)) (paneRegion workspace cols rows) := by
  unfold paneLeaves
  by_cases hnone : cols = 0 ∨ rows ≤ menuHeight
  · rw [if_pos hnone, paneRegion_empty hnone]
    exact .nil
  · have hlarge := rows_of_not_le (not_or.mp hnone).2
    rw [if_neg hnone, ← paneFrame_cells hlarge]
    cases htree : workspace.paneTree with
    | some root => exact leafAreas_tiles (paneFrame_fits workspace cols hlarge) (h.splits root htree)
    | none => exact .single _

theorem paneLeaves_within {leaf : String × Rect} (h : leaf ∈ paneLeaves workspace cols rows) :
    leaf.2.Within ⟨0, 0, cols, rows⟩ := by
  unfold paneLeaves at h
  by_cases hnone : cols = 0 ∨ rows ≤ menuHeight
  · rw [if_pos hnone] at h
    cases h
  · have hlarge := rows_of_not_le (not_or.mp hnone).2
    obtain ⟨hy, hheight, hright, -⟩ := paneFrame_toNat workspace cols hlarge
    have hframe : (paneFrame workspace cols rows).Within ⟨0, 0, cols, rows⟩ :=
      have hzero : (0 : UInt16).toNat = 0 := rfl
      ⟨Nat.zero_le _, by dsimp only; omega, Nat.zero_le _, by dsimp only; omega⟩
    rw [if_neg hnone] at h
    cases htree : workspace.paneTree with
    | some root =>
      rw [htree] at h
      exact (leafAreas_within root (paneFrame_fits workspace cols hlarge) leaf h).trans hframe
    | none =>
      rw [htree] at h
      rw [List.mem_singleton.mp h]
      exact hframe

theorem paneLeaves_sublist (workspace : WorkspaceSummary) (cols rows : UInt16) :
    ((paneLeaves workspace cols rows).map (·.1)).Sublist (workspaceLeaves workspace) := by
  unfold paneLeaves workspaceLeaves
  split
  · exact List.nil_sublist _
  · cases workspace.paneTree with
    | some root => exact leafAreas_sublist _ root
    | none => exact .refl _

/-! ### Reading the regions -/

theorem mem_leafHits {leaf : String × Rect} {hit : HitRegion} : hit ∈ leafHits leaf ↔
    hit = ⟨leaf.2, .pane leaf.1⟩ ∨
      ∃ inner, contentArea leaf.2 = some inner ∧ hit = ⟨inner, .paneContent leaf.1⟩ := by
  rw [leafHits, List.mem_cons, List.mem_map]
  simp only [Option.mem_toList, eq_comm]

theorem paneChromes_eq {frame : List HitRegion} (hframe : ∀ hit ∈ frame, FrameHit workspace cols rows hit)
    (leaves : List (String × Rect)) : paneChromes (frame ++ leaves.flatMap leafHits) = leaves := by
  have hnone : paneChromes frame = [] := by
    refine List.filterMap_eq_nil_iff.mpr fun hit hhit => ?_
    rcases (hframe hit hhit).target with h | ⟨_, h⟩ | ⟨_, h⟩ <;> rw [h]
  unfold paneChromes at hnone ⊢
  rw [List.filterMap_append, hnone, List.nil_append]
  induction leaves with
  | nil => rfl
  | cons leaf rest ih =>
    rw [List.flatMap_cons, List.filterMap_append, ih]
    cases hcontent : contentArea leaf.2 <;> simp [leafHits, hcontent]

/-- A region with content belongs to a pane that has room for it. -/
theorem mem_content {frame : List HitRegion} (hframe : ∀ hit ∈ frame, FrameHit workspace cols rows hit)
    {leaves : List (String × Rect)} {paneId : String} {rect : Rect} :
    ⟨rect, .paneContent paneId⟩ ∈ frame ++ leaves.flatMap leafHits ↔
      (paneId, rect) ∈ leaves.filterMap fun leaf => (contentArea leaf.2).map (leaf.1, ·) := by
  have hnone : ⟨rect, .paneContent paneId⟩ ∉ frame := fun h => by
    rcases (hframe _ h).target with h | ⟨_, h⟩ | ⟨_, h⟩ <;> cases h
  rw [List.mem_append, List.mem_flatMap, List.mem_filterMap, or_iff_right hnone]
  refine exists_congr fun leaf => and_congr_right fun _ => ?_
  rw [mem_leafHits, Option.map_eq_some_iff]
  simp only [HitRegion.mk.injEq, HitTarget.paneContent.injEq, reduceCtorEq, and_false, false_or,
    Prod.mk.injEq]
  constructor
  · rintro ⟨inner, hinner, rfl, rfl⟩
    exact ⟨_, hinner, rfl, rfl⟩
  · rintro ⟨inner, hinner, rfl, rfl⟩
    exact ⟨_, hinner, rfl, rfl⟩

/-- Where the ids are distinct, the first pane with the id is the only one. -/
theorem contentOf_eq_some {leaves : List (String × Rect)} (hdistinct : (leaves.map (·.1)).Nodup)
    {paneId : String} {rect : Rect} : contentOf paneId leaves = some rect ↔
      (paneId, rect) ∈ leaves.filterMap fun leaf => (contentArea leaf.2).map (leaf.1, ·) := by
  induction leaves with
  | nil => simp [contentOf]
  | cons leaf rest ih =>
    rw [List.map_cons, List.nodup_cons] at hdistinct
    have hrest := ih hdistinct.2
    rw [contentOf] at hrest ⊢
    rw [List.findSome?_cons]
    by_cases hid : leaf.1 = paneId
    · have hnone : (paneId, rect) ∉ rest.filterMap fun leaf => (contentArea leaf.2).map (leaf.1, ·) := by
        intro h
        obtain ⟨other, hother, hcontent⟩ := List.mem_filterMap.mp h
        obtain ⟨inner, -, heq⟩ := Option.map_eq_some_iff.mp hcontent
        refine hdistinct.1 (List.mem_map.mpr ⟨other, hother, ?_⟩)
        rw [hid]
        exact congrArg Prod.fst heq
      rw [if_pos hid, List.filterMap_cons]
      cases hcontent : contentArea leaf.2 with
      | some inner =>
        rw [Option.map_some, List.mem_cons, or_iff_left hnone, hid]
        simp only [Option.some.injEq, Prod.mk.injEq, true_and, eq_comm]
      | none => exact hrest
    · rw [if_neg hid, List.filterMap_cons]
      cases hcontent : contentArea leaf.2 with
      | some inner => simp [← hrest, Ne.symm hid]
      | none => simp [← hrest]

/-! ### Hits -/

theorem rectContains_iff {rect : Rect} (hfits : rect.Fits) (x y : UInt16) :
    rectContains rect x y = true ↔ (x.toNat, y.toNat) ∈ rect.cells := by
  obtain ⟨hright, hbottom⟩ := hfits
  have hx := toNat_saturatingAdd rect.x rect.width
  have hy := toNat_saturatingAdd rect.y rect.height
  rw [Rect.mem_cells, rectContains]
  simp only [Bool.and_eq_true, decide_eq_true_eq, ge_iff_le, UInt16.le_iff_toNat_le,
    UInt16.lt_iff_toNat_lt]
  omega

/-- The last region that contains the point is the one that is hit. -/
theorem hitTestRegion_last {before after : List HitRegion} {hit : HitRegion} {x y : UInt16}
    (hhit : rectContains hit.rect x y = true)
    (hafter : ∀ other ∈ after, rectContains other.rect x y = false) :
    hitTestRegion (before ++ hit :: after) x y = some hit := by
  have hnone : after.reverse.find? (fun hit => rectContains hit.rect x y) = none :=
    List.find?_eq_none.mpr fun other hother => by
      rw [hafter other (List.mem_reverse.mp hother)]
      decide
  rw [hitTestRegion, List.reverse_append, List.reverse_cons, List.append_assoc, List.find?_append, hnone,
    List.singleton_append, Option.none_or, List.find?_cons, hhit]

/-- A click on the content of a pane hits it: the later panes are elsewhere. -/
theorem hitTestRegion_content {frame : List HitRegion} {leaves : List (String × Rect)}
    (hfits : ∀ leaf ∈ leaves, leaf.2.Fits) (hdisjoint : (leaves.map (·.2.cells)).Pairwise Disjoint)
    {paneId : String} {rect : Rect}
    (hmem : (paneId, rect) ∈ leaves.filterMap fun leaf => (contentArea leaf.2).map (leaf.1, ·))
    {x y : UInt16} (hcell : (x.toNat, y.toNat) ∈ rect.cells) :
    hitTestRegion (frame ++ leaves.flatMap leafHits) x y = some ⟨rect, .paneContent paneId⟩ := by
  obtain ⟨leaf, hleaf, hcontent⟩ := List.mem_filterMap.mp hmem
  obtain ⟨inner, hinner, heq⟩ := Option.map_eq_some_iff.mp hcontent
  obtain ⟨rfl, rfl⟩ := Prod.mk.inj heq
  obtain ⟨first, second, rfl⟩ := List.append_of_mem hleaf
  have hinside := contentArea_inside (hfits leaf (by simp)) hinner
  have hleafHits : leafHits leaf = [⟨leaf.2, .pane leaf.1⟩, ⟨inner, .paneContent leaf.1⟩] := by
    rw [leafHits, hinner]
    rfl
  have hsplit : frame ++ (first ++ leaf :: second).flatMap leafHits =
      (frame ++ first.flatMap leafHits ++ [⟨leaf.2, .pane leaf.1⟩]) ++
        ⟨inner, .paneContent leaf.1⟩ :: second.flatMap leafHits := by
    rw [List.flatMap_append, List.flatMap_cons, hleafHits]
    simp only [List.append_assoc, List.cons_append, List.nil_append]
  rw [hsplit]
  refine hitTestRegion_last ((rectContains_iff (hinside.fits (hfits leaf (by simp))) x y).mpr hcell)
    fun hit hhit => ?_
  obtain ⟨other, hother, hhit⟩ := List.mem_flatMap.mp hhit
  have hotherFits := hfits other (by simp [hother])
  have hapart : Disjoint leaf.2.cells other.2.cells := by
    rw [List.map_append, List.map_cons, List.pairwise_append, List.pairwise_cons] at hdisjoint
    exact hdisjoint.2.1.1 _ (List.mem_map_of_mem hother)
  have houtside : (x.toNat, y.toNat) ∉ other.2.cells :=
    Set.disjoint_left.mp hapart (hinside.cells_subset hcell)
  rw [Bool.eq_false_iff]
  rcases mem_leafHits.mp hhit with rfl | ⟨content, hother, rfl⟩
  · exact fun h => houtside ((rectContains_iff hotherFits x y).mp h)
  · have hcontentInside := contentArea_inside hotherFits hother
    exact fun h => houtside (hcontentInside.cells_subset
      ((rectContains_iff (hcontentInside.fits hotherFits) x y).mp h))

/-! ### The size of the terminal -/

/-- `max(1).min(u16::MAX)` of a 16-bit size. -/
theorem clamp_toUInt32 (size : UInt16) : (min (max size.toUInt32 1) 65535).toUInt16 = max size 1 := by
  have hlt := size.toNat_lt
  have hsize : size.toUInt32.toNat = size.toNat := UInt16.toNat_toUInt32 size
  have hone : (1 : UInt32).toNat = 1 := rfl
  have hone' : (1 : UInt16).toNat = 1 := rfl
  have hlast : (65535 : UInt32).toNat = 65535 := rfl
  have hmax : (max size.toUInt32 1).toNat = max size.toNat 1 := by
    show (if size.toUInt32 ≤ 1 then 1 else size.toUInt32).toNat = _
    by_cases hle : size.toUInt32 ≤ 1
    · have := UInt32.le_iff_toNat_le.mp hle
      rw [if_pos hle]
      omega
    · have := UInt32.lt_iff_toNat_lt.mp (UInt32.not_le.mp hle)
      rw [if_neg hle]
      omega
  have hmin : min (max size.toUInt32 1) 65535 = max size.toUInt32 1 :=
    if_pos (UInt32.le_iff_toNat_le.mpr (by omega))
  apply UInt16.toNat_inj.mp
  rw [hmin, UInt32.toNat_toUInt16, hmax, toNat_max]
  omega

theorem max_one {size : UInt16} (h : size ≠ 0) : max size 1 = size := by
  have hne : size.toNat ≠ 0 := fun hzero => h (UInt16.toNat_inj.mp hzero)
  apply UInt16.toNat_inj.mp
  rw [toNat_max, show (1 : UInt16).toNat = 1 from rfl]
  omega

theorem toUInt32_saturatingSub (size : UInt16) :
    (if size.toUInt32 = 0 then 0 else size.toUInt32 - 1) = (saturatingSub size 1).toUInt32 := by
  have hsize : size.toUInt32.toNat = size.toNat := UInt16.toNat_toUInt32 size
  have hone : (1 : UInt16).toNat = 1 := rfl
  have hone' : (1 : UInt32).toNat = 1 := rfl
  apply UInt32.toNat_inj.mp
  rw [UInt16.toNat_toUInt32, toNat_saturatingSub]
  by_cases hzero : size.toUInt32 = 0
  · have : size.toUInt32.toNat = 0 := by
      rw [hzero]
      rfl
    rw [if_pos hzero, show (0 : UInt32).toNat = 0 from rfl]
    omega
  · have : size.toUInt32.toNat ≠ 0 := fun h => hzero (UInt32.toNat_inj.mp h)
    rw [if_neg hzero, UInt32.toNat_sub_of_le _ _ (UInt32.le_iff_toNat_le.mpr (by omega))]
    omega

/-- A terminal with a size is drawn in a frame of its width and all its rows but the last. -/
theorem redrawWorkspace_eq {size : UInt32 × UInt32} (h : terminalSize cols rows = some size) :
    redrawWorkspace rects workspace none size.1 size.2 =
      renderWorkspaceFrame rects workspace none cols (max (saturatingSub rows 1) 1) := by
  unfold terminalSize at h
  split at h
  case isTrue => cases h
  case isFalse hsome =>
    cases h
    obtain ⟨hcols, hrows⟩ := not_or.mp hsome
    unfold redrawWorkspace redrawTerminalArea renderWorkspaceFrame
    dsimp only
    rw [clamp_toUInt32, clamp_toUInt32, max_one hcols, max_one hrows,
      rects.rectNew_of_fits ⟨0, 0, cols, rows⟩ (frameSize_fits cols rows)]
    dsimp only
    rw [if_neg hsome]

/-- The size a resize looks up is the size of that frame. -/
theorem frontendResizePaneSize_eq {size : UInt32 × UInt32} (h : terminalSize cols rows = some size)
    (paneId : String) : frontendResizePaneSize rects workspace paneId size.1 size.2 true =
      .ok (match contentOf paneId (paneLeaves workspace cols (max (saturatingSub rows 1) 1)) with
        | some rect => ((max rect.width 1).toUInt32, (max rect.height 1).toUInt32)
        | none => size) := by
  unfold terminalSize at h
  split at h
  case isTrue => cases h
  case isFalse hsome =>
    cases h
    obtain ⟨hcols, -⟩ := not_or.mp hsome
    unfold frontendResizePaneSize
    dsimp only
    rw [toUInt32_saturatingSub, clamp_toUInt32, clamp_toUInt32, max_one hcols, paneContentRect_eq]
    cases contentOf paneId (paneLeaves workspace cols (max (saturatingSub rows 1) 1)) <;> rfl

/-! ### The agreement -/

/-- What a drawn frame of the given size shows. -/
structure Drawn (workspace : WorkspaceSummary) (cols rows : UInt16) (hits : List HitRegion) : Prop where
  /-- No region leaves the frame. -/
  inside : ∀ hit ∈ hits, hit.rect.Within ⟨0, 0, cols, rows⟩
  /-- The chrome rectangles belong to different leaves of the workspace. -/
  leaves : ((paneChromes hits).map (·.1)).Sublist (workspaceLeaves workspace)
  distinct : ((paneChromes hits).map (·.1)).Nodup
  /-- They do not meet, and make up all of the pane area. -/
  chromes : Tiles ((paneChromes hits).map (·.2.cells)) (paneRegion workspace cols rows)
  /-- The menu and the window tree have no part of it. -/
  beside : ∀ hit ∈ hits, (∃ action, hit.target = .menu action) ∨
    (∃ paneId, hit.target = .windowTreePane paneId) →
    Disjoint hit.rect.cells (paneRegion workspace cols rows)
  /-- A click on the content of a pane hits it. -/
  content : ∀ paneId rect, ⟨rect, .paneContent paneId⟩ ∈ hits →
    ∀ x y : UInt16, (x.toNat, y.toNat) ∈ rect.cells →
      hitTestRegion hits x y = some ⟨rect, .paneContent paneId⟩

/-- **The layout for resizing and the layout for drawing agree**, for every tree and every frame
size: nothing overflows, the rectangle a resize looks up is the content region the frame emits, the
panes tile what the menu and the window tree leave, and the size reported for a terminal is the size
its pane is drawn at. -/
theorem layouts_agree (rects : RectLibrary) (workspace : WorkspaceSummary) (h : ShowsTree workspace) :
    (∀ cols rows, ∃ hits, renderWorkspaceFrame rects workspace none cols rows = .ok hits ∧
      Drawn workspace cols rows hits ∧
      ∀ paneId, ∃ content, paneContentRect rects workspace cols rows paneId = .ok content ∧
        ∀ rect, content = some rect ↔ ⟨rect, .paneContent paneId⟩ ∈ hits) ∧
    ∀ cols rows size, terminalSize cols rows = some size →
      ∃ hits, redrawWorkspace rects workspace none size.1 size.2 = .ok hits ∧
        ∀ paneId rect, ⟨rect, .paneContent paneId⟩ ∈ hits →
          frontendResizePaneSize rects workspace paneId size.1 size.2 true =
            .ok (rect.width.toUInt32, rect.height.toUInt32) := by
  have hdistinct (cols rows : UInt16) : ((paneLeaves workspace cols rows).map (·.1)).Nodup :=
    (paneLeaves_sublist workspace cols rows).nodup h.distinct
  have hfits (cols rows : UInt16) : ∀ leaf ∈ paneLeaves workspace cols rows, leaf.2.Fits :=
    fun leaf hleaf => (paneLeaves_within hleaf).fits (frameSize_fits cols rows)
  refine ⟨fun cols rows => ?_, fun cols rows size hsize => ?_⟩
  · obtain ⟨frame, hhits, hframe⟩ := renderWorkspaceFrame_eq rects workspace cols rows
    have hchromes := paneChromes_eq hframe (paneLeaves workspace cols rows)
    have htiles := paneLeaves_tiles h cols rows
    refine ⟨_, hhits, ⟨fun hit hhit => ?_, ?_, ?_, ?_, fun hit hhit htarget => ?_,
      fun paneId rect hcontent x y hcell => ?_⟩,
      fun paneId => ⟨_, paneContentRect_eq workspace cols rows paneId, fun rect => ?_⟩⟩
    · rcases List.mem_append.mp hhit with hhit | hhit
      · exact (hframe hit hhit).within
      · obtain ⟨leaf, hleaf, hhit⟩ := List.mem_flatMap.mp hhit
        rcases mem_leafHits.mp hhit with rfl | ⟨inner, hinner, rfl⟩
        · exact paneLeaves_within hleaf
        · exact (contentArea_inside (hfits cols rows leaf hleaf) hinner).within.trans
            (paneLeaves_within hleaf)
    · rw [hchromes]
      exact paneLeaves_sublist workspace cols rows
    · rw [hchromes]
      exact hdistinct cols rows
    · rw [hchromes]
      exact htiles
    · rcases List.mem_append.mp hhit with hhit | hhit
      · refine (hframe hit hhit).beside fun hback => ?_
        rcases htarget with ⟨_, h⟩ | ⟨_, h⟩ <;> exact absurd (hback.symm.trans h) (by simp)
      · obtain ⟨leaf, hleaf, hhit⟩ := List.mem_flatMap.mp hhit
        rcases mem_leafHits.mp hhit with rfl | ⟨inner, hinner, rfl⟩ <;>
          rcases htarget with ⟨_, h⟩ | ⟨_, h⟩ <;> cases h
    · exact hitTestRegion_content (hfits cols rows) htiles.disjoint ((mem_content hframe).mp hcontent) hcell
    · rw [contentOf_eq_some (hdistinct cols rows), mem_content hframe]
  · obtain ⟨frame, hhits, hframe⟩ := renderWorkspaceFrame_eq rects workspace cols
      (max (saturatingSub rows 1) 1)
    refine ⟨_, (redrawWorkspace_eq hsize).trans hhits, fun paneId rect hcontent => ?_⟩
    have hfound := (contentOf_eq_some (hdistinct cols _)).mpr ((mem_content hframe).mp hcontent)
    have hpos : rect.width ≠ 0 ∧ rect.height ≠ 0 := by
      obtain ⟨leaf, hleaf, hmap⟩ := List.mem_filterMap.mp ((mem_content hframe).mp hcontent)
      obtain ⟨inner, hinner, heq⟩ := Option.map_eq_some_iff.mp hmap
      have hinside := contentArea_inside (hfits cols _ leaf hleaf) hinner
      obtain ⟨-, rfl⟩ := Prod.mk.inj heq
      exact ⟨fun h => absurd hinside.width_pos (by rw [h]; decide),
        fun h => absurd hinside.height_pos (by rw [h]; decide)⟩
    rw [frontendResizePaneSize_eq hsize, hfound]
    dsimp only
    rw [max_one hpos.1, max_one hpos.2]

/-- A workspace of two panes side by side. -/
def splitWorkspace : WorkspaceSummary :=
  let leaf (paneId : String) : WorkspacePaneSummary := .node ⟨paneId, 40, 24, .fixed, .none⟩ []
  { sessionId := "local", tabId := "tab-1", paneId := "pane-2", cols := 80, rows := 24
    resizePolicy := .fixed
    paneTree := some (.node ⟨"pane-1", 80, 24, .fixed, .vertical⟩ [leaf "pane-1", leaf "pane-2"])
    tabs := [] }

theorem splitWorkspace_showsTree : ShowsTree splitWorkspace where
  splits root h := by
    cases h
    refine .split (.inl rfl) fun child hchild => ?_
    rcases List.mem_cons.mp hchild with rfl | hchild
    · exact .leaf
    · rw [List.mem_singleton.mp hchild]
      exact .leaf
  distinct := by decide

/-- In a terminal of 100 columns and 20 rows the second pane is drawn, and resized to, 35 by 16. -/
theorem layouts_agree_splitWorkspace : ∃ hits,
    redrawWorkspace limitedRects splitWorkspace none 100 20 = .ok hits ∧
      ⟨⟨64, 2, 35, 16⟩, .paneContent "pane-2"⟩ ∈ hits ∧
      frontendResizePaneSize limitedRects splitWorkspace "pane-2" 100 20 true = .ok (35, 16) := by
  obtain ⟨hits, hhits, hsizes⟩ :=
    (layouts_agree limitedRects splitWorkspace splitWorkspace_showsTree).2 100 20 (100, 20) (by decide)
  have hmem : ⟨⟨64, 2, 35, 16⟩, .paneContent "pane-2"⟩ ∈ hits := by
    have hdrawn : (redrawWorkspace limitedRects splitWorkspace none 100 20).toOption.all
        (fun hits => hits.contains ⟨⟨64, 2, 35, 16⟩, .paneContent "pane-2"⟩) = true := by
      decide +kernel
    rw [hhits] at hdrawn
    exact List.contains_iff_mem.mp hdrawn
  exact ⟨hits, hhits, hmem, hsizes "pane-2" _ hmem⟩

end Nmux.Tui
