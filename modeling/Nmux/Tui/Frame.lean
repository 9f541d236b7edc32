import Nmux.Tui.Traversal

/-! The regions of a whole frame: the background, the menu, the window tree and the panes. The menu and
the window tree keep to their own strips, so the panes have the rest of the frame to themselves. -/
namespace Nmux.Tui

open Client (WorkspacePaneSummary WorkspaceSummary)
open Lib.Word16

variable {rects : RectLibrary} {area : Rect}

theorem Inside.within {inner : Rect} (h : Inside inner area) : inner.Within area := by
  obtain ⟨hx, hy, hwidth, hheight, -, -⟩ := h
  exact ⟨by omega, by omega, by omega, by omega⟩

/-! ### The menu -/

/-- The regions are regions of the menu and lie in the rectangle. -/
def MenuHits (area : Rect) (hits : List HitRegion) : Prop :=
  ∀ hit ∈ hits, (∃ action, hit.target = .menu action) ∧ hit.rect.Within area

theorem renderMenuItems_ok (hfits : area.Fits) (items : List (String × MenuAction)) :
    ∀ x : UInt16, area.x.toNat ≤ x.toNat →
      ∃ hits, renderMenuItems rects area items x = .ok hits ∧ MenuHits area hits := by
  obtain ⟨hright, hbottom⟩ := hfits
  have hedge := toNat_add_of_fits hright
  induction items with
  | nil => exact fun x _ => ⟨[], rfl, fun hit hhit => absurd hhit (by simp)⟩
  | cons item rest ih =>
    intro x hx
    obtain ⟨label, action⟩ := item
    rw [renderMenuItems, checkedAdd_of_fits hright, Lib.Check.ok_bind]
    by_cases hend : x ≥ area.x + area.width
    · exact ⟨[], by rw [if_pos hend]; rfl, fun hit hhit => absurd hhit (by simp)⟩
    · have hroom := UInt16.lt_iff_toNat_lt.mp (UInt16.not_le.mp hend)
      have hroomLeft : (area.x + area.width - x).toNat = area.x.toNat + area.width.toNat - x.toNat := by
        rw [UInt16.toNat_sub_of_le _ _ (UInt16.le_iff_toNat_le.mpr (by omega)), hedge]
      have hwidth : (min (UInt16.ofNat label.length) (area.x + area.width - x)).toNat ≤
          area.x.toNat + area.width.toNat - x.toNat := by
        rw [toNat_min, hroomLeft]
        exact Nat.min_le_right _ _
      generalize hitemWidth : min (UInt16.ofNat label.length) (area.x + area.width - x) = itemWidth at hwidth
      obtain ⟨hits, hhits, hall⟩ := ih (saturatingAdd x itemWidth) (by rw [toNat_saturatingAdd]; omega)
      have hitem : Rect.Within ⟨x, area.y, itemWidth, area.height⟩ area :=
        ⟨hx, by dsimp only; omega, Nat.le_refl _, Nat.le_refl _⟩
      refine ⟨⟨⟨x, area.y, itemWidth, area.height⟩, .menu action⟩ :: hits, ?_, fun hit hhit => ?_⟩
      · rw [if_neg hend, Lib.Check.ok_bind, checkedSub_of_le (by omega), Lib.Check.ok_bind]
        dsimp only
        rw [hitemWidth, hhits, rects.rectNew_of_fits _ (hitem.fits ⟨hright, hbottom⟩)]
        rfl
      · rcases List.mem_cons.mp hhit with rfl | hhit
        · exact ⟨⟨action, rfl⟩, hitem⟩
        · exact hall hit hhit

theorem renderMenu_ok (hfits : area.Fits) :
    ∃ hits, renderMenu rects area = .ok hits ∧ MenuHits area hits :=
  renderMenuItems_ok hfits menuItems area.x (Nat.le_refl _)

/-! ### The window tree -/

/-- The regions are rows of the window tree and lie in the rectangle. -/
def TreeHits (area : Rect) (hits : List HitRegion) : Prop :=
  ∀ hit ∈ hits, (∃ paneId, hit.target = .windowTreePane paneId) ∧ hit.rect.Within area

theorem TreeHits.append {first second : List HitRegion} (h : TreeHits area first)
    (h' : TreeHits area second) : TreeHits area (first ++ second) := fun hit hhit =>
  (List.mem_append.mp hhit).elim (h hit) (h' hit)

mutual
/-- The depth stays below the row, and the row inside the rectangle, so neither overflows. -/
theorem renderTreeNode_ok (hfits : area.Fits) : ∀ (pane : WorkspacePaneSummary) {depth row : UInt16},
    area.y.toNat ≤ row.toNat → depth.toNat ≤ row.toNat →
    ∃ hits next, renderTreeNode rects area depth row pane = .ok (hits, next) ∧
      row.toNat ≤ next.toNat ∧ TreeHits area hits
  | .node fields children, depth, row, htop, hdepth => by
    have hbottom := toNat_add_of_fits hfits.bottom
    rw [renderTreeNode, checkedAdd_of_fits hfits.bottom, Lib.Check.ok_bind]
    by_cases hend : row ≥ area.y + area.height
    · exact ⟨[], row, by rw [if_pos hend]; rfl, Nat.le_refl _, fun hit hhit => absurd hhit (by simp)⟩
    · have hroom := UInt16.lt_iff_toNat_lt.mp (UInt16.not_le.mp hend)
      have hnext : (saturatingAdd row 1).toNat = row.toNat + 1 := by
        have hone : (1 : UInt16).toNat = 1 := rfl
        have := hfits.bottom
        rw [toNat_saturatingAdd]
        omega
      obtain ⟨hits, next, hhits, hle, hall⟩ := renderTreeNodes_ok hfits children
        (show area.y.toNat ≤ (saturatingAdd row 1).toNat by omega)
        (show depth.toNat < (saturatingAdd row 1).toNat by omega)
      have hrow : Rect.Within ⟨area.x, row, area.width, 1⟩ area :=
        ⟨Nat.le_refl _, Nat.le_refl _, htop, by
          have hone : (1 : UInt16).toNat = 1 := rfl
          dsimp only
          omega⟩
      refine ⟨⟨⟨area.x, row, area.width, 1⟩, .windowTreePane fields.paneId⟩ :: hits, next, ?_, by omega,
        fun hit hhit => ?_⟩
      · rw [if_neg hend, hhits, rects.rectNew_of_fits _ (hrow.fits hfits)]
        rfl
      · rcases List.mem_cons.mp hhit with rfl | hhit
        · exact ⟨⟨fields.paneId, rfl⟩, hrow⟩
        · exact hall hit hhit

theorem renderTreeNodes_ok (hfits : area.Fits) : ∀ (panes : List WorkspacePaneSummary)
    {depth row : UInt16}, area.y.toNat ≤ row.toNat → depth.toNat < row.toNat →
    ∃ hits next, renderTreeNodes rects area depth row panes = .ok (hits, next) ∧
      row.toNat ≤ next.toNat ∧ TreeHits area hits
  | [], _, row, _, _ => ⟨[], row, rfl, Nat.le_refl _, fun hit hhit => absurd hhit (by simp)⟩
  | child :: rest, depth, row, htop, hdepth => by
    have hone : (1 : UInt16).toNat = 1 := rfl
    have hlt := row.toNat_lt
    have hdeeper : depth.toNat + (1 : UInt16).toNat < 65536 := by omega
    obtain ⟨hits, next, hhits, hle, hall⟩ := renderTreeNode_ok hfits child htop
      (show (depth + 1).toNat ≤ row.toNat by rw [toNat_add_of_fits hdeeper]; omega)
    obtain ⟨others, last, hothers, hle', hall'⟩ := renderTreeNodes_ok hfits rest (htop.trans hle)
      (show depth.toNat < next.toNat by omega)
    refine ⟨hits ++ others, last, ?_, hle.trans hle', hall.append hall'⟩
    rw [renderTreeNodes, checkedAdd_of_fits hdeeper, Lib.Check.ok_bind, hhits, Lib.Check.ok_bind]
    dsimp only
    rw [hothers]
    rfl
end

theorem renderWindowTree_ok (hfits : area.Fits) (workspace : WorkspaceSummary) :
    ∃ hits, renderWindowTree rects area workspace = .ok hits ∧ TreeHits area hits := by
  unfold renderWindowTree
  rw [inset_eq hfits, Lib.Check.ok_bind]
  cases hinner : contentArea area with
  | none => exact ⟨[], rfl, fun hit hhit => absurd hhit (by simp)⟩
  | some inner =>
    have hinside := contentArea_inside hfits hinner
    cases workspace.paneTree with
    | none => exact ⟨[], rfl, fun hit hhit => absurd hhit (by simp)⟩
    | some root =>
      have hinnerFits := hinside.fits hfits
      have hbottom := hinnerFits.bottom
      obtain ⟨hits, next, hhits, -, hall⟩ := renderTreeNode_ok hinnerFits root
        (show inner.y.toNat ≤ (saturatingAdd inner.y 1).toNat by rw [toNat_saturatingAdd]; omega)
        (show (0 : UInt16).toNat ≤ (saturatingAdd inner.y 1).toNat from Nat.zero_le _)
      refine ⟨hits, by dsimp only; rw [hhits]; rfl, fun hit hhit => ?_⟩
      exact ⟨(hall hit hhit).1, (hall hit hhit).2.trans hinside.within⟩

/-! ### The pane area -/

variable {workspace : WorkspaceSummary} {cols rows : UInt16}

/-- What the menu and the window tree leave of the frame. -/
def paneFrame (workspace : WorkspaceSummary) (cols rows : UInt16) : Rect :=
  if treeWidthFor cols workspace.paneTree = 0 then ⟨0, 1, cols, rows - 1⟩
  else ⟨treeWidthFor cols workspace.paneTree + 1, 1, cols - (treeWidthFor cols workspace.paneTree + 1),
    rows - 1⟩

/-- The panes of the frame with their areas. -/
def paneLeaves (workspace : WorkspaceSummary) (cols rows : UInt16) : List (String × Rect) :=
  if cols = 0 ∨ rows ≤ menuHeight then []
  else
    match workspace.paneTree with
    | some root => leafAreas (paneFrame workspace cols rows) root
    | none => [(workspace.paneId, paneFrame workspace cols rows)]

theorem treeWidthFor_le {root : Option WorkspacePaneSummary} (h : treeWidthFor cols root ≠ 0) :
    (treeWidthFor cols root).toNat ≤ 28 ∧ 64 ≤ cols.toNat := by
  unfold treeWidthFor at h ⊢
  by_cases hnarrow : root.isNone ∨ cols < 64
  · exact absurd (if_pos hnarrow) h
  · rw [if_neg hnarrow]
    have hwide : (64 : UInt16).toNat ≤ cols.toNat :=
      UInt16.le_iff_toNat_le.mp (UInt16.not_lt.mp (not_or.mp hnarrow).2)
    have hmin : treeMinWidth.toNat = 18 := rfl
    have hmax : treeMaxWidth.toNat = 28 := rfl
    refine ⟨?_, hwide⟩
    rw [toNat_max, toNat_min]
    omega

/-- Where the panes are, the frame's rows and columns are positive. -/
theorem paneFrame_toNat (workspace : WorkspaceSummary) (cols : UInt16) (h : 1 < rows.toNat) :
    (paneFrame workspace cols rows).y.toNat = 1 ∧
    (paneFrame workspace cols rows).height.toNat = rows.toNat - 1 ∧
    (paneFrame workspace cols rows).x.toNat + (paneFrame workspace cols rows).width.toNat =
      cols.toNat ∧
    (paneFrame workspace cols rows).x.toNat = if treeWidthFor cols workspace.paneTree = 0 then 0
      else (treeWidthFor cols workspace.paneTree).toNat + 1 := by
  have hone : (1 : UInt16).toNat = 1 := rfl
  have hheight : (rows - 1).toNat = rows.toNat - 1 :=
    UInt16.toNat_sub_of_le _ _ (UInt16.le_iff_toNat_le.mpr (by omega))
  unfold paneFrame
  by_cases htree : treeWidthFor cols workspace.paneTree = 0
  · simp only [if_pos htree]
    exact ⟨hone, hheight, by rw [show (0 : UInt16).toNat = 0 from rfl]; omega, rfl⟩
  · obtain ⟨hnarrow, hwide⟩ := treeWidthFor_le htree
    simp only [if_neg htree]
    have hx : (treeWidthFor cols workspace.paneTree + 1).toNat =
        (treeWidthFor cols workspace.paneTree).toNat + 1 := toNat_add_of_fits (by omega)
    have hwidth : (cols - (treeWidthFor cols workspace.paneTree + 1)).toNat =
        cols.toNat - ((treeWidthFor cols workspace.paneTree).toNat + 1) := by
      rw [UInt16.toNat_sub_of_le _ _ (UInt16.le_iff_toNat_le.mpr (by omega)), hx]
    exact ⟨hone, hheight, by omega, hx⟩

theorem paneFrame_fits (workspace : WorkspaceSummary) (cols : UInt16) (h : 1 < rows.toNat) : (paneFrame workspace cols rows).Fits := by
  obtain ⟨hy, hheight, hright, -⟩ := paneFrame_toNat workspace cols h
  have := cols.toNat_lt
  have := rows.toNat_lt
  exact ⟨by omega, by omega⟩

/-- The frame below the menu, which has its one row. -/
theorem body_eq (cols : UInt16) (h : 1 < rows.toNat) :
    checkedAdd 0 menuHeight = .ok 1 ∧ checkedSub rows menuHeight = .ok (rows - 1) ∧
      rects.rectNew 0 1 cols (rows - 1) = ⟨0, 1, cols, rows - 1⟩ := by
  have hone : (1 : UInt16).toNat = 1 := rfl
  have hzero : (0 : UInt16).toNat = 0 := rfl
  have hlt := rows.toNat_lt
  have hlt' := cols.toNat_lt
  have hheight : (rows - 1).toNat = rows.toNat - 1 :=
    UInt16.toNat_sub_of_le _ _ (UInt16.le_iff_toNat_le.mpr (by omega))
  have hbody : (⟨0, 1, cols, rows - 1⟩ : Rect).Fits := ⟨by dsimp only; omega, by dsimp only; omega⟩
  exact ⟨rfl, checkedSub_of_le h.le, rects.rectNew_of_fits _ hbody⟩

/-- The rectangle both traversals start from. -/
theorem paneArea_eq (h : 1 < rows.toNat) :
    (if treeWidthFor cols workspace.paneTree = 0 then (⟨0, 1, cols, rows - 1⟩ : Rect)
      else rects.rectNew (saturatingAdd (saturatingAdd 0 (treeWidthFor cols workspace.paneTree)) 1) 1
        (saturatingSub cols (saturatingAdd (treeWidthFor cols workspace.paneTree) 1)) (rows - 1)) =
      paneFrame workspace cols rows := by
  have hfits := paneFrame_fits workspace cols h
  unfold paneFrame at hfits ⊢
  by_cases htree : treeWidthFor cols workspace.paneTree = 0
  · rw [if_pos htree, if_pos htree]
  · obtain ⟨hnarrow, hwide⟩ := treeWidthFor_le htree
    have hone : (1 : UInt16).toNat = 1 := rfl
    have hzero : (0 : UInt16).toNat = 0 := rfl
    have hx : (treeWidthFor cols workspace.paneTree + 1).toNat =
        (treeWidthFor cols workspace.paneTree).toNat + 1 := toNat_add_of_fits (by omega)
    have hstart : saturatingAdd (saturatingAdd 0 (treeWidthFor cols workspace.paneTree)) 1 =
        treeWidthFor cols workspace.paneTree + 1 := by
      apply UInt16.toNat_inj.mp
      rw [toNat_saturatingAdd, toNat_saturatingAdd, hx]
      omega
    have hwidth : saturatingSub cols (saturatingAdd (treeWidthFor cols workspace.paneTree) 1) =
        cols - (treeWidthFor cols workspace.paneTree + 1) := by
      apply UInt16.toNat_inj.mp
      rw [toNat_saturatingSub, toNat_saturatingAdd,
        UInt16.toNat_sub_of_le _ _ (UInt16.le_iff_toNat_le.mpr (by omega)), hx]
      omega
    rw [if_neg htree] at hfits
    rw [if_neg htree, if_neg htree, hstart, hwidth]
    exact rects.rectNew_of_fits _ hfits

end Nmux.Tui
