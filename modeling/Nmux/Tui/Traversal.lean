import Nmux.Lib.Check
import Nmux.Tui.Tiling

/-! The two traversals of the pane tree. Drawing emits the regions of the leaf areas in order, resizing
looks one pane up among them, and none of their sums leaves the 16-bit range. -/
namespace Nmux.Tui

open Client (WorkspacePaneSummary WorkspaceSummary)
open Lib (Tiles)
open Lib.Word16
open Protocol (SplitAxis)

variable {rects : RectLibrary} {area : Rect}

/-! ### Leaves -/

/-- What a box leaves for the content of its pane. -/
def contentArea (area : Rect) : Option Rect :=
  if area.width ≤ 2 ∨ area.height ≤ 2 then none
  else some ⟨area.x + 1, area.y + 1, area.width - 2, area.height - 2⟩

/-- The inside of a rectangle, one cell away from each side. -/
structure Inside (inner area : Rect) : Prop where
  x : inner.x.toNat = area.x.toNat + 1
  y : inner.y.toNat = area.y.toNat + 1
  width : inner.width.toNat + 2 = area.width.toNat
  height : inner.height.toNat + 2 = area.height.toNat
  width_pos : 0 < inner.width.toNat
  height_pos : 0 < inner.height.toNat

theorem contentArea_inside (hfits : area.Fits) {inner : Rect} (h : contentArea area = some inner) :
    Inside inner area := by
  obtain ⟨hright, hbottom⟩ := hfits
  unfold contentArea at h
  split at h
  case isTrue => cases h
  case isFalse hlarge =>
    cases h
    have htwo : (2 : UInt16).toNat = 2 := rfl
    have hone : (1 : UInt16).toNat = 1 := rfl
    rw [not_or, UInt16.not_le, UInt16.not_le, UInt16.lt_iff_toNat_lt, UInt16.lt_iff_toNat_lt,
      htwo] at hlarge
    have hx : (area.x + 1).toNat = area.x.toNat + 1 := toNat_add_of_fits (by omega)
    have hy : (area.y + 1).toNat = area.y.toNat + 1 := toNat_add_of_fits (by omega)
    have hwidth : (area.width - 2).toNat = area.width.toNat - 2 :=
      UInt16.toNat_sub_of_le _ _ (UInt16.le_iff_toNat_le.mpr (by omega))
    have hheight : (area.height - 2).toNat = area.height.toNat - 2 :=
      UInt16.toNat_sub_of_le _ _ (UInt16.le_iff_toNat_le.mpr (by omega))
    exact ⟨hx, hy, by dsimp only; omega, by dsimp only; omega, by dsimp only; omega,
      by dsimp only; omega⟩

theorem Inside.fits {inner : Rect} (h : Inside inner area) (hfits : area.Fits) : inner.Fits := by
  obtain ⟨hright, hbottom⟩ := hfits
  obtain ⟨hx, hy, hwidth, hheight, -, -⟩ := h
  exact ⟨by omega, by omega⟩

theorem Inside.cells_subset {inner : Rect} (h : Inside inner area) : inner.cells ⊆ area.cells := by
  obtain ⟨hx, hy, hwidth, hheight, -, -⟩ := h
  intro cell hcell
  rw [Rect.mem_cells] at hcell ⊢
  omega

/-- The margin of one cell is taken off without an overflow. -/
theorem inset_eq (hfits : area.Fits) : inset rects area 1 = .ok (contentArea area) := by
  have hdouble : saturatingMul 1 2 = 2 := rfl
  have htwo : (2 : UInt16).toNat = 2 := rfl
  have hone : (1 : UInt16).toNat = 1 := rfl
  unfold inset
  dsimp only
  rw [hdouble]
  by_cases hsmall : area.width ≤ 2 ∨ area.height ≤ 2
  · rw [if_pos hsmall, contentArea, if_pos hsmall]
    rfl
  · have hcontent : contentArea area = some ⟨area.x + 1, area.y + 1, area.width - 2, area.height - 2⟩ :=
      if_neg hsmall
    have hinner := (contentArea_inside hfits hcontent).fits hfits
    obtain ⟨hright, hbottom⟩ := hfits
    have hlarge := hsmall
    rw [not_or, UInt16.not_le, UInt16.not_le, UInt16.lt_iff_toNat_lt, UInt16.lt_iff_toNat_lt,
      htwo] at hlarge
    rw [if_neg hsmall, hcontent, checkedAdd_of_fits (by omega), checkedAdd_of_fits (by omega),
      checkedSub_of_le (by omega), checkedSub_of_le (by omega)]
    exact congrArg (fun rect => Except.ok (some rect)) (rects.rectNew_of_fits _ hinner)

/-- The regions of one leaf: its chrome and, where there is room, its content. -/
def leafHits (leaf : String × Rect) : List HitRegion :=
  ⟨leaf.2, .pane leaf.1⟩ :: (contentArea leaf.2).toList.map fun inner => ⟨inner, .paneContent leaf.1⟩

theorem renderLeafPane_eq (hfits : area.Fits) (paneId : String) :
    renderLeafPane rects area paneId = .ok (leafHits (paneId, area)) := by
  unfold renderLeafPane
  dsimp only
  rw [inset_eq hfits]
  unfold leafHits
  cases contentArea area <;> rfl

/-! ### The two traversals -/

mutual
/-- Drawing emits the regions of the leaf areas, in order. -/
theorem renderPaneNode_eq : ∀ {area : Rect} (pane : WorkspacePaneSummary), area.Fits →
    renderPaneNode rects area pane = .ok ((leafAreas area pane).flatMap leafHits)
  | area, .node fields children, hfits => by
    rw [renderPaneNode, leafAreas]
    by_cases harea : area.width = 0 ∨ area.height = 0
    · rw [if_pos harea, if_pos harea]
      rfl
    · rw [if_neg harea, if_neg harea]
      by_cases hleaf : children.isEmpty = true
      · rw [if_pos hleaf, if_pos hleaf, renderLeafPane_eq hfits, List.flatMap_singleton]
      · rw [if_neg hleaf, if_neg hleaf]
        exact renderPaneChildren_eq children (.all fields.splitAxis area) hfits

theorem renderPaneChildren_eq {axis : SplitAxis} {area : Rect} {count : UInt16} :
    ∀ {index : Nat} {start remaining : UInt16} (children : List WorkspacePaneSummary),
      Remains axis area start remaining → area.Fits →
      renderPaneChildren rects axis area count index start remaining children =
        .ok ((leafAreasIn axis area count index start remaining children).flatMap leafHits)
  | _, _, _, [], _, _ => rfl
  | index, start, remaining, child :: rest, h, hfits => by
    have hlength := childLength_le count index remaining
    rw [renderPaneChildren, leafAreasIn, List.flatMap_append, h.childArea_eq hfits hlength, renderPaneNode_eq child (h.part_fits hfits hlength),
      renderPaneChildren_eq rest (h.next hfits hlength) hfits]
    rfl
end

/-- The content of the first leaf with the id that has any. -/
def contentOf (paneId : String) (leaves : List (String × Rect)) : Option Rect :=
  leaves.findSome? fun leaf => if leaf.1 = paneId then contentArea leaf.2 else none

mutual
/-- Resizing looks the pane up among the leaf areas. -/
theorem paneContentRectForNode_eq (paneId : String) : ∀ {area : Rect} (pane : WorkspacePaneSummary),
    area.Fits →
    paneContentRectForNode rects area paneId pane = .ok (contentOf paneId (leafAreas area pane))
  | area, .node fields children, hfits => by
    rw [paneContentRectForNode, leafAreas]
    by_cases harea : area.width = 0 ∨ area.height = 0
    · rw [if_pos harea, if_pos harea]
      rfl
    · rw [if_neg harea, if_neg harea]
      by_cases hleaf : children.isEmpty = true
      · rw [if_pos hleaf, if_pos hleaf, contentOf, List.findSome?_singleton]
        by_cases hid : fields.paneId = paneId
        · rw [if_pos hid, if_pos hid, inset_eq hfits]
        · rw [if_neg hid, if_neg hid]
          rfl
      · rw [if_neg hleaf, if_neg hleaf]
        exact paneContentRectInChildren_eq paneId children (.all fields.splitAxis area) hfits

theorem paneContentRectInChildren_eq (paneId : String) {axis : SplitAxis} {area : Rect}
    {count : UInt16} :
    ∀ {index : Nat} {start remaining : UInt16} (children : List WorkspacePaneSummary),
      Remains axis area start remaining → area.Fits →
      paneContentRectInChildren rects axis area paneId count index start remaining children =
        .ok (contentOf paneId (leafAreasIn axis area count index start remaining children))
  | _, _, _, [], _, _ => rfl
  | index, start, remaining, child :: rest, h, hfits => by
    have hlength := childLength_le count index remaining
    rw [paneContentRectInChildren, leafAreasIn, contentOf, List.findSome?_append, h.childArea_eq hfits hlength, paneContentRectForNode_eq paneId child (h.part_fits hfits hlength),
      paneContentRectInChildren_eq paneId rest (h.next hfits hlength) hfits]
    show (match contentOf paneId (leafAreas _ child) with
      | some rect => _
      | none => _) = Except.ok (Option.or (contentOf paneId _) (contentOf paneId _))
    cases contentOf paneId (leafAreas (part axis area start (childLength count index remaining)) child)
      <;> rfl
end

end Nmux.Tui
