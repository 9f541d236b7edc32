import Nmux.Lib.Tiles
import Nmux.Tui.Layout

/-! The layout of a pane tree. A split hands its area out along its axis, child by child, and a leaf
takes what it is given; this gives one list of leaves with their areas, and the areas tile the area
of the tree. The two traversals of the source both read off this list. -/
namespace Nmux.Tui

open Client (WorkspacePaneSummary WorkspaceSummary)
open Lib (Tiles)
open Lib.Word16
open Protocol (SplitAxis)

/-- The cells of a rectangle, by column and row. -/
def Rect.cells (area : Rect) : Set (ℕ × ℕ) :=
  {cell | area.x.toNat ≤ cell.1 ∧ cell.1 < area.x.toNat + area.width.toNat ∧
    area.y.toNat ≤ cell.2 ∧ cell.2 < area.y.toNat + area.height.toNat}

theorem Rect.mem_cells {area : Rect} {cell : ℕ × ℕ} : cell ∈ area.cells ↔
    area.x.toNat ≤ cell.1 ∧ cell.1 < area.x.toNat + area.width.toNat ∧
      area.y.toNat ≤ cell.2 ∧ cell.2 < area.y.toNat + area.height.toNat := Iff.rfl

theorem Rect.cells_empty {area : Rect} (h : area.width = 0 ∨ area.height = 0) : area.cells = ∅ := by
  have hzero : (0 : UInt16).toNat = 0 := rfl
  ext cell
  rw [Rect.mem_cells, Set.mem_empty_iff_false, iff_false]
  rcases h with h | h <;> rw [h, hzero] <;> omega

/-- The rectangle lies in the other one. -/
structure Rect.Within (inner outer : Rect) : Prop where
  left : outer.x.toNat ≤ inner.x.toNat
  right : inner.x.toNat + inner.width.toNat ≤ outer.x.toNat + outer.width.toNat
  top : outer.y.toNat ≤ inner.y.toNat
  bottom : inner.y.toNat + inner.height.toNat ≤ outer.y.toNat + outer.height.toNat

theorem Rect.Within.refl (area : Rect) : area.Within area :=
  ⟨Nat.le_refl _, Nat.le_refl _, Nat.le_refl _, Nat.le_refl _⟩

theorem Rect.Within.trans {first second third : Rect} (h : first.Within second)
    (h' : second.Within third) : first.Within third := by
  obtain ⟨hleft, hright, htop, hbottom⟩ := h
  obtain ⟨hleft', hright', htop', hbottom'⟩ := h'
  exact ⟨by omega, by omega, by omega, by omega⟩

theorem Rect.Within.fits {inner outer : Rect} (h : inner.Within outer) (hfits : outer.Fits) :
    inner.Fits := by
  obtain ⟨hleft, hright, htop, hbottom⟩ := h
  obtain ⟨hright', hbottom'⟩ := hfits
  exact ⟨by omega, by omega⟩

/-! ### The parts of a split -/

/-- The part of an area from `start` on along the axis. -/
def part (axis : SplitAxis) (area : Rect) (start length : UInt16) : Rect :=
  if axis = .vertical then ⟨start, area.y, length, area.height⟩
  else if axis = .horizontal then ⟨area.x, start, area.width, length⟩
  else area

/-- What remains to hand out reaches from `start` to the end of the area. -/
structure Remains (axis : SplitAxis) (area : Rect) (start remaining : UInt16) : Prop where
  columns : axis = .vertical →
    area.x.toNat ≤ start.toNat ∧ start.toNat + remaining.toNat = area.x.toNat + area.width.toNat
  rows : axis = .horizontal →
    area.y.toNat ≤ start.toNat ∧ start.toNat + remaining.toNat = area.y.toNat + area.height.toNat

variable {rects : RectLibrary} {axis : SplitAxis} {area : Rect} {start remaining length : UInt16}

theorem vertical_ne_horizontal : (SplitAxis.vertical : SplitAxis) ≠ .horizontal := by decide

theorem Remains.all (axis : SplitAxis) (area : Rect) :
    Remains axis area (splitStart axis area) (splitLength axis area) where
  columns h := by simp [splitStart, splitLength, h]
  rows h := by simp [splitStart, splitLength, h, vertical_ne_horizontal.symm]

theorem part_all (haxis : axis = .vertical ∨ axis = .horizontal) :
    part axis area (splitStart axis area) (splitLength axis area) = area := by
  rcases haxis with h | h
  · simp [part, splitStart, splitLength, h]
  · simp [part, splitStart, splitLength, h, vertical_ne_horizontal.symm]

theorem childLength_le (count : UInt16) (index : Nat) (remaining : UInt16) :
    (childLength count index remaining).toNat ≤ remaining.toNat := by
  unfold childLength
  dsimp only
  split
  · exact Nat.le_refl _
  · rw [UInt16.toNat_div]
    exact Nat.div_le_self _ _

theorem Remains.part_within (h : Remains axis area start remaining)
    (hlength : length.toNat ≤ remaining.toNat) : (part axis area start length).Within area := by
  unfold part
  by_cases hv : axis = .vertical
  · have hcolumns := h.columns hv
    rw [if_pos hv]
    exact ⟨hcolumns.1, by dsimp only; omega, Nat.le_refl _, Nat.le_refl _⟩
  · rw [if_neg hv]
    by_cases hh : axis = .horizontal
    · have hrows := h.rows hh
      rw [if_pos hh]
      exact ⟨Nat.le_refl _, Nat.le_refl _, hrows.1, by dsimp only; omega⟩
    · rw [if_neg hh]
      exact .refl _

/-- A part of the area fits. -/
theorem Remains.part_fits (h : Remains axis area start remaining) (hfits : area.Fits)
    (hlength : length.toNat ≤ remaining.toNat) : (part axis area start length).Fits :=
  (h.part_within hlength).fits hfits

theorem Remains.childArea_eq (h : Remains axis area start remaining) (hfits : area.Fits)
    (hlength : length.toNat ≤ remaining.toNat) :
    childArea rects axis area start length = part axis area start length := by
  have hpart := h.part_fits hfits hlength
  unfold childArea
  unfold part at hpart ⊢
  by_cases hv : axis = .vertical
  · rw [if_pos hv] at hpart
    rw [if_pos hv, if_pos hv]
    exact rects.rectNew_of_fits _ hpart
  · rw [if_neg hv] at hpart
    rw [if_neg hv, if_neg hv]
    by_cases hh : axis = .horizontal
    · rw [if_pos hh] at hpart
      rw [if_pos hh, if_pos hh]
      exact rects.rectNew_of_fits _ hpart
    · rw [if_neg hh, if_neg hh]

/-- What remains after one child. -/
theorem Remains.next (h : Remains axis area start remaining) (hfits : area.Fits)
    (hlength : length.toNat ≤ remaining.toNat) :
    Remains axis area (saturatingAdd start length) (saturatingSub remaining length) := by
  obtain ⟨hright, hbottom⟩ := hfits
  refine ⟨fun hv => ?_, fun hh => ?_⟩
  · have hcolumns := h.columns hv
    rw [toNat_saturatingAdd, toNat_saturatingSub]
    omega
  · have hrows := h.rows hh
    rw [toNat_saturatingAdd, toNat_saturatingSub]
    omega

/-- One child and what remains after it make up what remained before it. -/
theorem Remains.cells_next (h : Remains axis area start remaining) (hfits : area.Fits)
    (haxis : axis = .vertical ∨ axis = .horizontal) (hlength : length.toNat ≤ remaining.toNat) :
    (part axis area start remaining).cells = (part axis area start length).cells ∪
        (part axis area (saturatingAdd start length) (saturatingSub remaining length)).cells ∧
      Disjoint (part axis area start length).cells
        (part axis area (saturatingAdd start length) (saturatingSub remaining length)).cells := by
  obtain ⟨hright, hbottom⟩ := hfits
  have hsum := toNat_saturatingAdd start length
  have hdiff := toNat_saturatingSub remaining length
  rw [Set.disjoint_left]
  unfold part
  rcases haxis with hv | hh
  · have hcolumns := h.columns hv
    simp only [if_pos hv]
    refine ⟨?_, fun cell hcell hother => ?_⟩
    · ext cell
      simp only [Set.mem_union, Rect.mem_cells, hsum, hdiff]
      omega
    · simp only [Rect.mem_cells, hsum] at hcell hother
      omega
  · have hrows := h.rows hh
    simp only [hh, vertical_ne_horizontal.symm, if_false, if_true]
    refine ⟨?_, fun cell hcell hother => ?_⟩
    · ext cell
      simp only [Set.mem_union, Rect.mem_cells, hsum, hdiff]
      omega
    · simp only [Rect.mem_cells, hsum] at hcell hother
      omega

/-! ### The leaves of a tree -/

mutual
/-- The leaves that get an area, in order. -/
def leafAreas (area : Rect) : WorkspacePaneSummary → List (String × Rect)
  | .node fields children =>
    if area.width = 0 ∨ area.height = 0 then []
    else if children.isEmpty then [(fields.paneId, area)]
    else leafAreasIn fields.splitAxis area (childCount children) 0 (splitStart fields.splitAxis area)
      (splitLength fields.splitAxis area) children

def leafAreasIn (axis : SplitAxis) (area : Rect) (count : UInt16) (index : Nat)
    (start remaining : UInt16) : List WorkspacePaneSummary → List (String × Rect)
  | [] => []
  | child :: rest =>
    leafAreas (part axis area start (childLength count index remaining)) child ++
      leafAreasIn axis area count (index + 1) (saturatingAdd start (childLength count index remaining))
        (saturatingSub remaining (childLength count index remaining)) rest
end

mutual
def leafIds : WorkspacePaneSummary → List String
  | .node fields children => if children.isEmpty then [fields.paneId] else leafIdsIn children

def leafIdsIn : List WorkspacePaneSummary → List String
  | [] => []
  | child :: rest => leafIds child ++ leafIdsIn rest
end

mutual
/-- No leaf is laid out twice, and none that the tree does not have. -/
theorem leafAreas_sublist (area : Rect) :
    ∀ pane : WorkspacePaneSummary, ((leafAreas area pane).map (·.1)).Sublist (leafIds pane)
  | .node fields children => by
    rw [leafAreas, leafIds]
    by_cases harea : area.width = 0 ∨ area.height = 0
    · rw [if_pos harea]
      exact List.nil_sublist _
    · rw [if_neg harea]
      by_cases hleaf : children.isEmpty = true
      · rw [if_pos hleaf, if_pos hleaf]
        exact List.Sublist.refl _
      · rw [if_neg hleaf, if_neg hleaf]
        exact leafAreasIn_sublist _ _ _ _ _ _ children

theorem leafAreasIn_sublist (axis : SplitAxis) (area : Rect) (count : UInt16) (index : Nat)
    (start remaining : UInt16) : ∀ children : List WorkspacePaneSummary,
      ((leafAreasIn axis area count index start remaining children).map (·.1)).Sublist
        (leafIdsIn children)
  | [] => List.Sublist.refl _
  | child :: rest => by
    rw [leafAreasIn, leafIdsIn, List.map_append]
    exact (leafAreas_sublist _ child).append (leafAreasIn_sublist _ _ _ _ _ _ rest)
end

mutual
/-- Every leaf is laid out in the area of the tree. -/
theorem leafAreas_within : ∀ {area : Rect} (pane : WorkspacePaneSummary), area.Fits →
    ∀ leaf ∈ leafAreas area pane, leaf.2.Within area
  | area, .node fields children, hfits, leaf, hleaf => by
    rw [leafAreas] at hleaf
    split at hleaf
    · cases hleaf
    · split at hleaf
      · rw [List.mem_singleton.mp hleaf]
        exact .refl _
      · exact leafAreasIn_within children (.all fields.splitAxis area) hfits leaf hleaf

theorem leafAreasIn_within {axis : SplitAxis} {area : Rect} {count : UInt16} :
    ∀ {index : Nat} {start remaining : UInt16} (children : List WorkspacePaneSummary),
      Remains axis area start remaining → area.Fits →
      ∀ leaf ∈ leafAreasIn axis area count index start remaining children, leaf.2.Within area
  | _, _, _, [], _, _, _, hleaf => by cases hleaf
  | index, start, remaining, child :: rest, h, hfits, leaf, hleaf => by
    have hlength := childLength_le count index remaining
    rw [leafAreasIn] at hleaf
    rcases List.mem_append.mp hleaf with hleaf | hleaf
    · exact (leafAreas_within child (h.part_fits hfits hlength) leaf hleaf).trans (h.part_within hlength)
    · exact leafAreasIn_within rest (h.next hfits hlength) hfits leaf hleaf
end

/-! ### The tiling -/

/-- Every node with children is split along an axis. -/
inductive Splits : WorkspacePaneSummary → Prop
  | leaf {fields : Client.WorkspacePaneFields} : Splits (.node fields [])
  | split {fields : Client.WorkspacePaneFields} {children : List WorkspacePaneSummary}
      (axis : fields.splitAxis = .vertical ∨ fields.splitAxis = .horizontal)
      (hchildren : ∀ child ∈ children, Splits child) : Splits (.node fields children)

/-- Some child from the index on is handed all that remains. The count is cut off at 16 bits, and so
is the index. -/
def TakesRest (count : UInt16) (index children : Nat) : Prop :=
  ∃ last, index ≤ last ∧ last < index + children ∧ saturatingSub count (UInt16.ofNat last) ≤ 1

theorem takesRest_all {children : List WorkspacePaneSummary} (h : children ≠ []) :
    TakesRest (childCount children) 0 children.length := by
  have hpos := List.length_pos_of_ne_nil h
  have hcount : (childCount children).toNat = children.length % 65536 := by
    rw [childCount, UInt16.toNat_ofNat', Nat.max_eq_left hpos]
  have hone : (1 : UInt16).toNat = 1 := rfl
  refine ⟨(childCount children).toNat - 1, Nat.zero_le _, by omega, ?_⟩
  rw [UInt16.le_iff_toNat_le, toNat_saturatingSub, UInt16.toNat_ofNat', hone]
  omega

theorem cells_part_nothing (haxis : axis = .vertical ∨ axis = .horizontal) :
    (part axis area start 0).cells = ∅ := by
  rcases haxis with h | h
  · exact Rect.cells_empty (.inl (by simp [part, h]))
  · exact Rect.cells_empty (.inr (by simp [part, h, vertical_ne_horizontal.symm]))

mutual
/-- **The areas of the leaves tile the area of the tree.** -/
theorem leafAreas_tiles : ∀ {area : Rect} {pane : WorkspacePaneSummary}, area.Fits → Splits pane →
    Tiles ((leafAreas area pane).map (·.2.cells)) area.cells
  | area, .node fields children, hfits, hsplits => by
    rw [leafAreas]
    by_cases harea : area.width = 0 ∨ area.height = 0
    · rw [if_pos harea, Rect.cells_empty harea]
      exact .nil
    · rw [if_neg harea]
      by_cases hleaf : children.isEmpty = true
      · rw [if_pos hleaf]
        exact .single _
      · rw [if_neg hleaf]
        have hne : children ≠ [] := fun h => hleaf (by rw [h]; rfl)
        cases hsplits with
        | leaf => exact absurd rfl hne
        | split axis hchildren =>
          have htiles := leafAreasIn_tiles (.all fields.splitAxis area) hfits axis hchildren
            (.inr (takesRest_all hne))
          rwa [part_all axis] at htiles

/-- What remains is tiled by the children from the index on, if one of them takes all of it. -/
theorem leafAreasIn_tiles {axis : SplitAxis} {area : Rect} {count : UInt16} :
    ∀ {index : Nat} {start remaining : UInt16} {children : List WorkspacePaneSummary},
      Remains axis area start remaining → area.Fits → axis = .vertical ∨ axis = .horizontal →
      (∀ child ∈ children, Splits child) → remaining = 0 ∨ TakesRest count index children.length →
      Tiles ((leafAreasIn axis area count index start remaining children).map (·.2.cells))
        (part axis area start remaining).cells
  | index, start, remaining, [], _, _, haxis, _, hrest => by
    rcases hrest with rfl | ⟨last, hle, hlt, _⟩
    · rw [cells_part_nothing haxis]
      exact .nil
    · exact absurd hlt (by simpa using hle)
  | index, start, remaining, child :: rest, h, hfits, haxis, hchildren, hrest => by
    have hlength := childLength_le count index remaining
    obtain ⟨hcells, hdisjoint⟩ := h.cells_next hfits haxis hlength
    rw [leafAreasIn, List.map_append, hcells]
    refine .append (leafAreas_tiles (h.part_fits hfits hlength) (hchildren child (by simp)))
      (leafAreasIn_tiles (h.next hfits hlength) hfits haxis
        (fun child hchild => hchildren child (by simp [hchild])) ?_) hdisjoint
    -- the child that takes the rest is this one, or one of those that follow
    rcases hrest with rfl | ⟨last, hle, hlt, hlast⟩
    · exact .inl (UInt16.toNat_inj.mp (by rw [toNat_saturatingSub]; exact Nat.zero_sub _))
    · rcases Nat.eq_or_lt_of_le hle with rfl | hlater
      · left
        apply UInt16.toNat_inj.mp
        rw [childLength, if_pos hlast, toNat_saturatingSub, Nat.sub_self]
        rfl
      · exact .inr ⟨last, hlater, by rw [List.length_cons] at hlt; omega, hlast⟩
end

/-! ### The cover -/

/-- A part that is handed out next is covered by what the child takes and what it leaves. -/
theorem Remains.covered (h : Remains axis area start remaining) (hfits : area.Fits)
    (hlength : length.toNat ≤ remaining.toNat) {cell : ℕ × ℕ}
    (hcell : cell ∈ (part axis area start remaining).cells) :
    cell ∈ (part axis area start length).cells ∨
      (axis = .vertical ∨ axis = .horizontal) ∧
        cell ∈ (part axis area (saturatingAdd start length) (saturatingSub remaining length)).cells := by
  by_cases haxis : axis = .vertical ∨ axis = .horizontal
  · rw [(h.cells_next hfits haxis hlength).1] at hcell
    exact hcell.imp_right fun hrest => ⟨haxis, hrest⟩
  · obtain ⟨hv, hh⟩ := not_or.mp haxis
    unfold part at hcell ⊢
    rw [if_neg hv, if_neg hh] at hcell
    rw [if_neg hv, if_neg hh]
    exact .inl hcell

mutual
/-- **The areas of the leaves cover the area of the tree**, also where a node has an unknown axis
and every child is given all of it. -/
theorem leafAreas_cover : ∀ {area : Rect} (pane : WorkspacePaneSummary) {cell : ℕ × ℕ}, area.Fits →
    cell ∈ area.cells → ∃ leaf ∈ leafAreas area pane, cell ∈ leaf.2.cells
  | area, .node fields children, cell, hfits, hcell => by
    rw [leafAreas]
    by_cases harea : area.width = 0 ∨ area.height = 0
    · rw [Rect.cells_empty harea] at hcell
      cases hcell
    · rw [if_neg harea]
      by_cases hleaf : children.isEmpty = true
      · rw [if_pos hleaf]
        exact ⟨_, List.mem_singleton_self _, hcell⟩
      · rw [if_neg hleaf]
        have hne : children ≠ [] := fun h => hleaf (by rw [h]; rfl)
        refine leafAreasIn_cover children (.all fields.splitAxis area) hfits (takesRest_all hne) ?_
        unfold part splitStart splitLength
        by_cases hv : fields.splitAxis = .vertical
        · rw [if_pos hv, if_pos hv, if_pos hv]
          exact hcell
        · rw [if_neg hv, if_neg hv, if_neg hv]
          by_cases hh : fields.splitAxis = .horizontal
          · rw [if_pos hh]
            exact hcell
          · rw [if_neg hh]
            exact hcell

theorem leafAreasIn_cover {axis : SplitAxis} {area : Rect} {count : UInt16} :
    ∀ {index : Nat} {start remaining : UInt16} (children : List WorkspacePaneSummary) {cell : ℕ × ℕ},
      Remains axis area start remaining → area.Fits → TakesRest count index children.length →
      cell ∈ (part axis area start remaining).cells →
      ∃ leaf ∈ leafAreasIn axis area count index start remaining children, cell ∈ leaf.2.cells
  | index, start, remaining, [], _, _, _, hrest, _ => by
    obtain ⟨last, hle, hlt, -⟩ := hrest
    exact absurd hlt (by simpa using hle)
  | index, start, remaining, child :: rest, cell, h, hfits, hrest, hcell => by
    have hlength := childLength_le count index remaining
    rw [leafAreasIn]
    rcases h.covered hfits hlength hcell with hcell | ⟨haxis, hcell⟩
    · obtain ⟨leaf, hleaf, hin⟩ := leafAreas_cover child (h.part_fits hfits hlength) hcell
      exact ⟨leaf, List.mem_append_left _ hleaf, hin⟩
    · obtain ⟨last, hle, hlt, hlast⟩ := hrest
      rcases Nat.eq_or_lt_of_le hle with rfl | hlater
      · -- the child that takes all leaves nothing
        rw [childLength, if_pos hlast] at hcell
        have hnothing : saturatingSub remaining remaining = 0 :=
          UInt16.toNat_inj.mp (by rw [toNat_saturatingSub, Nat.sub_self]; rfl)
        rw [hnothing, cells_part_nothing haxis] at hcell
        cases hcell
      · obtain ⟨leaf, hleaf, hin⟩ := leafAreasIn_cover rest (h.next hfits hlength) hfits
          ⟨last, hlater, by rw [List.length_cons] at hlt; omega, hlast⟩ hcell
        exact ⟨leaf, List.mem_append_right _ hleaf, hin⟩
end

end Nmux.Tui
