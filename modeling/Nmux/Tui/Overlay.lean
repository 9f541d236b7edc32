import Nmux.Tui.Mouse

/-! An overlay over the frame. Its box is painted over whatever the workspace shows there, while only
its lines with an action become regions that a click can hit. -/
namespace Nmux.Tui

open Client (TerminalModeSummary WorkspaceSummary)
open Lib (OrderedMap)
open Lib.Word16

variable {rects : RectLibrary} {workspace : WorkspaceSummary} {overlay : TuiOverlay} {cols rows : UInt16}

/-! ### The box -/

def overlayWidth (area : Rect) (overlay : TuiOverlay) : UInt16 :=
  let lineWidths := overlay.lines.map fun line => UInt16.ofNat line.text.length
  let maxLineWidth := max (lineWidths.foldl max 0) (UInt16.ofNat overlay.title.length)
  max 12 (min (saturatingAdd maxLineWidth 4) (max (saturatingSub area.width 2) 12))

def overlayHeight (area : Rect) (overlay : TuiOverlay) : UInt16 :=
  max 5 (min (saturatingAdd (UInt16.ofNat overlay.lines.length) 4) (max (saturatingSub area.height 2) 5))

/-- `overlay_area`, which `render_overlay` fills and draws a box around; it paints nothing in a frame
that is too small. -/
def overlayArea (rects : RectLibrary) (area : Rect) (overlay : TuiOverlay) : Except String (Option Rect) := do
  if area.width < 12 ∨ area.height < 5 then return none
  else
    return some (rects.rectNew
      (← checkedAdd area.x (saturatingSub area.width (overlayWidth area overlay) / 2))
      (← checkedAdd area.y (saturatingSub area.height (overlayHeight area overlay) / 2))
      (overlayWidth area overlay) (overlayHeight area overlay))

/-- Where the box is: in the middle of the frame, with room for its sides. -/
structure OverlayBox (cols rows : UInt16) (box : Rect) : Prop where
  wide : 12 ≤ box.width.toNat
  tall : 5 ≤ box.height.toNat
  right : box.x.toNat + box.width.toNat ≤ cols.toNat
  bottom : box.y.toNat + box.height.toNat ≤ rows.toNat
  /-- Nothing is wider on its right than on its left, but for one column. -/
  centred : cols.toNat ≤ 2 * box.x.toNat + box.width.toNat + 1

/-- A frame with room for a box has one painted. -/
theorem overlayArea_ok (rects : RectLibrary) (overlay : TuiOverlay) (hcols : 12 ≤ cols) (hrows : 5 ≤ rows) :
    ∃ box, overlayArea rects ⟨0, 0, cols, rows⟩ overlay = .ok (some box) ∧ OverlayBox cols rows box := by
  have htwelve : (12 : UInt16).toNat = 12 := rfl
  have hfive : (5 : UInt16).toNat = 5 := rfl
  have htwo : (2 : UInt16).toNat = 2 := rfl
  have hzero : (0 : UInt16).toNat = 0 := rfl
  have hwide := UInt16.le_iff_toNat_le.mp hcols
  have htall := UInt16.le_iff_toNat_le.mp hrows
  have hlarge : ¬(cols < 12 ∨ rows < 5) :=
    not_or.mpr ⟨UInt16.not_lt.mpr hcols, UInt16.not_lt.mpr hrows⟩
  have hlt := cols.toNat_lt
  have hlt' := rows.toNat_lt
  unfold overlayArea
  rw [if_neg hlarge]
  have hwidth : 12 ≤ (overlayWidth ⟨0, 0, cols, rows⟩ overlay).toNat ∧
      (overlayWidth ⟨0, 0, cols, rows⟩ overlay).toNat ≤ cols.toNat := by
    unfold overlayWidth
    dsimp only
    rw [toNat_max, toNat_min, toNat_max, toNat_saturatingSub]
    omega
  have hheight : 5 ≤ (overlayHeight ⟨0, 0, cols, rows⟩ overlay).toNat ∧
      (overlayHeight ⟨0, 0, cols, rows⟩ overlay).toNat ≤ rows.toNat := by
    unfold overlayHeight
    dsimp only
    rw [toNat_max, toNat_min, toNat_max, toNat_saturatingSub]
    omega
  generalize overlayWidth ⟨0, 0, cols, rows⟩ overlay = width at hwidth
  generalize overlayHeight ⟨0, 0, cols, rows⟩ overlay = height at hheight
  have hx : (0 + saturatingSub cols width / 2).toNat = (cols.toNat - width.toNat) / 2 := by
    rw [UInt16.zero_add, UInt16.toNat_div, toNat_saturatingSub, htwo]
  have hy : (0 + saturatingSub rows height / 2).toNat = (rows.toNat - height.toNat) / 2 := by
    rw [UInt16.zero_add, UInt16.toNat_div, toNat_saturatingSub, htwo]
  have hleft : (0 : UInt16).toNat + (saturatingSub cols width / 2).toNat < 65536 := by
    rw [UInt16.toNat_div, toNat_saturatingSub, htwo, hzero]
    omega
  have htop : (0 : UInt16).toNat + (saturatingSub rows height / 2).toNat < 65536 := by
    rw [UInt16.toNat_div, toNat_saturatingSub, htwo, hzero]
    omega
  refine ⟨⟨0 + saturatingSub cols width / 2, 0 + saturatingSub rows height / 2, width, height⟩, ?_,
    hwidth.1, hheight.1, by dsimp only; omega, by dsimp only; omega, by dsimp only; omega⟩
  rw [checkedAdd_of_fits hleft, checkedAdd_of_fits htop, Lib.Check.ok_bind, Lib.Check.ok_bind,
    rects.rectNew_of_fits ⟨_, _, width, height⟩ ⟨by dsimp only; omega, by dsimp only; omega⟩]
  rfl

theorem renderOverlay_eq (area : Rect) (overlay : TuiOverlay) :
    renderOverlay rects area overlay = (do
      match ← overlayArea rects area overlay with
      | none => return []
      | some overlayArea =>
        match ← inset rects overlayArea 1 with
        | none => return []
        | some inner => renderOverlayLines rects inner (overlay.lines.take inner.height.toNat) 0) := by
  unfold renderOverlay overlayArea
  by_cases hsmall : area.width < 12 ∨ area.height < 5
  · rw [if_pos hsmall, if_pos hsmall]
    rfl
  · rw [if_neg hsmall, if_neg hsmall]
    simp only [bind_assoc, pure_bind]
    rfl

/-- The overlay comes last. -/
theorem renderWorkspaceFrame_overlay (hcols : cols ≠ 0) (hrows : ¬rows ≤ menuHeight) :
    renderWorkspaceFrame rects workspace (some overlay) cols rows = (do
      let hits ← renderWorkspaceFrame rects workspace none cols rows
      let overlayHits ← renderOverlay rects ⟨0, 0, cols, rows⟩ overlay
      return hits ++ overlayHits) := by
  have hpos : ¬(cols = 0 ∨ rows = 0) := not_or.mpr ⟨hcols, fun h => hrows (by rw [h]; decide)⟩
  unfold renderWorkspaceFrame renderWorkspaceToBuffer
  rw [rects.rectNew_of_fits ⟨0, 0, cols, rows⟩ (frameSize_fits cols rows)]
  dsimp only
  rw [if_neg hpos, if_neg hpos]
  simp only [if_neg hrows, bind_assoc, pure_bind, List.append_nil]

/-! ### The lines -/

/-- The regions of the lines that do something, from an offset on. -/
def lineHits (inner : Rect) (lines : List TuiOverlayLine) (offset : ℕ) : List HitRegion :=
  (lines.zipIdx offset).filterMap fun entry =>
    entry.1.action.map fun action =>
      ⟨⟨inner.x, inner.y + UInt16.ofNat entry.2, inner.width, 1⟩, .overlay action⟩

theorem lineHits_cons (inner : Rect) (line : TuiOverlayLine) (rest : List TuiOverlayLine) (offset : ℕ) :
    lineHits inner (line :: rest) offset =
      (line.action.map fun action =>
        (⟨⟨inner.x, inner.y + UInt16.ofNat offset, inner.width, 1⟩, .overlay action⟩ : HitRegion)).toList ++
        lineHits inner rest (offset + 1) := by
  unfold lineHits
  rw [List.zipIdx_cons, List.filterMap_cons]
  cases line.action <;> rfl

theorem renderOverlayLines_eq {inner : Rect} (hfits : inner.Fits) (lines : List TuiOverlayLine) :
    ∀ offset, offset + lines.length ≤ inner.height.toNat →
      renderOverlayLines rects inner lines offset = .ok (lineHits inner lines offset) := by
  obtain ⟨hright, hbottom⟩ := hfits
  induction lines with
  | nil => exact fun _ _ => rfl
  | cons line rest ih =>
    intro offset hroom
    rw [List.length_cons] at hroom
    have hoffset : (UInt16.ofNat offset).toNat = offset := by
      rw [UInt16.toNat_ofNat']
      omega
    have hone : (1 : UInt16).toNat = 1 := rfl
    have hrow : inner.y.toNat + (UInt16.ofNat offset).toNat < 65536 := by omega
    have hlineFits : (⟨inner.x, inner.y + UInt16.ofNat offset, inner.width, 1⟩ : Rect).Fits :=
      ⟨hright, by dsimp only; rw [toNat_add_of_fits hrow]; omega⟩
    rw [renderOverlayLines, checkedAdd_of_fits hrow, Lib.Check.ok_bind, ih (offset + 1) (by omega),
      Lib.Check.ok_bind, lineHits_cons]
    cases line.action with
    | none => rfl
    | some action =>
      dsimp only
      rw [rects.rectNew_of_fits _ hlineFits]
      rfl

/-- The cell belongs to a visible line of the box that does something. -/
def OnActionLine (box : Rect) (overlay : TuiOverlay) (x y : UInt16) : Prop :=
  ∃ index line, overlay.lines[index]? = some line ∧ line.action.isSome ∧
    index + 2 < box.height.toNat ∧ y.toNat = box.y.toNat + 1 + index ∧
    box.x.toNat < x.toNat ∧ x.toNat + 1 < box.x.toNat + box.width.toNat

theorem OnActionLine.mem_cells {box : Rect} {x y : UInt16} (h : OnActionLine box overlay x y) :
    (x.toNat, y.toNat) ∈ box.cells := by
  obtain ⟨index, line, -, -, hindex, hrow, hleft, hright⟩ := h
  rw [Rect.mem_cells]
  dsimp only
  omega

/-- The regions of the overlay are those cells, and overlay actions. -/
theorem lineHits_contain {box inner : Rect} (hfits : box.Fits) (hinside : Inside inner box)
    (overlay : TuiOverlay) (x y : UInt16) :
    (∀ hit ∈ lineHits inner (overlay.lines.take inner.height.toNat) 0,
      (∃ action, hit.target = .overlay action) ∧
        (rectContains hit.rect x y = true → OnActionLine box overlay x y)) ∧
    (OnActionLine box overlay x y →
      ∃ hit ∈ lineHits inner (overlay.lines.take inner.height.toNat) 0,
        rectContains hit.rect x y = true) := by
  obtain ⟨hx, hy, hwidth, hheight, -, -⟩ := hinside
  obtain ⟨hright, hbottom⟩ := hfits
  have hone : (1 : UInt16).toNat = 1 := rfl
  have hmem (line : TuiOverlayLine) (index : ℕ) :
      (line, index) ∈ (overlay.lines.take inner.height.toNat).zipIdx 0 ↔
        index < inner.height.toNat ∧ overlay.lines[index]? = some line := by
    rw [List.mem_zipIdx_iff_getElem?, List.getElem?_take]
    split
    case isTrue hlt => exact (and_iff_right hlt).symm
    case isFalse hge => exact iff_of_false (by simp) fun h => hge h.1
  -- a row of the inner rectangle, by the index of its line
  have hcell (index : ℕ) (hindex : index < inner.height.toNat) :
      rectContains ⟨inner.x, inner.y + UInt16.ofNat index, inner.width, 1⟩ x y = true ↔
        y.toNat = box.y.toNat + 1 + index ∧ box.x.toNat < x.toNat ∧
          x.toNat + 1 < box.x.toNat + box.width.toNat := by
    have hoffset : (UInt16.ofNat index).toNat = index := by
      rw [UInt16.toNat_ofNat']
      omega
    have hrow : (inner.y + UInt16.ofNat index).toNat = inner.y.toNat + index := by
      rw [toNat_add_of_fits (by omega), hoffset]
    rw [rectContains_iff ⟨by dsimp only; omega, by dsimp only; omega⟩, Rect.mem_cells]
    dsimp only
    omega
  refine ⟨fun hit hhit => ?_, fun h => ?_⟩
  · obtain ⟨⟨line, index⟩, hentry, hline⟩ := List.mem_filterMap.mp hhit
    obtain ⟨hindex, hget⟩ := (hmem line index).mp hentry
    obtain ⟨action, haction, rfl⟩ := Option.map_eq_some_iff.mp hline
    refine ⟨⟨action, rfl⟩, fun hcontains => ⟨index, line, hget, ?_, by omega, (hcell index hindex).mp hcontains⟩⟩
    rw [Option.isSome_iff_exists]
    exact ⟨action, haction⟩
  · obtain ⟨index, line, hget, haction, hindex, hon⟩ := h
    obtain ⟨action, haction⟩ := Option.isSome_iff_exists.mp haction
    refine ⟨⟨⟨inner.x, inner.y + UInt16.ofNat index, inner.width, 1⟩, .overlay action⟩, ?_,
      (hcell index (by omega)).mpr hon⟩
    refine List.mem_filterMap.mpr ⟨(line, index), (hmem line index).mpr ⟨by omega, hget⟩, ?_⟩
    dsimp only
    rw [haction]
    rfl

/-- The overlay of a frame with room for it: its box and the regions of its lines. -/
theorem renderOverlay_ok {box : Rect} (harea : overlayArea rects ⟨0, 0, cols, rows⟩ overlay = .ok (some box))
    (hbox : OverlayBox cols rows box) :
    ∃ inner, Inside inner box ∧ renderOverlay rects ⟨0, 0, cols, rows⟩ overlay =
      .ok (lineHits inner (overlay.lines.take inner.height.toNat) 0) := by
  obtain ⟨hwide, htall, hright, hbottom, -⟩ := hbox
  have hlt := cols.toNat_lt
  have hlt' := rows.toNat_lt
  have htwo : (2 : UInt16).toNat = 2 := rfl
  have hfits : box.Fits := ⟨by omega, by omega⟩
  have hlarge : ¬(box.width ≤ 2 ∨ box.height ≤ 2) := by
    rw [UInt16.le_iff_toNat_le, UInt16.le_iff_toNat_le]
    omega
  have hcontent : contentArea box = some ⟨box.x + 1, box.y + 1, box.width - 2, box.height - 2⟩ :=
    if_neg hlarge
  have hinside := contentArea_inside hfits hcontent
  refine ⟨_, hinside, ?_⟩
  rw [renderOverlay_eq, harea, Lib.Check.ok_bind]
  dsimp only
  rw [inset_eq hfits, hcontent, Lib.Check.ok_bind]
  exact renderOverlayLines_eq (hinside.fits hfits) _ 0
    (by rw [List.length_take]; omega)

/-! ### Hits -/

theorem hitTestRegion_append (first second : List HitRegion) (x y : UInt16) :
    hitTestRegion (first ++ second) x y = (hitTestRegion second x y).or (hitTestRegion first x y) := by
  rw [hitTestRegion, List.reverse_append, List.find?_append]
  rfl

theorem hitTestRegion_some {hits : List HitRegion} {x y : UInt16} {hit : HitRegion}
    (h : hitTestRegion hits x y = some hit) : hit ∈ hits ∧ rectContains hit.rect x y = true :=
  ⟨List.mem_reverse.mp (List.mem_of_find?_eq_some h),
    List.find?_some (p := fun hit : HitRegion => rectContains hit.rect x y) h⟩

theorem hitTestRegion_none {hits : List HitRegion} {x y : UInt16} :
    hitTestRegion hits x y = none ↔ ∀ hit ∈ hits, rectContains hit.rect x y = false := by
  rw [hitTestRegion, List.find?_eq_none]
  simp only [List.mem_reverse, Bool.not_eq_true]

/-- The panes leave no cell of their region free. -/
theorem paneLeaves_cover {cell : ℕ × ℕ} (hcell : cell ∈ paneRegion workspace cols rows) :
    ∃ leaf ∈ paneLeaves workspace cols rows, cell ∈ leaf.2.cells := by
  unfold paneLeaves
  by_cases hnone : cols = 0 ∨ rows ≤ menuHeight
  · rw [paneRegion_empty hnone] at hcell
    cases hcell
  · have hlarge := rows_of_not_le (not_or.mp hnone).2
    rw [if_neg hnone]
    rw [← paneFrame_cells hlarge] at hcell
    cases workspace.paneTree with
    | some root => exact leafAreas_cover root (paneFrame_fits workspace cols hlarge) hcell
    | none => exact ⟨_, List.mem_singleton_self _, hcell⟩

/-- A click in the region of the panes hits one of them. -/
theorem hitTestRegion_leaves {x y : UInt16} (hcell : (x.toNat, y.toNat) ∈ paneRegion workspace cols rows) :
    ∃ hit paneId, hitTestRegion ((paneLeaves workspace cols rows).flatMap leafHits) x y = some hit ∧
      (hit.target = .pane paneId ∨ hit.target = .paneContent paneId) := by
  obtain ⟨leaf, hleaf, hin⟩ := paneLeaves_cover hcell
  have hfits := (paneLeaves_within hleaf).fits (frameSize_fits cols rows)
  have hchrome : (⟨leaf.2, .pane leaf.1⟩ : HitRegion) ∈ (paneLeaves workspace cols rows).flatMap leafHits :=
    List.mem_flatMap.mpr ⟨leaf, hleaf, mem_leafHits.mpr (.inl rfl)⟩
  cases hhit : hitTestRegion ((paneLeaves workspace cols rows).flatMap leafHits) x y with
  | none =>
    have := hitTestRegion_none.mp hhit _ hchrome
    rw [(rectContains_iff hfits x y).mpr hin] at this
    cases this
  | some hit =>
    obtain ⟨other, -, hother⟩ := List.mem_flatMap.mp (hitTestRegion_some hhit).1
    rcases mem_leafHits.mp hother with rfl | ⟨inner, -, rfl⟩
    · exact ⟨_, other.1, rfl, .inl rfl⟩
    · exact ⟨_, other.1, rfl, .inr rfl⟩

/-- `hit_test_region` over the regions of the frame. -/
def frameHit (rects : RectLibrary) (workspace : WorkspaceSummary) (overlay : Option TuiOverlay)
    (cols rows x y : UInt16) : Except String (Option HitRegion) := do
  return hitTestRegion (← renderWorkspaceFrame rects workspace overlay cols rows) x y

theorem frameHit_eq {overlay : Option TuiOverlay} {hits : List HitRegion}
    (h : renderWorkspaceFrame rects workspace overlay cols rows = .ok hits) (x y : UInt16) :
    frameHit rects workspace overlay cols rows x y = .ok (hitTestRegion hits x y) := by
  rw [frameHit, h]
  rfl

/-- A click at the cell goes to what is painted there. -/
structure CellAgrees (rects : RectLibrary) (workspace : WorkspaceSummary) (overlay : TuiOverlay)
    (cols rows : UInt16) (box : Rect) (x y : UInt16) : Prop where
  /-- Nothing of the workspace is hit through the box. -/
  covered : (x.toNat, y.toNat) ∈ box.cells →
    ∃ hit, frameHit rects workspace (some overlay) cols rows x y = .ok (some hit) ∧
      ((∃ action, hit.target = .overlay action) ∨ hit.target = .background)
  /-- Beside the box the overlay changes nothing. -/
  unchanged : (x.toNat, y.toNat) ∉ box.cells →
    frameHit rects workspace (some overlay) cols rows x y = frameHit rects workspace none cols rows x y
  /-- No pane gets a mouse report through the box, in a terminal of that frame. -/
  silent : (x.toNat, y.toNat) ∈ box.cells →
    ∀ mouse paneModes activeModes terminalCols terminalRows paneId input,
      checkedWord mouse.col = some x → checkedWord mouse.row = some y →
      max terminalCols 1 = cols → max (saturatingSub terminalRows 1) 1 = rows →
      liveMouseDispatchForWorkspaceSize rects mouse workspace paneModes activeModes (some overlay)
        terminalCols terminalRows ≠ .ok (some (.paneMouse paneId input))

/-- A report goes to a pane only where a click hits the content of one. -/
theorem liveMouseDispatch_silent {x y : UInt16} {hit : HitRegion}
    (hhit : frameHit rects workspace (some overlay) cols rows x y = .ok (some hit))
    (htarget : (∃ action, hit.target = .overlay action) ∨ hit.target = .background) {mouse : SgrMouseInput}
    {paneModes : Option (OrderedMap String TerminalModeSummary)} {activeModes : TerminalModeSummary}
    {terminalCols terminalRows : UInt16} {paneId : String} {input : AttachMouseInput}
    (hx : checkedWord mouse.col = some x) (hy : checkedWord mouse.row = some y)
    (hcols : max terminalCols 1 = cols) (hrows : max (saturatingSub terminalRows 1) 1 = rows) :
    liveMouseDispatchForWorkspaceSize rects mouse workspace paneModes activeModes (some overlay)
      terminalCols terminalRows ≠ .ok (some (.paneMouse paneId input)) := by
  intro h
  unfold liveMouseDispatchForWorkspaceSize at h
  unfold frameHit at hhit
  dsimp only at h
  rw [hcols, hrows] at h
  obtain ⟨hits, hhits, hfound⟩ := Lib.Check.bind_eq_ok.mp hhit
  have hfound : hitTestRegion hits x y = some hit := Except.ok.inj hfound
  rw [hhits, Lib.Check.ok_bind, hx, hy] at h
  have hdispatch := Except.ok.inj h
  rw [Option.bind_eq_bind, Option.bind_some, Option.bind_eq_bind, Option.bind_some, hfound] at hdispatch
  have hpane := dispatchHit_paneMouse hdispatch
  rcases htarget with ⟨action, htarget⟩ | htarget
  · rw [hpane] at htarget
    cases htarget
  · rw [hpane] at htarget
    cases htarget

/-! ### What a click hits -/

/-- The three kinds of hits in a frame with an overlay: beside the box what was there, on a line that
does something that line, and on the rest of the box again what was there. -/
theorem frameHit_overlay (rects : RectLibrary) (workspace : WorkspaceSummary) (overlay : TuiOverlay)
    {box : Rect} (hwide : 12 ≤ cols) (htall : 5 ≤ rows)
    (harea : overlayArea rects ⟨0, 0, cols, rows⟩ overlay = .ok (some box))
    (hbox : OverlayBox cols rows box) (x y : UInt16) :
    (OnActionLine box overlay x y → ∃ hit action,
      frameHit rects workspace (some overlay) cols rows x y = .ok (some hit) ∧
        hit.target = .overlay action) ∧
    (¬OnActionLine box overlay x y →
      frameHit rects workspace (some overlay) cols rows x y =
        frameHit rects workspace none cols rows x y) := by
  have hcols : cols ≠ 0 := fun h => absurd (h ▸ hwide) (by decide)
  have hrows : ¬rows ≤ menuHeight := fun h => by
    have h5 : (5 : UInt16).toNat = 5 := rfl
    have hmenu : menuHeight.toNat = 1 := rfl
    have := UInt16.le_iff_toNat_le.mp h
    have := UInt16.le_iff_toNat_le.mp htall
    omega
  have hfits : box.Fits := by
    have := cols.toNat_lt
    have := rows.toNat_lt
    have := hbox.right
    have := hbox.bottom
    exact ⟨by omega, by omega⟩
  obtain ⟨frame, hframe, -⟩ := renderWorkspaceFrame_eq rects workspace cols rows
  obtain ⟨inner, hinside, hlines⟩ := renderOverlay_ok harea hbox
  obtain ⟨hsound, hcomplete⟩ := lineHits_contain hfits hinside overlay x y
  have hwith : renderWorkspaceFrame rects workspace (some overlay) cols rows =
      .ok (frame ++ (paneLeaves workspace cols rows).flatMap leafHits ++
        lineHits inner (overlay.lines.take inner.height.toNat) 0) := by
    rw [renderWorkspaceFrame_overlay hcols hrows, hframe, hlines]
    rfl
  rw [frameHit_eq hwith, frameHit_eq hframe, hitTestRegion_append]
  refine ⟨fun hon => ?_, fun hoff => ?_⟩
  · obtain ⟨line, hline, hcontains⟩ := hcomplete hon
    cases hhit : hitTestRegion (lineHits inner (overlay.lines.take inner.height.toNat) 0) x y with
    | none =>
      rw [hitTestRegion_none.mp hhit line hline] at hcontains
      cases hcontains
    | some hit =>
      obtain ⟨action, haction⟩ := (hsound hit (hitTestRegion_some hhit).1).1
      exact ⟨hit, action, rfl, haction⟩
  · have hnone : hitTestRegion (lineHits inner (overlay.lines.take inner.height.toNat) 0) x y = none :=
      hitTestRegion_none.mpr fun hit hhit =>
        Bool.eq_false_iff.mpr fun hcontains => hoff ((hsound hit hhit).2 hcontains)
    rw [hnone, Option.none_or]

/-- Beside the panes only the background has no target, and no region without an overlay is one of
an overlay. -/
theorem frameHit_none (rects : RectLibrary) (workspace : WorkspaceSummary) (cols rows x y : UInt16) :
    (∀ hit, frameHit rects workspace none cols rows x y = .ok (some hit) →
      ∀ action, hit.target ≠ .overlay action) ∧
    ((x.toNat, y.toNat) ∈ paneRegion workspace cols rows → ∃ hit,
      frameHit rects workspace none cols rows x y = .ok (some hit) ∧ hit.target ≠ .background) := by
  obtain ⟨frame, hframe, hall⟩ := renderWorkspaceFrame_eq rects workspace cols rows
  rw [frameHit_eq hframe]
  refine ⟨fun hit hhit action htarget => ?_, fun hcell => ?_⟩
  · have hmem := (hitTestRegion_some (Except.ok.inj hhit)).1
    rcases List.mem_append.mp hmem with hmem | hmem
    · rcases (hall hit hmem).target with h | ⟨_, h⟩ | ⟨_, h⟩ <;> rw [h] at htarget <;> cases htarget
    · obtain ⟨leaf, -, hleaf⟩ := List.mem_flatMap.mp hmem
      rcases mem_leafHits.mp hleaf with rfl | ⟨inner, -, rfl⟩ <;> cases htarget
  · obtain ⟨hit, paneId, hhit, htarget⟩ := hitTestRegion_leaves hcell
    refine ⟨hit, ?_, fun hback => ?_⟩
    · rw [hitTestRegion_append, hhit, Option.some_or]
    · rcases htarget with h | h <;> rw [h] at hback <;> cases hback

/-- The last cell of the box, which is none of a line. -/
theorem OverlayBox.corner {box : Rect} (hbox : OverlayBox cols rows box) (overlay : TuiOverlay)
    (workspace : WorkspaceSummary) : ∃ x y : UInt16, (x.toNat, y.toNat) ∈ box.cells ∧
      ¬OnActionLine box overlay x y ∧ (x.toNat, y.toNat) ∈ paneRegion workspace cols rows := by
  obtain ⟨hwide, htall, hright, hbottom, hcentred⟩ := hbox
  have hlt := cols.toNat_lt
  have hlt' := rows.toNat_lt
  have hx : (UInt16.ofNat (box.x.toNat + box.width.toNat - 1)).toNat =
      box.x.toNat + box.width.toNat - 1 := by
    rw [UInt16.toNat_ofNat']
    omega
  have hy : (UInt16.ofNat (box.y.toNat + box.height.toNat - 1)).toNat =
      box.y.toNat + box.height.toNat - 1 := by
    rw [UInt16.toNat_ofNat']
    omega
  refine ⟨UInt16.ofNat (box.x.toNat + box.width.toNat - 1),
    UInt16.ofNat (box.y.toNat + box.height.toNat - 1), ?_, ?_, ?_⟩
  · rw [Rect.mem_cells, hx, hy]
    dsimp only
    omega
  · rintro ⟨index, line, -, -, -, -, -, hbefore⟩
    rw [hx] at hbefore
    omega
  · have hmenu : menuHeight.toNat = 1 := rfl
    rw [hx, hy]
    refine ⟨by dsimp only; omega, by dsimp only; omega, by dsimp only; omega, ?_⟩
    -- a window tree takes less than the left half of the frame
    by_cases htree : treeWidthFor cols workspace.paneTree = 0
    · exact .inl htree
    · obtain ⟨hnarrow, hcols⟩ := treeWidthFor_le htree
      exact .inr (by dsimp only; omega)

/-- **A click on an overlay goes to what is painted there exactly on its lines with an action, and
where nothing but the background is underneath**; beside the box it goes where it always did. Every
painted overlay has a cell where it does not: the box itself is no region. -/
theorem overlay_hits_iff (rects : RectLibrary) (workspace : WorkspaceSummary) (overlay : TuiOverlay)
    (cols rows : UInt16) (hcols : 12 ≤ cols) (hrows : 5 ≤ rows) :
    ∃ box, overlayArea rects ⟨0, 0, cols, rows⟩ overlay = .ok (some box) ∧
      (∀ x y, CellAgrees rects workspace overlay cols rows box x y ↔
        (x.toNat, y.toNat) ∉ box.cells ∨ OnActionLine box overlay x y ∨
          ∃ hit, frameHit rects workspace none cols rows x y = .ok (some hit) ∧
            hit.target = .background) ∧
      ∃ x y, ¬CellAgrees rects workspace overlay cols rows box x y := by
  obtain ⟨box, harea, hbox⟩ := overlayArea_ok rects overlay hcols hrows
  have hhits := frameHit_overlay rects workspace overlay hcols hrows harea hbox
  have hiff (x y : UInt16) : CellAgrees rects workspace overlay cols rows box x y ↔
      (x.toNat, y.toNat) ∉ box.cells ∨ OnActionLine box overlay x y ∨
        ∃ hit, frameHit rects workspace none cols rows x y = .ok (some hit) ∧
          hit.target = .background := by
    refine ⟨fun h => ?_, fun h => ?_⟩
    · by_cases hcell : (x.toNat, y.toNat) ∈ box.cells
      · by_cases hon : OnActionLine box overlay x y
        · exact .inr (.inl hon)
        · obtain ⟨hit, hhit, htarget⟩ := h.covered hcell
          rw [(hhits x y).2 hon] at hhit
          refine .inr (.inr ⟨hit, hhit, htarget.resolve_left ?_⟩)
          rintro ⟨action, haction⟩
          exact (frameHit_none rects workspace cols rows x y).1 hit hhit action haction
      · exact .inl hcell
    · have hcovered : (x.toNat, y.toNat) ∈ box.cells →
          ∃ hit, frameHit rects workspace (some overlay) cols rows x y = .ok (some hit) ∧
            ((∃ action, hit.target = .overlay action) ∨ hit.target = .background) := by
        intro hcell
        by_cases hon : OnActionLine box overlay x y
        · obtain ⟨hit, action, hhit, haction⟩ := (hhits x y).1 hon
          exact ⟨hit, hhit, .inl ⟨action, haction⟩⟩
        · obtain ⟨hit, hhit, hback⟩ := (h.resolve_left (not_not_intro hcell)).resolve_left hon
          exact ⟨hit, ((hhits x y).2 hon).trans hhit, .inr hback⟩
      refine ⟨hcovered, fun hcell => (hhits x y).2 fun hon => hcell (hon.mem_cells), ?_⟩
      intro hcell mouse paneModes activeModes terminalCols terminalRows paneId input hx hy hwidth hheight
      obtain ⟨hit, hhit, htarget⟩ := hcovered hcell
      exact liveMouseDispatch_silent hhit htarget hx hy hwidth hheight
  obtain ⟨x, y, hcell, hoff, hregion⟩ := hbox.corner overlay workspace
  refine ⟨box, harea, hiff, x, y, fun h => ?_⟩
  -- a pane is under the last cell of the box
  obtain ⟨hit, hhit, hback⟩ := (((hiff x y).mp h).resolve_left (not_not_intro hcell)).resolve_left hoff
  obtain ⟨other, hother, hpane⟩ := (frameHit_none rects workspace cols rows x y).2 hregion
  rw [hhit] at hother
  cases hother
  exact hpane hback

/-- The menu of windows over a workspace of two panes. -/
def windowsOverlay : TuiOverlay where
  title := "windows"
  lines := [⟨"tab tab-1", none⟩, ⟨"* tab-1 one", none⟩, ⟨"  pane-1 40x24", some (.focusPane "pane-1")⟩,
    ⟨"* pane-2 40x24", none⟩]
  selected := some 2

/-- A press of the left button on the last line of the box is reported to the pane underneath, whose
program tracks the mouse. -/
theorem paneMouse_through_overlay :
    overlayArea limitedRects ⟨0, 0, 100, 20⟩ windowsOverlay = .ok (some ⟨41, 6, 18, 8⟩) ∧
      ¬CellAgrees limitedRects splitWorkspace windowsOverlay 100 20 ⟨41, 6, 18, 8⟩ 50 10 := by
  refine ⟨by decide +kernel, fun h => ?_⟩
  have hdispatch : liveMouseDispatchForWorkspaceSize limitedRects ⟨10, 50, .left, .press, 0⟩ splitWorkspace
      (some (OrderedMap.empty.insert "pane-1" { TerminalModes.default with mouseTracking := true }))
      TerminalModes.default (some windowsOverlay) 100 21 =
        .ok (some (.paneMouse "pane-1" ⟨8, 23, none, none, .left, .press, 0⟩)) := by decide +kernel
  have hcell : ((50 : UInt16).toNat, (10 : UInt16).toNat) ∈ Rect.cells ⟨41, 6, 18, 8⟩ := by
    rw [Rect.mem_cells]
    decide
  exact h.silent hcell _ _ _ _ _ _ _ (by decide) (by decide) (by decide) (by decide) hdispatch

/-- In a frame of 100 columns and 20 rows the box of that menu has such a cell. -/
theorem overlay_hits_windowsOverlay :
    ∃ box, overlayArea limitedRects ⟨0, 0, 100, 20⟩ windowsOverlay = .ok (some box) ∧
      ∃ x y, ¬CellAgrees limitedRects splitWorkspace windowsOverlay 100 20 box x y := by
  obtain ⟨box, harea, -, hmissed⟩ :=
    overlay_hits_iff limitedRects splitWorkspace windowsOverlay 100 20 (by decide) (by decide)
  exact ⟨box, harea, hmissed⟩

end Nmux.Tui
