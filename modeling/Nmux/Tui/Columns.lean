import Nmux.Ghostty.Cells
import Nmux.Tui.Structured
import Nmux.Tui.Tiling

/-! The columns of a row. The terminal library gives each cell of a row a column; on the screen the
characters of the row are drawn one after the other. A cell shows its text at its column as long as no
cell up to it has a text of more than one character. -/
namespace Nmux.Tui

open Client (CellRunSummary StyleSummary SurfaceRowUpdate)
open Ghostty (Clustered DrawnCell Faithful GridCell Single cellGlyph columns drawnCells extractRow rowGlyphs
  textGlyphs)
open Lib.Word16

/-! ### Single cells of a buffer -/

/-- The area lies in the buffer. -/
structure Within (area : Rect) (buffer : Buffer) : Prop where
  fits : buffer.area.Fits
  left : buffer.area.x.toNat ≤ area.x.toNat
  right : area.x.toNat + area.width.toNat ≤ buffer.area.x.toNat + buffer.area.width.toNat
  top : buffer.area.y.toNat ≤ area.y.toNat
  bottom : area.y.toNat + area.height.toNat ≤ buffer.area.y.toNat + buffer.area.height.toNat

/-- The symbol in a cell of the buffer. -/
def Buffer.symbol (buffer : Buffer) (x y : UInt16) : String := (buffer.cell x y).symbol

section
variable {buffer : Buffer} {area : Rect} {x y column row maxX : UInt16} {symbol : String} {style : Style}

theorem setCell_area (buffer : Buffer) (x y : UInt16) (symbol : String) (style : Style) :
    (setCell buffer x y symbol style).area = buffer.area := by
  unfold setCell
  split <;> rfl

theorem setCell_symbol_self (h : buffer.area.contains x y = true) :
    (setCell buffer x y symbol style).symbol x y = symbol := by
  unfold setCell Buffer.symbol
  rw [if_pos h]
  dsimp only
  rw [if_pos ⟨rfl, rfl⟩]
  rfl

theorem setCell_symbol_of_ne (h : column ≠ x ∨ row ≠ y) :
    (setCell buffer x y symbol style).symbol column row = buffer.symbol column row := by
  unfold setCell Buffer.symbol
  split
  · dsimp only
    rw [if_neg (by rw [not_and_or]; exact h)]
  · rfl

/-- A cell of the buffer shows one character. -/
def OneCharacter (buffer : Buffer) (x y : UInt16) : Prop := ∃ ch, buffer.symbol x y = String.singleton ch

theorem OneCharacter.setCell (h : OneCharacter buffer column row) (ch : Char) :
    OneCharacter (setCell buffer x y (String.singleton ch) style) column row := by
  by_cases hsame : column = x ∧ row = y
  · obtain ⟨rfl, rfl⟩ := hsame
    by_cases hinside : buffer.area.contains column row = true
    · exact ⟨ch, setCell_symbol_self hinside⟩
    · rw [Tui.setCell, if_neg hinside]
      exact h
  · obtain ⟨other, hother⟩ := h
    exact ⟨other, (setCell_symbol_of_ne (not_and_or.mp hsame)).trans hother⟩

/-! ### Glyphs -/

/-- What holds of a buffer and is kept by every drawn character holds after the glyphs. -/
theorem renderGlyphs_keeps {P : Buffer → Prop} {glyphs : List Glyph}
    (hstep : ∀ buffer x ch style, P buffer → P (setCell buffer x y (String.singleton ch) style))
    (h : P buffer) : P (renderGlyphs maxX y glyphs buffer x).1 := by
  induction glyphs generalizing buffer x with
  | nil => exact h
  | cons glyph rest ih =>
    unfold renderGlyphs
    split
    · exact h
    · split
      · exact ih h
      · dsimp only
        split
        · exact ih h
        · exact ih (hstep _ _ _ _ h)

/-- What is left of the start stays. -/
theorem renderGlyphs_left {glyphs : List Glyph} (h : column.toNat < x.toNat) :
    (renderGlyphs maxX y glyphs buffer x).1.symbol column row = buffer.symbol column row := by
  induction glyphs generalizing buffer x with
  | nil => rfl
  | cons glyph rest ih =>
    unfold renderGlyphs
    split
    · rfl
    · split
      · exact ih h
      · have hnext : column.toNat < (saturatingAdd x glyph.width.toUInt16).toNat := by
          have hmax := x.toNat_lt
          rw [toNat_saturatingAdd]
          omega
        dsimp only
        rw [ih hnext]
        split
        · rfl
        · exact setCell_symbol_of_ne (.inl fun heq => by rw [heq] at h; omega)

/-- The columns that some glyphs take. -/
def glyphColumns (glyphs : List Glyph) : ℕ := (glyphs.map fun glyph => glyph.width.toNat).sum

/-- The place behind a glyph. -/
theorem toNat_next {glyph : Glyph} (h : x.toNat + glyph.width.toNat < 65536) :
    (saturatingAdd x glyph.width.toUInt16).toNat = x.toNat + glyph.width.toNat := by
  have hwidth : glyph.width.toUInt16.toNat = glyph.width.toNat := UInt8.toNat_toUInt16 _
  rw [toNat_saturatingAdd, hwidth]
  omega

/-- What is right of all glyphs stays. -/
theorem renderGlyphs_right {glyphs : List Glyph} (hpositive : ∀ glyph ∈ glyphs, 0 < glyph.width.toNat)
    (h : x.toNat + glyphColumns glyphs ≤ column.toNat) :
    (renderGlyphs maxX y glyphs buffer x).1.symbol column row = buffer.symbol column row := by
  induction glyphs generalizing buffer x with
  | nil => rfl
  | cons glyph rest ih =>
    have hglyph := hpositive glyph List.mem_cons_self
    rw [glyphColumns, List.map_cons, List.sum_cons] at h
    have hcolumn := column.toNat_lt
    unfold renderGlyphs
    split
    · rfl
    · split
      case isTrue hzero =>
        rw [hzero] at hglyph
        exact absurd hglyph (Nat.lt_irrefl 0)
      · have hnext : (saturatingAdd x glyph.width.toUInt16).toNat + glyphColumns rest ≤ column.toNat := by
          rw [toNat_next (by omega), glyphColumns]
          omega
        dsimp only
        rw [ih (fun glyph hmem => hpositive glyph (List.mem_cons_of_mem _ hmem)) hnext]
        split
        · rfl
        · exact setCell_symbol_of_ne (.inl fun heq => by rw [heq] at h; omega)

/-- A glyph is at the columns that those before it take. -/
theorem renderGlyphs_at {front rest : List Glyph} {glyph : Glyph}
    (hpositive : ∀ glyph ∈ front, 0 < glyph.width.toNat) (hglyph : 0 < glyph.width.toNat)
    (hvisible : isControl glyph.ch = false) (hcolumn : column.toNat = x.toNat + glyphColumns front)
    (hmax : column < maxX) (hinside : buffer.area.contains column y = true) :
    (renderGlyphs maxX y (front ++ glyph :: rest) buffer x).1.symbol column y =
      String.singleton glyph.ch := by
  have hmax' := UInt16.lt_iff_toNat_lt.mp hmax
  induction front generalizing buffer x with
  | nil =>
    obtain rfl : column = x := UInt16.toNat_inj.mp hcolumn
    rw [List.nil_append, renderGlyphs, if_neg (UInt16.not_le.mpr hmax), if_neg (by
      intro hzero
      rw [hzero] at hglyph
      exact absurd hglyph (Nat.lt_irrefl 0))]
    dsimp only
    rw [if_neg (by rw [hvisible]; exact Bool.false_ne_true), renderGlyphs_left, setCell_symbol_self hinside]
    rw [toNat_saturatingAdd, UInt8.toNat_toUInt16]
    have := maxX.toNat_lt
    omega
  | cons first front ih =>
    have hfirst := hpositive first List.mem_cons_self
    rw [glyphColumns, List.map_cons, List.sum_cons] at hcolumn
    have hlt := column.toNat_lt
    rw [List.cons_append, renderGlyphs, if_neg (by rw [UInt16.le_iff_toNat_le]; omega), if_neg (by
      intro hzero
      rw [hzero] at hfirst
      exact absurd hfirst (Nat.lt_irrefl 0))]
    refine ih (fun glyph hmem => hpositive glyph (List.mem_cons_of_mem _ hmem)) ?_ ?_
    · rw [toNat_next (by omega), glyphColumns]
      omega
    · split
      · exact hinside
      · rw [setCell_area]
        exact hinside

/-- At the end of the area nothing is drawn. -/
theorem renderGlyphs_stop (h : maxX ≤ x) (glyphs : List Glyph) (buffer : Buffer) :
    renderGlyphs maxX y glyphs buffer x = (buffer, x) := by
  cases glyphs with
  | nil => rfl
  | cons glyph rest => rw [renderGlyphs, if_pos h]

/-- Glyphs drawn in two pieces. -/
theorem renderGlyphs_append (front rest : List Glyph) (buffer : Buffer) (x : UInt16) :
    renderGlyphs maxX y (front ++ rest) buffer x =
      renderGlyphs maxX y rest (renderGlyphs maxX y front buffer x).1
        (renderGlyphs maxX y front buffer x).2 := by
  induction front generalizing buffer x with
  | nil => rfl
  | cons glyph front ih =>
    rw [List.cons_append]
    by_cases hend : maxX ≤ x
    · rw [renderGlyphs_stop hend, renderGlyphs_stop hend, renderGlyphs_stop hend]
    · rw [renderGlyphs.eq_2, if_neg hend, renderGlyphs.eq_2 maxX y buffer x glyph front, if_neg hend]
      split
      · exact ih _ _
      · exact ih _ _

/-- The runs of a row are drawn as its glyphs. -/
theorem renderRuns_eq (area : Rect) (styles : List StyleSummary) (runs : List CellRunSummary)
    (buffer : Buffer) (x : UInt16) :
    renderRuns y area styles runs buffer x =
      (renderGlyphs (saturatingAdd area.x area.width) y (runs.flatMap fun run => runGlyphs run styles)
        buffer x).1 := by
  induction runs generalizing buffer x with
  | nil => rfl
  | cons run rest ih =>
    rw [renderRuns, List.flatMap_cons, renderGlyphs_append]
    dsimp only [renderCellRun]
    split
    case isTrue hend => rw [renderGlyphs_stop hend]
    case isFalse => exact ih _ _

end

/-- The glyphs of a row without their styles. -/
theorem map_runGlyphs (runs : List CellRunSummary) (styles : List StyleSummary) :
    (runs.flatMap fun run => runGlyphs run styles).map (fun glyph => (glyph.ch, glyph.width)) =
      rowGlyphs runs := by
  rw [rowGlyphs, List.map_flatMap]
  refine List.flatMap_congr fun run _ => ?_
  refine List.ext_getElem? fun index => ?_
  rw [runGlyphs, textGlyphs, List.getElem?_map, List.getElem?_mapIdx, List.getElem?_mapIdx, Option.map_map]
  rfl

/-! ### Rows -/

section
variable {buffer : Buffer} {area : Rect} {styles : List StyleSummary} {row : SurfaceRowUpdate}

/-- The row of the buffer in which a row of the surface is drawn. -/
def rowOf (area : Rect) (row : UInt32) : UInt16 := area.y + (min row 65535).toUInt16

theorem renderRow_keeps {P : Buffer → Prop}
    (hstep : ∀ buffer x ch style, P buffer →
      P (setCell buffer x (rowOf area row.row) (String.singleton ch) style))
    (h : P buffer) : P (renderRow area styles buffer row) := by
  unfold renderRow
  dsimp only
  split
  · exact h
  · split
    · unfold writeText
      generalize ((terminalVisibleText row.text.toList).take area.width.toNat).zipIdx = characters
      induction characters generalizing buffer with
      | nil => exact h
      | cons character rest ih => exact ih (hstep _ _ _ _ h)
    · rw [renderRuns_eq]
      exact renderGlyphs_keeps hstep h

theorem renderRow_area (area : Rect) (styles : List StyleSummary) (buffer : Buffer) (row : SurfaceRowUpdate) :
    (renderRow area styles buffer row).area = buffer.area :=
  @renderRow_keeps buffer area styles row (fun reached => reached.area = buffer.area)
    (fun _ _ _ _ h => (setCell_area _ _ _ _ _).trans h) rfl

theorem OneCharacter.renderRow {x y : UInt16} (h : OneCharacter buffer x y) :
    OneCharacter (Tui.renderRow area styles buffer row) x y :=
  @renderRow_keeps buffer area styles row (fun reached => OneCharacter reached x y)
    (fun _ _ _ _ h => h.setCell _) h

theorem toNat_rowOffset (row : UInt32) : (min row 65535).toUInt16.toNat = min row.toNat 65535 := by
  have hmin : min row 65535 = if row ≤ 65535 then row else 65535 := rfl
  have hmax : (65535 : UInt32).toNat = 65535 := rfl
  rw [hmin, UInt32.toNat_toUInt16]
  split
  case isTrue hle =>
    rw [UInt32.le_iff_toNat_le, hmax] at hle
    omega
  case isFalse hlt =>
    rw [UInt32.le_iff_toNat_le, hmax] at hlt
    omega

/-- A row of the area is drawn where the area has it. -/
theorem toNat_rowOf {row : UInt32} (hwithin : Within area buffer) (hrow : row.toNat < area.height.toNat) :
    (rowOf area row).toNat = area.y.toNat + row.toNat := by
  have hfits := hwithin.fits.bottom
  have hbottom := hwithin.bottom
  have hheight := area.height.toNat_lt
  rw [rowOf, toNat_add_of_fits, toNat_rowOffset]
  · omega
  · rw [toNat_rowOffset]
    omega

/-- A row that is not in the area draws nothing. -/
theorem renderRow_outside (h : area.height.toNat ≤ row.row.toNat) :
    renderRow area styles buffer row = buffer := by
  unfold renderRow
  dsimp only
  have hheight := area.height.toNat_lt
  rw [if_pos]
  rw [UInt16.le_iff_toNat_le, toNat_rowOffset]
  omega

/-- Another row draws elsewhere. -/
theorem renderRow_other {other : UInt32} (hwithin : Within area buffer)
    (hother : other.toNat < area.height.toNat) (hne : row.row ≠ other) (x : UInt16) :
    (renderRow area styles buffer row).symbol x (rowOf area other) = buffer.symbol x (rowOf area other) := by
  by_cases hrow : row.row.toNat < area.height.toNat
  · refine @renderRow_keeps buffer area styles row
      (fun reached => reached.symbol x (rowOf area other) = buffer.symbol x (rowOf area other))
      (fun _ _ _ _ h => (setCell_symbol_of_ne (.inr fun heq => hne ?_)).trans h) rfl
    have hplace := congrArg UInt16.toNat heq
    rw [toNat_rowOf hwithin hother, toNat_rowOf hwithin hrow] at hplace
    exact UInt32.toNat_inj.mp (by omega)
  · rw [renderRow_outside (Nat.not_lt.mp hrow)]

/-- A row in the area, drawn as its glyphs. -/
theorem renderRow_eq (hrow : row.row.toNat < area.height.toNat) (hempty : row.runs = [] → row.text = "") :
    renderRow area styles buffer row = (renderGlyphs (saturatingAdd area.x area.width) (rowOf area row.row)
      (row.runs.flatMap fun run => runGlyphs run styles) buffer area.x).1 := by
  have hinside : ¬area.height ≤ (min row.row 65535).toUInt16 := by
    rw [UInt16.le_iff_toNat_le, toNat_rowOffset]
    omega
  unfold renderRow
  dsimp only
  rw [if_neg hinside]
  by_cases hruns : row.runs = []
  · rw [if_pos (List.isEmpty_iff.mpr hruns), hempty hruns, hruns]
    have hnothing : terminalVisibleText "".toList = [] := by
      rw [show "".toList = ([] : List Char) from rfl, terminalVisibleText]
    rw [writeText, hnothing, List.take_nil]
    rfl
  · rw [if_neg (by rwa [List.isEmpty_iff]), renderRuns_eq]
    rfl

theorem foldl_renderRow_area (rows : List SurfaceRowUpdate) (buffer : Buffer) :
    (rows.foldl (renderRow area styles) buffer).area = buffer.area := by
  induction rows generalizing buffer with
  | nil => rfl
  | cons row rows ih => exact (ih _).trans (renderRow_area _ _ _ _)

theorem Within.of_area {reached : Buffer} (h : Within area buffer) (harea : reached.area = buffer.area) :
    Within area reached :=
  ⟨harea ▸ h.fits, harea ▸ h.left, harea ▸ h.right, harea ▸ h.top, harea ▸ h.bottom⟩

theorem foldl_renderRow_other {other : UInt32} (hwithin : Within area buffer)
    (hother : other.toNat < area.height.toNat) {rows : List SurfaceRowUpdate}
    (hne : ∀ row ∈ rows, row.row ≠ other) (x : UInt16) :
    (rows.foldl (renderRow area styles) buffer).symbol x (rowOf area other) =
      buffer.symbol x (rowOf area other) := by
  induction rows generalizing buffer with
  | nil => rfl
  | cons row rows ih =>
    rw [List.foldl_cons, ih (hwithin.of_area (renderRow_area _ _ _ _))
      fun row hrow => hne row (List.mem_cons_of_mem _ hrow)]
    exact renderRow_other hwithin hother (hne row List.mem_cons_self) x

theorem OneCharacter.foldl_renderRow {x y : UInt16} (h : OneCharacter buffer x y)
    (rows : List SurfaceRowUpdate) : OneCharacter (rows.foldl (Tui.renderRow area styles) buffer) x y := by
  induction rows generalizing buffer with
  | nil => exact h
  | cons row rows ih => exact ih h.renderRow

end

/-! ### Columns -/

/-- The cell at an index of a row has its columns in the area. -/
def FitsAt (area : Rect) (cells : List DrawnCell) (index : ℕ) (cell : DrawnCell) : Prop :=
  cells[index]? = some cell ∧ columns (cells.take index) + cell.2.toNat ≤ area.width.toNat

/-- Every cell of a row that fits into the area has its text at its column. -/
def PlacesRow (buffer : Buffer) (area : Rect) (row : UInt32) (cells : List DrawnCell) : Prop :=
  row.toNat < area.height.toNat → ∀ index cell, FitsAt area cells index cell →
    buffer.symbol (area.x + UInt16.ofNat (columns (cells.take index))) (area.y + row.toUInt16) =
      String.ofList cell.1

/-- Every cell of a row that fits into the area has a text of one character. -/
def SingleWhereFits (area : Rect) (row : UInt32) (cells : List DrawnCell) : Prop :=
  row.toNat < area.height.toNat → ∀ index cell, FitsAt area cells index cell → Single cell

section
variable {buffer : Buffer} {area : Rect} {cells : List DrawnCell} {glyphs : List (Char × UInt8)}

theorem columns_take_le (cells : List DrawnCell) {index other : ℕ} (h : index ≤ other) :
    columns (cells.take index) ≤ columns (cells.take other) := by
  have htake : cells.take index = (cells.take other).take index := by
    rw [List.take_take, Nat.min_eq_left h]
  rw [htake]
  conv_rhs => rw [← List.take_append_drop index (cells.take other)]
  rw [columns, columns, List.map_append, List.sum_append]
  exact Nat.le_add_right _ _

/-- What comes before a cell that fits, fits. -/
theorem FitsAt.before {index other : ℕ} {cell : DrawnCell} (h : FitsAt area cells index cell)
    (hlt : other < index) {before : DrawnCell} (hbefore : cells[other]? = some before) :
    FitsAt area cells other before := by
  refine ⟨hbefore, ?_⟩
  have hsucc : columns (cells.take (other + 1)) = columns (cells.take other) + before.2.toNat := by
    rw [List.take_add_one, hbefore, columns, List.map_append, List.sum_append]
    simp [columns]
  have hle := columns_take_le cells (show other + 1 ≤ index from hlt)
  have hfits := h.2
  omega

/-- Glyphs that show cells have their widths. -/
theorem map_take_widths {count : ℕ} (hsingle : ∀ cell ∈ cells.take count, Single cell)
    (hshow : ∀ index < count, glyphs[index]? = cells[index]?.bind cellGlyph) :
    (glyphs.take count).map Prod.snd = (cells.take count).map Prod.snd := by
  refine List.ext_getElem? fun index => ?_
  rw [List.getElem?_map, List.getElem?_map]
  by_cases hindex : index < count
  · rw [List.getElem?_take_of_lt hindex, List.getElem?_take_of_lt hindex, hshow index hindex]
    cases hcell : cells[index]? with
    | none => rfl
    | some cell =>
      obtain ⟨ch, hch⟩ := List.length_eq_one_iff.mp (hsingle cell (List.mem_take_iff_getElem.mpr
        ⟨index, by have := (List.getElem?_eq_some_iff.mp hcell).1; omega, (List.getElem?_eq_some_iff.mp hcell).2⟩))
      rw [Option.bind_some, cellGlyph, hch]
      rfl
  · rw [List.getElem?_eq_none (by rw [List.length_take]; omega),
      List.getElem?_eq_none (by rw [List.length_take]; omega)]
    rfl

/-- The place of a cell that fits. -/
theorem FitsAt.toNat_column {index : ℕ} {cell : DrawnCell} (h : FitsAt area cells index cell)
    (hwithin : Within area buffer) :
    (area.x + UInt16.ofNat (columns (cells.take index))).toNat =
      area.x.toNat + columns (cells.take index) := by
  have hfits := hwithin.fits.right
  have hright := hwithin.right
  have hcolumns := h.2
  have hsmall : (UInt16.ofNat (columns (cells.take index))).toNat = columns (cells.take index) :=
    UInt16.toNat_ofNat_of_lt' (by show _ < 65536; omega)
  rw [toNat_add_of_fits, hsmall]
  rw [hsmall]
  omega

theorem rowOf_eq {row : UInt32} (hrow : row.toNat < area.height.toNat) :
    rowOf area row = area.y + row.toUInt16 := by
  have hheight := area.height.toNat_lt
  have hsame : (min row 65535).toUInt16 = row.toUInt16 := by
    apply UInt16.toNat_inj.mp
    rw [toNat_rowOffset, UInt32.toNat_toUInt16]
    omega
  rw [rowOf, hsame]

theorem Within.contains {x y : UInt16} (h : Within area buffer) (hleft : area.x.toNat ≤ x.toNat)
    (hright : x.toNat < area.x.toNat + area.width.toNat) (htop : area.y.toNat ≤ y.toNat)
    (hbottom : y.toNat < area.y.toNat + area.height.toNat) : buffer.area.contains x y = true := by
  have := h.left
  have := h.right
  have := h.top
  have := h.bottom
  have := h.fits.right
  have := h.fits.bottom
  simp only [Rect.contains, Bool.and_eq_true, decide_eq_true_eq, UInt16.le_iff_toNat_le,
    UInt16.lt_iff_toNat_lt, toNat_saturatingAdd]
  omega

/-- What is known of the cells of a row: they take columns, and their texts have no control character. -/
structure Visible (cell : DrawnCell) : Prop where
  width : 0 < cell.2.toNat
  text : ∀ ch ∈ cell.1, isControl ch = false

/-- Glyphs that show cells are drawn at the columns of the cells. -/
theorem renderGlyphs_places {styled : List Glyph} {y : UInt16} (hwithin : Within area buffer)
    (hglyphs : styled.map (fun glyph => (glyph.ch, glyph.width)) = glyphs)
    (hshow : Faithful cells glyphs) (hvisible : ∀ cell ∈ cells, Visible cell)
    (hy : area.y.toNat ≤ y.toNat ∧ y.toNat < area.y.toNat + area.height.toNat)
    {index : ℕ} {cell : DrawnCell} (hfits : FitsAt area cells index cell)
    (hsingle : ∀ before ≤ index, ∀ cell, cells[before]? = some cell → Single cell)
    (hblank : buffer.symbol (area.x + UInt16.ofNat (columns (cells.take index))) y = " ") :
    (renderGlyphs (saturatingAdd area.x area.width) y styled buffer area.x).1.symbol
      (area.x + UInt16.ofNat (columns (cells.take index))) y = String.ofList cell.1 := by
  have hcolumn := hfits.toNat_column hwithin
  have hlen : index < cells.length := (List.getElem?_eq_some_iff.mp hfits.1).1
  have htake : ∀ cell ∈ cells.take (index + 1), Single cell := by
    intro cell hcell
    obtain ⟨before, hbefore, heq⟩ := List.mem_take_iff_getElem.mp hcell
    exact hsingle before (by omega) cell (by rw [List.getElem?_eq_getElem (by omega), heq])
  have htake' (count : ℕ) (hcount : count ≤ index) : ∀ cell ∈ cells.take count, Single cell :=
    fun cell hcell => htake cell ((List.take_prefix_take_left (by omega)).subset hcell)
  have hcell : cell ∈ cells := List.mem_of_getElem? hfits.1
  obtain ⟨ch, hch⟩ := List.length_eq_one_iff.mp (hsingle index (Nat.le_refl _) cell hfits.1)
  -- the columns of the glyphs before are those of the cells
  have hcolumns (count : ℕ) (hcount : count ≤ index)
      (hexact : ∀ before < count, glyphs[before]? = cells[before]?.bind cellGlyph) :
      (∀ glyph ∈ styled.take count, 0 < glyph.width.toNat) ∧
        glyphColumns (styled.take count) = columns (cells.take count) := by
    have hwidths := map_take_widths (htake' count hcount) hexact
    rw [← hglyphs, ← List.map_take, List.map_map] at hwidths
    have hstyled : (styled.take count).map (·.width) = (cells.take count).map Prod.snd := hwidths
    constructor
    · intro glyph hglyph
      have hmem : glyph.width ∈ (styled.take count).map (·.width) := List.mem_map.mpr ⟨glyph, hglyph, rfl⟩
      rw [hstyled] at hmem
      obtain ⟨other, hother, heq⟩ := List.mem_map.mp hmem
      rw [← heq]
      exact (hvisible other (List.mem_of_mem_take hother)).width
    · have hsum := congrArg (fun widths => (widths.map UInt8.toNat).sum) hstyled
      rw [List.map_map, List.map_map] at hsum
      exact hsum
  rcases hshow (index + 1) htake index (Nat.lt_succ_self _) with hglyph | ⟨hnone, blank, hblankcell, htext⟩
  · rw [hfits.1, Option.bind_some, cellGlyph, hch] at hglyph
    have hlong : index < glyphs.length := (List.getElem?_eq_some_iff.mp hglyph).1
    have hexact : ∀ before < index, glyphs[before]? = cells[before]?.bind cellGlyph := by
      intro before hbefore
      refine (hshow (index + 1) htake before (by omega)).resolve_right fun hmissing => ?_
      have hmissing := List.getElem?_eq_none_iff.mp hmissing.1
      omega
    obtain ⟨hpositive, hsum⟩ := hcolumns index (Nat.le_refl _) hexact
    rw [← hglyphs, List.getElem?_map] at hglyph
    obtain ⟨glyph, hat, hpair⟩ := Option.map_eq_some_iff.mp hglyph
    obtain ⟨rfl, hwidth⟩ := Prod.mk.inj hpair
    have hsplit : styled = styled.take index ++ glyph :: styled.drop (index + 1) := by
      obtain ⟨hstyled, heq⟩ := List.getElem?_eq_some_iff.mp hat
      rw [← heq, ← List.drop_eq_getElem_cons hstyled, List.take_append_drop]
    have hpositive' : 0 < glyph.width.toNat := by
      rw [hwidth]
      exact (hvisible cell hcell).width
    have hroom := hfits.2
    rw [← hwidth] at hroom
    have hright := hwithin.right
    have hbound := hwithin.fits.right
    have hdrawn : isControl glyph.ch = false :=
      (hvisible cell hcell).text _ (by rw [hch]; exact List.mem_singleton.mpr rfl)
    rw [hsplit, renderGlyphs_at hpositive hpositive' hdrawn, hch, String.singleton_eq_ofList]
    · rw [hcolumn, hsum]
    · rw [UInt16.lt_iff_toNat_lt, toNat_saturatingAdd, hcolumn]
      omega
    · exact hwithin.contains (by omega) (by omega) hy.1 hy.2
  · obtain rfl : cell = blank := Option.some.inj (hfits.1.symm.trans hblankcell)
    have hshort : glyphs.length ≤ index := List.getElem?_eq_none_iff.mp hnone
    have hexact : ∀ before < glyphs.length, glyphs[before]? = cells[before]?.bind cellGlyph := by
      intro before hbefore
      refine (hshow (index + 1) htake before (by omega)).resolve_right fun hmissing => ?_
      have hmissing := List.getElem?_eq_none_iff.mp hmissing.1
      omega
    obtain ⟨hpositive, hsum⟩ := hcolumns glyphs.length hshort hexact
    have hall : styled.take glyphs.length = styled := by
      rw [List.take_of_length_le]
      rw [← hglyphs, List.length_map]
    rw [hall] at hpositive hsum
    have hpast : area.x.toNat + glyphColumns styled ≤
        (area.x + UInt16.ofNat (columns (cells.take index))).toNat := by
      have hle := columns_take_le cells hshort
      rw [hcolumn, hsum]
      omega
    have hchar : cell.1 = [' '] := htext
    rw [renderGlyphs_right hpositive hpast, hblank, hchar]

end

/-! ### Rows of the terminal library -/

/-- The text of a cell is a grapheme cluster without control characters: it has at most one space, as
a cluster breaks before a space that is not behind a prepended mark. A blank has none. -/
structure ClusterCell (cell : GridCell) : Prop where
  visible : ∀ ch ∈ cell.graphemes, isControl ch = false
  spaces : cell.graphemes.count ' ' ≤ 1

theorem ClusterCell.of_all {cell : GridCell} (h : cell.graphemes.all (fun ch => !isControl ch) = true)
    (hspaces : cell.graphemes.count ' ' ≤ 1) : ClusterCell cell :=
  ⟨fun ch hch => by simpa using List.all_eq_true.mp h ch hch, hspaces⟩

theorem ClusterCell.drawn {cells : List GridCell} (h : ∀ cell ∈ cells, ClusterCell cell) :
    ∀ cell ∈ drawnCells cells, Clustered cell ∧ Visible cell := by
  intro drawn hdrawn
  obtain ⟨cell, hcell, hwidth⟩ := List.mem_filterMap.mp hdrawn
  obtain ⟨width, hwide, rfl⟩ := Option.map_eq_some_iff.mp hwidth
  have hpositive : 0 < width.toNat := by
    cases hkind : cell.wide <;> rw [hkind] at hwide <;> cases hwide <;> decide
  obtain ⟨hvisible, hspaces⟩ := h cell hcell
  by_cases hempty : cell.graphemes.isEmpty = true
  · have htext : Ghostty.cellText cell = [' '] := if_pos hempty
    refine ⟨⟨by rw [htext]; exact List.cons_ne_nil _ _, by rw [htext]; exact Nat.le_refl 1⟩, hpositive, ?_⟩
    rw [htext]
    intro ch hch
    rw [List.mem_singleton.mp hch]
    rfl
  · have htext : Ghostty.cellText cell = cell.graphemes := if_neg hempty
    refine ⟨⟨?_, ?_⟩, hpositive, ?_⟩
    · rw [htext]
      exact fun hnil => hempty (List.isEmpty_iff.mpr hnil)
    · rw [htext]
      exact hspaces
    · rw [htext]
      exact hvisible

/-- The row of a surface that was extracted from cells. -/
structure Extracted (row : SurfaceRowUpdate) (cells : List GridCell) (styles : List PaneStyle) : Prop where
  runs : row.runs = (extractRow cells styles).1
  text : row.text = cellRunsText row.runs

/-- **When a row is drawn at the terminal's own columns.** Of a row that is extracted from cells, each
cell that fits into the area shows its text at its column exactly if each such cell has a text of one
character. -/
theorem placesRow_iff (buffer : Buffer) (area : Rect) (rowUpdates : List SurfaceRowUpdate)
    (summaryStyles : List StyleSummary) {row : SurfaceRowUpdate} {cells : List GridCell}
    {styles : List PaneStyle} (hwithin : Within area buffer)
    (hblank : ∀ x y, (x.toNat, y.toNat) ∈ area.cells → buffer.symbol x y = " ")
    (hdistinct : (rowUpdates.map (·.row)).Nodup) (hrow : row ∈ rowUpdates)
    (hextracted : Extracted row cells styles) (hcells : ∀ cell ∈ cells, ClusterCell cell) :
    PlacesRow (renderStructuredSurface buffer area rowUpdates summaryStyles) area row.row
        (drawnCells cells) ↔ SingleWhereFits area row.row (drawnCells cells) := by
  have hdrawn := ClusterCell.drawn hcells
  have hplace {index : ℕ} {cell : DrawnCell} (hinside : row.row.toNat < area.height.toNat)
      (hfits : FitsAt area (drawnCells cells) index cell) (hmem : cell ∈ drawnCells cells) :
      buffer.symbol (area.x + UInt16.ofNat (columns ((drawnCells cells).take index)))
        (rowOf area row.row) = " " := by
    have hwidth := (hdrawn cell hmem).2.width
    have hroom := hfits.2
    refine hblank _ _ (Rect.mem_cells.mpr ?_)
    rw [hfits.toNat_column hwithin, toNat_rowOf hwithin hinside]
    omega
  constructor
  · intro hplaces hinside index cell hfits
    have hmem : cell ∈ drawnCells cells := List.mem_of_getElem? hfits.1
    have hone : OneCharacter (renderStructuredSurface buffer area rowUpdates summaryStyles)
        (area.x + UInt16.ofNat (columns ((drawnCells cells).take index))) (rowOf area row.row) :=
      OneCharacter.foldl_renderRow ⟨' ', hplace hinside hfits hmem⟩ rowUpdates
    obtain ⟨ch, hch⟩ := hone
    rw [rowOf_eq hinside, hplaces hinside index cell hfits, String.singleton_eq_ofList] at hch
    rw [Single, String.ofList_injective hch]
    rfl
  · intro hsingle hinside index cell hfits
    have hmem : cell ∈ drawnCells cells := List.mem_of_getElem? hfits.1
    obtain ⟨before, after, hsplit⟩ := List.append_of_mem hrow
    rw [hsplit, List.map_append, List.map_cons, List.nodup_append] at hdistinct
    obtain ⟨-, hafter, hapart⟩ := hdistinct
    have hothers {other : SurfaceRowUpdate} (hother : other ∈ before ∨ other ∈ after) :
        other.row ≠ row.row := by
      rcases hother with hother | hother
      · exact hapart _ (List.mem_map.mpr ⟨other, hother, rfl⟩) _ List.mem_cons_self
      · intro heq
        exact (List.nodup_cons.mp hafter).1 (List.mem_map.mpr ⟨other, hother, heq⟩)
    rw [← rowOf_eq hinside, renderStructuredSurface, hsplit, List.foldl_append, List.foldl_cons]
    have hwithin' : Within area (before.foldl (renderRow area summaryStyles) buffer) :=
      hwithin.of_area (foldl_renderRow_area before buffer)
    rw [foldl_renderRow_other (hwithin'.of_area (renderRow_area _ _ _ _)) hinside
      fun other hother => hothers (.inr hother)]
    have hempty : row.runs = [] → row.text = "" := by
      intro hnil
      rw [hextracted.text, hnil]
      rfl
    rw [renderRow_eq hinside hempty]
    refine renderGlyphs_places hwithin' (map_runGlyphs row.runs summaryStyles) ?_
      (fun cell hcell => (hdrawn cell hcell).2) ?_ hfits (fun other hother cell hcell => ?_) ?_
    · rw [hextracted.runs]
      exact Ghostty.extractRow_faithful cells styles fun cell hcell => (hdrawn cell hcell).1
    · rw [toNat_rowOf hwithin hinside]
      omega
    · rcases Nat.lt_or_eq_of_le hother with hlt | rfl
      · exact hsingle hinside other cell (hfits.before hlt hcell)
      · rw [Option.some.inj (hcell.symm.trans hfits.1)]
        exact hsingle hinside other _ hfits
    · rw [foldl_renderRow_other hwithin hinside fun other hother => hothers (.inl hother)]
      exact hplace hinside hfits hmem

/-! ### A combining mark -/

/-- A buffer in which nothing is drawn. -/
def emptyBuffer (area : Rect) : Buffer where
  area := area
  cell _ _ := ⟨" ", none, none, []⟩

/-- A cell of one column in the default style. -/
def plainCell (graphemes : List Char) : GridCell := ⟨graphemes, .narrow, PaneStyle.default, false, .output⟩

/-- The first row of a surface, extracted from cells. -/
def firstRow (cells : List GridCell) : SurfaceRowUpdate where
  row := 0
  text := cellRunsText (extractRow cells [PaneStyle.default]).1
  runs := (extractRow cells [PaneStyle.default]).1
  dirtyHash := 0
  rowStateHash := 0
  semanticPrompt := .none
  dirty := false
  kittyVirtualPlaceholder := false

/-- **A letter with a combining mark shifts the rest of its row**: the mark is drawn in the next column,
and the next cell behind it. -/
theorem combining_row_shifted :
    (∀ cell ∈ [plainCell ['e', '\u0301'], plainCell ['x']], ClusterCell cell) ∧
    (renderStructuredSurface (emptyBuffer ⟨0, 0, 10, 1⟩) ⟨0, 0, 10, 1⟩
      [firstRow [plainCell ['e', '\u0301'], plainCell ['x']]] []).symbol 2 0 = "x" ∧
    ¬PlacesRow (renderStructuredSurface (emptyBuffer ⟨0, 0, 10, 1⟩) ⟨0, 0, 10, 1⟩
        [firstRow [plainCell ['e', '\u0301'], plainCell ['x']]] []) ⟨0, 0, 10, 1⟩ 0
      (drawnCells [plainCell ['e', '\u0301'], plainCell ['x']]) := by
  refine ⟨?_, by decide +kernel, fun h => ?_⟩
  · intro cell hcell
    rcases List.mem_cons.mp hcell with rfl | hcell
    · exact .of_all (by decide) (by decide)
    · rw [List.mem_singleton.mp hcell]
      exact .of_all (by decide) (by decide)
  · have hshown := h (by decide) 1 (['x'], 1) ⟨rfl, by decide⟩
    have hmark : (renderStructuredSurface (emptyBuffer ⟨0, 0, 10, 1⟩) ⟨0, 0, 10, 1⟩
        [firstRow [plainCell ['e', '\u0301'], plainCell ['x']]] []).symbol 1 0 = "\u0301" := by
      decide +kernel
    have hcolumn : ((0 : UInt16) + UInt16.ofNat (columns ((drawnCells [plainCell ['e', '\u0301'],
        plainCell ['x']]).take 1))) = 1 := by decide
    rw [hcolumn] at hshown
    exact absurd (hmark.symm.trans hshown) (by decide)

/-- A wide character and a letter are drawn at their columns. -/
theorem wide_row_placed :
    PlacesRow (renderStructuredSurface (emptyBuffer ⟨0, 0, 10, 1⟩) ⟨0, 0, 10, 1⟩
        [firstRow [⟨['漢'], .wide, PaneStyle.default, false, .output⟩, plainCell ['x']]] []) ⟨0, 0, 10, 1⟩ 0
      (drawnCells [⟨['漢'], .wide, PaneStyle.default, false, .output⟩, plainCell ['x']]) := by
  have hfits : Rect.Fits ⟨0, 0, 10, 1⟩ := ⟨by decide, by decide⟩
  refine (@placesRow_iff (emptyBuffer ⟨0, 0, 10, 1⟩) ⟨0, 0, 10, 1⟩ [firstRow _] [] (firstRow _) _
    [PaneStyle.default]
    ⟨hfits, Nat.le_refl _, Nat.le_refl _, Nat.le_refl _, Nat.le_refl _⟩ (fun _ _ _ => rfl)
    (by simp) (List.mem_singleton.mpr rfl) ⟨rfl, rfl⟩ ?_).mpr ?_
  · intro cell hcell
    rcases List.mem_cons.mp hcell with rfl | hcell
    · exact .of_all (by decide) (by decide)
    · rw [List.mem_singleton.mp hcell]
      exact .of_all (by decide) (by decide)
  · intro _ index cell hcell
    have hmem : cell ∈ drawnCells [⟨['漢'], .wide, PaneStyle.default, false, .output⟩, plainCell ['x']] :=
      List.mem_of_getElem? hcell.1
    have hall : ∀ cell ∈ drawnCells [⟨['漢'], .wide, PaneStyle.default, false, .output⟩, plainCell ['x']],
        cell.1.length = 1 := by decide
    exact hall cell hmem

end Nmux.Tui
