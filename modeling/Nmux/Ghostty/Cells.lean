import Mathlib.Data.List.DropRight
import Nmux.Core.Terminal

/-! The cells of a row. A cell of the grid has a text of one or more characters and takes one or two
columns; the extraction puts the cells of one style into a run, with the text of all of them in one
string and a width for each cell. -/
namespace Nmux.Ghostty

open Protocol (CellSemanticContent)

/-! ### Extraction -/

inductive CellWide where
  | narrow | wide | spacerTail | spacerHead
deriving DecidableEq, Repr

/-- What is read of a cell. A blank has no graphemes. -/
structure GridCell where
  graphemes : List Char
  wide : CellWide
  style : PaneStyle
  hyperlink : Bool
  semanticContent : CellSemanticContent
deriving DecidableEq, Repr

def cellText (cell : GridCell) : List Char := if cell.graphemes.isEmpty then [' '] else cell.graphemes

/-- The columns a cell takes. Spacers are passed over: they belong to the wide cell before them, or to
one that did not fit behind them. -/
def CellWide.width : CellWide → Option UInt8
  | .narrow => some 1
  | .wide => some 2
  | .spacerTail => none
  | .spacerHead => none

/-- The number of a style in the table of the update, which gets it if it has not. -/
def styleId (styles : List PaneStyle) (style : PaneStyle) : UInt32 × List PaneStyle :=
  match styles.findIdx? (· == style) with
  | some index => (index.toUInt32, styles)
  | none => (styles.length.toUInt32, styles ++ [style])

def cellRunFlagHyperlinkPresent : UInt32 := 1

def cellRunFlags (cell : GridCell) : UInt32 := if cell.hyperlink then cellRunFlagHyperlinkPresent else 0

/-- A cell is added to the last run if it looks the same, and begins a run of its own otherwise. -/
def pushCell (runs : List CellRun) (cell : CellRun) : List CellRun :=
  match runs.getLast? with
  | none => [cell]
  | some last =>
    if last.styleId = cell.styleId ∧ last.flags = cell.flags ∧ last.hyperlinkId = 0 ∧
        last.semanticContent = cell.semanticContent then
      runs.dropLast ++ [{ last with
        text := last.text ++ cell.text
        cellWidths := last.cellWidths ++ cell.cellWidths }]
    else runs ++ [cell]

def extractCells : List GridCell → List CellRun → List PaneStyle → List CellRun × List PaneStyle
  | [], runs, styles => (runs, styles)
  | cell :: rest, runs, styles =>
    match cell.wide.width with
    | none => extractCells rest runs styles
    | some width =>
      let (id, styles) := styleId styles cell.style
      extractCells rest (pushCell runs {
        text := String.ofList (cellText cell)
        cellWidths := [width]
        styleId := id
        flags := cellRunFlags cell
        hyperlinkId := 0
        semanticContent := cell.semanticContent }) styles

def trimmableTrailingRun (run : CellRun) : Bool :=
  run.styleId = 0 && run.flags = 0 && run.hyperlinkId = 0 && run.semanticContent = .output

/-- The spaces at the end of a run, with a width for each. Text and widths are given from the end. -/
def popSpaces : List Char → List UInt8 → List Char × List UInt8
  | ' ' :: text, widths => popSpaces text widths.tail
  | text, widths => (text, widths)

/-- The loop of `trim_trailing_spaces`, over the runs from the last. -/
def trimRuns : List CellRun → List CellRun
  | [] => []
  | last :: rest =>
    if trimmableTrailingRun last then
      let (text, widths) := popSpaces last.text.toList.reverse last.cellWidths.reverse
      if text.isEmpty then trimRuns rest
      else { last with text := String.ofList text.reverse, cellWidths := widths.reverse } :: rest
    else last :: rest

def trimTrailingSpaces (runs : List CellRun) : List CellRun := (trimRuns runs.reverse).reverse

/-- What `extract_rows` does with the cells of a row. -/
def extractRow (cells : List GridCell) (styles : List PaneStyle) : List CellRun × List PaneStyle :=
  let (runs, styles) := extractCells cells [] styles
  (trimTrailingSpaces runs, styles)

/-! ### Columns -/

/-- A cell that takes columns: its text, and how many. -/
abbrev DrawnCell := List Char × UInt8

/-- The cells of a row without the spacers. -/
def drawnCells (cells : List GridCell) : List DrawnCell :=
  cells.filterMap fun cell => cell.wide.width.map fun width => (cellText cell, width)

/-- The columns that some cells take. -/
def columns (cells : List DrawnCell) : ℕ := (cells.map fun cell => cell.2.toNat).sum

/-- A text of one character. -/
def Single (cell : DrawnCell) : Prop := cell.1.length = 1

/-- What is known of a cell: its text has a character. A grapheme cluster has no more than one space,
since it breaks before a space that follows another character than a prepended mark. -/
structure Clustered (cell : DrawnCell) : Prop where
  text : cell.1 ≠ []
  spaces : cell.1.count ' ' ≤ 1

/-! ### Characters and widths -/

/-- The characters of a text with the widths at their indices, 1 where there is none. -/
def textGlyphs (text : List Char) (widths : List UInt8) : List (Char × UInt8) :=
  text.mapIdx fun index ch => (ch, widths[index]?.getD 1)

/-- The character of a cell, if it has one, with its width. -/
def cellGlyph (cell : DrawnCell) : Option (Char × UInt8) := cell.1.head?.map fun ch => (ch, cell.2)

/-- A cell that shows nothing. -/
def Blank (cell : DrawnCell) : Prop := cell.1 = [' ']

/-- The glyphs are those of the cells for as long as the cells have one character each, but for cells
at the end that may be missing. -/
def Shows (missing : DrawnCell → Prop) (cells : List DrawnCell) (glyphs : List (Char × UInt8)) : Prop :=
  ∀ count, (∀ cell ∈ cells.take count, Single cell) → ∀ index < count,
    glyphs[index]? = cells[index]?.bind cellGlyph ∨
      glyphs[index]? = none ∧ ∃ cell, cells[index]? = some cell ∧ missing cell

/-- Nothing is missing. -/
abbrev Exact : List DrawnCell → List (Char × UInt8) → Prop := Shows fun _ => False

/-- Blanks may be missing. -/
abbrev Faithful : List DrawnCell → List (Char × UInt8) → Prop := Shows Blank

section
variable {missing : DrawnCell → Prop} {cells more : List DrawnCell} {glyphs extra : List (Char × UInt8)}

theorem Exact.at (h : Exact cells glyphs) {count : ℕ} (hsingle : ∀ cell ∈ cells.take count, Single cell)
    {index : ℕ} (hindex : index < count) : glyphs[index]? = cells[index]?.bind cellGlyph :=
  (h count hsingle index hindex).resolve_right fun hmissing => hmissing.2.choose_spec.2

theorem Exact.faithful (h : Exact cells glyphs) : Faithful cells glyphs :=
  fun _ hsingle _ hindex => .inl (Exact.at h hsingle hindex)

/-- The text of cells with one character each, character by character. -/
theorem getElem?_text {count : ℕ} (hsingle : ∀ cell ∈ cells.take count, Single cell) {index : ℕ}
    (hindex : index < count) (hlen : index < cells.length) (rest : List Char) :
    (cells.flatMap Prod.fst ++ rest)[index]? = cells[index]?.bind (·.1.head?) := by
  induction cells generalizing count index with
  | nil => exact absurd hlen (Nat.not_lt_zero _)
  | cons cell cells ih =>
    obtain ⟨count, rfl⟩ := Nat.exists_eq_succ_of_ne_zero (Nat.ne_of_gt (Nat.zero_lt_of_lt hindex))
    rw [List.take_succ_cons] at hsingle
    obtain ⟨ch, hch⟩ := List.length_eq_one_iff.mp (hsingle cell List.mem_cons_self)
    rw [List.flatMap_cons, hch, List.singleton_append, List.cons_append]
    cases index with
    | zero => simp [hch]
    | succ index =>
      rw [List.getElem?_cons_succ, List.getElem?_cons_succ]
      exact ih (fun cell hcell => hsingle cell (List.mem_cons_of_mem _ hcell))
        (Nat.lt_of_succ_lt_succ hindex) (Nat.lt_of_succ_lt_succ hlen)

theorem getElem?_textGlyphs {count : ℕ} (hsingle : ∀ cell ∈ cells.take count, Single cell) {index : ℕ}
    (hindex : index < count) (hlen : index < cells.length) (rest : List Char) (widths : List UInt8) :
    (textGlyphs (cells.flatMap Prod.fst ++ rest) (cells.map Prod.snd ++ widths))[index]? =
      cells[index]?.bind cellGlyph := by
  rw [textGlyphs, List.getElem?_mapIdx, getElem?_text hsingle hindex hlen,
    List.getElem?_append_left (by rwa [List.length_map]), List.getElem?_map, List.getElem?_eq_getElem hlen]
  rfl

theorem textGlyphs_length (text : List Char) (widths : List UInt8) :
    (textGlyphs text widths).length = text.length := List.length_mapIdx

/-- The text of cells with one character each has no more characters than there are cells. -/
theorem length_text (hsingle : ∀ cell ∈ cells, Single cell) :
    (cells.flatMap Prod.fst).length = cells.length := by
  induction cells with
  | nil => rfl
  | cons cell cells ih =>
    rw [List.flatMap_cons, List.length_append, List.length_cons,
      ih fun cell hcell => hsingle cell (List.mem_cons_of_mem _ hcell),
      show cell.1.length = 1 from hsingle cell List.mem_cons_self, Nat.add_comm]

/-- A run of whole cells. -/
theorem exact_textGlyphs (cells : List DrawnCell) :
    Exact cells (textGlyphs (cells.flatMap Prod.fst) (cells.map Prod.snd)) := by
  intro count hsingle index hindex
  left
  by_cases hlen : index < cells.length
  · have h := getElem?_textGlyphs hsingle hindex hlen [] []
    rwa [List.append_nil, List.append_nil] at h
  · have hall : ∀ cell ∈ cells, Single cell := by
      rwa [List.take_of_length_le (Nat.le_trans (Nat.not_lt.mp hlen) (Nat.le_of_lt hindex))] at hsingle
    rw [List.getElem?_eq_none (Nat.not_lt.mp hlen), List.getElem?_eq_none]
    · rfl
    · rw [textGlyphs_length, length_text hall]
      exact Nat.not_lt.mp hlen

theorem Exact.length_eq (h : Exact cells glyphs) (hsingle : ∀ cell ∈ cells, Single cell) :
    glyphs.length = cells.length := by
  have htake (count : ℕ) : ∀ cell ∈ cells.take count, Single cell :=
    fun cell hcell => hsingle cell (List.mem_of_mem_take hcell)
  apply Nat.le_antisymm
  · have hend := Exact.at h (htake (cells.length + 1)) (Nat.lt_succ_self cells.length)
    rw [List.getElem?_eq_none (Nat.le_refl _)] at hend
    exact List.getElem?_eq_none_iff.mp hend
  · by_contra hlt
    have hlt := Nat.not_le.mp hlt
    have hat := Exact.at h (htake (glyphs.length + 1)) (Nat.lt_succ_self glyphs.length)
    obtain ⟨ch, hch⟩ := List.length_eq_one_iff.mp (hsingle _ (List.getElem_mem hlt))
    rw [List.getElem?_eq_none (Nat.le_refl _), List.getElem?_eq_getElem hlt, Option.bind_some, cellGlyph,
      hch] at hat
    cases hat

/-- Whole cells before. -/
theorem Shows.append (h : Exact cells glyphs) (hmore : Shows missing more extra) :
    Shows missing (cells ++ more) (glyphs ++ extra) := by
  intro count hsingle index hindex
  rw [List.take_append] at hsingle
  have hfirst : ∀ cell ∈ cells.take count, Single cell :=
    fun cell hcell => hsingle cell (List.mem_append_left _ hcell)
  by_cases hlen : index < cells.length
  · left
    have hat := Exact.at h hfirst hindex
    have hcell : cells[index] ∈ cells.take count := by
      rw [List.mem_take_iff_getElem]
      exact ⟨index, by omega, rfl⟩
    obtain ⟨ch, hch⟩ := List.length_eq_one_iff.mp (hfirst _ hcell)
    rw [List.getElem?_append_left hlen]
    rw [List.getElem?_eq_getElem hlen, Option.bind_some, cellGlyph, hch] at hat ⊢
    have hglyph : index < glyphs.length := by
      by_contra hnot
      rw [List.getElem?_eq_none (Nat.not_lt.mp hnot)] at hat
      cases hat
    rw [List.getElem?_append_left hglyph, hat]
  · have hle := Nat.not_lt.mp hlen
    have hall : ∀ cell ∈ cells, Single cell := by
      rwa [List.take_of_length_le (by omega)] at hfirst
    rw [List.getElem?_append_right hle, List.getElem?_append_right (by rw [Exact.length_eq h hall]; exact hle),
      Exact.length_eq h hall]
    exact hmore (count - cells.length) (fun cell hcell => hsingle cell (List.mem_append_right _ hcell))
      (index - cells.length) (by omega)

/-- Blanks behind. -/
theorem Shows.append_blank (h : Faithful cells glyphs) (hblank : ∀ cell ∈ more, Blank cell) :
    Faithful (cells ++ more) glyphs := by
  intro count hsingle index hindex
  rw [List.take_append] at hsingle
  have hat := h count (fun cell hcell => hsingle cell (List.mem_append_left _ hcell)) index hindex
  by_cases hlen : index < cells.length
  · rwa [List.getElem?_append_left hlen]
  · have hnone : cells[index]? = none := List.getElem?_eq_none (Nat.not_lt.mp hlen)
    have hglyph : glyphs[index]? = none := by
      rcases hat with hat | ⟨hat, -⟩
      · rw [hat, hnone]
        rfl
      · exact hat
    rw [List.getElem?_append_right (Nat.not_lt.mp hlen), hglyph]
    cases hcell : more[index - cells.length]? with
    | none => exact .inl rfl
    | some cell => exact .inr ⟨rfl, cell, rfl, hblank cell (List.mem_of_getElem? hcell)⟩

end

/-! ### Trimmed runs -/

theorem popSpaces_of_ne {ch : Char} (h : ch ≠ ' ') (text : List Char) (widths : List UInt8) :
    popSpaces (ch :: text) widths = (ch :: text, widths) := by
  unfold popSpaces
  split
  case h_1 heq => exact absurd (List.cons.inj heq).1 h
  case h_2 => rfl

/-- A run without the spaces at its end still shows its cells, and if there is nothing left they were
blanks. -/
theorem faithful_popSpaces {cells : List DrawnCell} (h : ∀ cell ∈ cells, Clustered cell) :
    Faithful cells (textGlyphs
        (popSpaces (cells.flatMap Prod.fst).reverse (cells.map Prod.snd).reverse).1.reverse
        (popSpaces (cells.flatMap Prod.fst).reverse (cells.map Prod.snd).reverse).2.reverse) ∧
      ((popSpaces (cells.flatMap Prod.fst).reverse (cells.map Prod.snd).reverse).1 = [] →
        ∀ cell ∈ cells, Blank cell) := by
  induction cells using List.reverseRecOn with
  | nil => exact ⟨Exact.faithful (exact_textGlyphs []), fun _ cell hcell => by cases hcell⟩
  | append_singleton cells cell ih =>
    have hcells : ∀ cell ∈ cells, Clustered cell := fun cell hcell => h cell (List.mem_append_left _ hcell)
    obtain ⟨hne, hspaces⟩ := h cell (List.mem_append_right _ (List.mem_singleton_self _))
    obtain ⟨front, ch, htext⟩ := (List.eq_nil_or_concat cell.1).resolve_left hne
    rw [List.concat_eq_append] at htext
    have hreversed : ((cells ++ [cell]).flatMap Prod.fst).reverse =
        ch :: (front.reverse ++ (cells.flatMap Prod.fst).reverse) := by
      simp [List.flatMap_append, htext]
    have hwidths : ((cells ++ [cell]).map Prod.snd).reverse = cell.2 :: (cells.map Prod.snd).reverse := by
      simp
    rw [hreversed, hwidths]
    by_cases hch : ch = ' '
    · subst hch
      rw [show popSpaces (' ' :: (front.reverse ++ (cells.flatMap Prod.fst).reverse))
        (cell.2 :: (cells.map Prod.snd).reverse) = popSpaces (front.reverse ++ (cells.flatMap Prod.fst).reverse)
        (cells.map Prod.snd).reverse from rfl]
      rcases List.eq_nil_or_concat front with rfl | ⟨start, last, rfl⟩
      · have hblank : ∀ other ∈ [cell], Blank other := by
          intro other hother
          rw [List.mem_singleton.mp hother]
          exact htext
        refine ⟨(ih hcells).1.append_blank hblank, fun hnil other hother => ?_⟩
        rcases List.mem_append.mp hother with hother | hother
        · exact (ih hcells).2 hnil other hother
        · exact hblank other hother
      · -- the cell has another character before its space, which stays without a width
        rw [List.concat_eq_append] at htext ⊢
        have hlast : last ≠ ' ' := by
          rintro rfl
          rw [htext, List.count_append, List.count_append] at hspaces
          simp at hspaces
        rw [List.reverse_append, List.reverse_singleton, List.singleton_append, List.cons_append,
          popSpaces_of_ne hlast]
        refine ⟨fun count hsingle index hindex => .inl ?_, fun hnil => by cases hnil⟩
        have hcount : count ≤ cells.length := by
          by_contra hlt
          have hmem : cell ∈ (cells ++ [cell]).take count := by
            rw [List.take_of_length_le (by rw [List.length_append, List.length_singleton]; omega)]
            exact List.mem_append_right _ (List.mem_singleton_self _)
          have hone : cell.1.length = 1 := hsingle cell hmem
          rw [htext] at hone
          simp at hone
        rw [List.take_append_of_le_length hcount] at hsingle
        have hat := getElem?_textGlyphs hsingle hindex (Nat.lt_of_lt_of_le hindex hcount)
          (start ++ [last]) []
        rw [List.append_nil] at hat
        rw [List.getElem?_append_left (Nat.lt_of_lt_of_le hindex hcount), ← hat]
        simp
    · rw [popSpaces_of_ne hch]
      refine ⟨?_, fun hnil => by cases hnil⟩
      rw [← hreversed, ← hwidths, List.reverse_reverse, List.reverse_reverse]
      exact Exact.faithful (exact_textGlyphs _)

/-! ### Runs of cells -/

/-- The text of a run and its widths. -/
def runParts (run : CellRun) : List Char × List UInt8 := (run.text.toList, run.cellWidths)

/-- Those of a run that is made of some cells. -/
def cellParts (cells : List DrawnCell) : List Char × List UInt8 :=
  (cells.flatMap Prod.fst, cells.map Prod.snd)

/-- The runs are made of groups of cells. -/
def Grouped (groups : List (List DrawnCell)) (runs : List CellRun) : Prop :=
  runs.map runParts = groups.map cellParts

/-- What a row of runs is drawn from. -/
def rowGlyphs (runs : List CellRun) : List (Char × UInt8) :=
  runs.flatMap fun run => textGlyphs run.text.toList run.cellWidths

theorem Grouped.pushCell {groups : List (List DrawnCell)} {runs : List CellRun} (h : Grouped groups runs)
    {text : List Char} {width : UInt8} {cell : CellRun} (hcell : runParts cell = (text, [width])) :
    ∃ pushed, Grouped pushed (Ghostty.pushCell runs cell) ∧ pushed.flatten = groups.flatten ++ [(text, width)] := by
  obtain ⟨htext, hwidths⟩ := Prod.mk.inj hcell
  have hnew (hruns : Ghostty.pushCell runs cell = runs ++ [cell]) : ∃ pushed,
      Grouped pushed (Ghostty.pushCell runs cell) ∧ pushed.flatten = groups.flatten ++ [(text, width)] := by
    refine ⟨groups ++ [[(text, width)]], ?_, by simp⟩
    rw [hruns, Grouped, List.map_append, List.map_append, h, List.map_singleton, hcell]
    simp [cellParts]
  rcases List.eq_nil_or_concat runs with rfl | ⟨front, last, rfl⟩
  · exact hnew rfl
  · rw [List.concat_eq_append] at h hnew ⊢
    by_cases hsame : last.styleId = cell.styleId ∧ last.flags = cell.flags ∧ last.hyperlinkId = 0 ∧
        last.semanticContent = cell.semanticContent
    · have hpushed : Ghostty.pushCell (front ++ [last]) cell = front ++ [{ last with
          text := last.text ++ cell.text
          cellWidths := last.cellWidths ++ cell.cellWidths }] := by
        simp only [Ghostty.pushCell, List.getLast?_append, List.getLast?_singleton, Option.some_or,
          List.dropLast_concat]
        rw [if_pos hsame]
      rw [Grouped, List.map_append] at h
      obtain ⟨start, final, rfl, hstart, hfinal⟩ := List.map_eq_append_iff.mp h.symm
      obtain ⟨group, rfl, hgroup⟩ := List.map_eq_singleton_iff.mp hfinal
      obtain ⟨hgrouptext, hgroupwidths⟩ := Prod.mk.inj hgroup
      refine ⟨start ++ [group ++ [(text, width)]], ?_, by simp⟩
      rw [hpushed, Grouped, List.map_append, List.map_append, ← hstart]
      simp [runParts, cellParts, hgrouptext, hgroupwidths, htext, hwidths]
    · refine hnew ?_
      simp only [Ghostty.pushCell, List.getLast?_append, List.getLast?_singleton, Option.some_or]
      rw [if_neg hsame]

/-- The runs of a row are made of its cells. -/
theorem extractCells_grouped (cells : List GridCell) {groups : List (List DrawnCell)} {runs : List CellRun}
    (h : Grouped groups runs) (styles : List PaneStyle) :
    ∃ extracted, Grouped extracted (extractCells cells runs styles).1 ∧
      extracted.flatten = groups.flatten ++ drawnCells cells := by
  induction cells generalizing groups runs styles with
  | nil => exact ⟨groups, h, (List.append_nil _).symm⟩
  | cons cell cells ih =>
    rw [extractCells]
    cases hwidth : cell.wide.width with
    | none =>
      have hdrawn : drawnCells (cell :: cells) = drawnCells cells := by
        simp [drawnCells, hwidth]
      rw [hdrawn]
      exact ih h styles
    | some width =>
      have hdrawn : drawnCells (cell :: cells) = (cellText cell, width) :: drawnCells cells := by
        simp [drawnCells, hwidth]
      obtain ⟨pushed, hpushed, hflat⟩ := @Grouped.pushCell groups runs h (cellText cell) width {
        text := String.ofList (cellText cell)
        cellWidths := [width]
        styleId := (styleId styles cell.style).1
        flags := cellRunFlags cell
        hyperlinkId := 0
        semanticContent := cell.semanticContent } (by rw [runParts, String.toList_ofList])
      obtain ⟨extracted, hextracted, hall⟩ := ih hpushed (styleId styles cell.style).2
      refine ⟨extracted, hextracted, ?_⟩
      rw [hall, hflat, hdrawn, List.append_assoc, List.singleton_append]

/-- Runs of whole cells show them. -/
theorem Grouped.exact {groups : List (List DrawnCell)} {runs : List CellRun} (h : Grouped groups runs) :
    Exact groups.flatten (rowGlyphs runs) := by
  induction groups generalizing runs with
  | nil =>
    rw [Grouped, List.map_nil, List.map_eq_nil_iff] at h
    rw [h]
    exact exact_textGlyphs []
  | cons group groups ih =>
    rw [Grouped, List.map_cons] at h
    obtain ⟨run, rest, rfl, hrun, hrest⟩ := List.map_eq_cons_iff.mp h
    obtain ⟨htext, hwidths⟩ := Prod.mk.inj hrun
    rw [List.flatten_cons, rowGlyphs, List.flatMap_cons, htext, hwidths]
    exact Shows.append (exact_textGlyphs group) (ih hrest)

/-- Runs that are trimmed show their cells but for blanks at the end. Both are given from the last. -/
theorem Grouped.trimRuns {groups : List (List DrawnCell)} {runs : List CellRun} (h : Grouped groups runs)
    (hclustered : ∀ cell ∈ groups.flatten, Clustered cell) :
    Faithful groups.reverse.flatten (rowGlyphs (Ghostty.trimRuns runs).reverse) := by
  have hwhole {groups : List (List DrawnCell)} {runs : List CellRun} (h : Grouped groups runs) :
      Exact groups.reverse.flatten (rowGlyphs runs.reverse) := by
    refine Grouped.exact ?_
    rw [Grouped, List.map_reverse, List.map_reverse, h]
  induction groups generalizing runs with
  | nil =>
    rw [Grouped, List.map_nil, List.map_eq_nil_iff] at h
    rw [h]
    exact Exact.faithful (exact_textGlyphs [])
  | cons group groups ih =>
    have hgrouped := h
    rw [Grouped, List.map_cons] at h
    obtain ⟨run, rest, rfl, hrun, hrest⟩ := List.map_eq_cons_iff.mp h
    rw [Ghostty.trimRuns]
    by_cases htrim : trimmableTrailingRun run = true
    swap
    · rw [if_neg htrim]
      exact Exact.faithful (hwhole hgrouped)
    rw [if_pos htrim]
    obtain ⟨htext, hwidths⟩ := Prod.mk.inj hrun
    obtain ⟨hshown, hblank⟩ := faithful_popSpaces fun cell hcell =>
      hclustered cell (List.mem_flatten_of_mem List.mem_cons_self hcell)
    rw [htext, hwidths]
    dsimp only
    rw [List.reverse_cons, List.flatten_append, List.flatten_singleton]
    by_cases hempty : (popSpaces (group.flatMap Prod.fst).reverse (group.map Prod.snd).reverse).1.isEmpty = true
    · rw [if_pos hempty]
      refine Shows.append_blank (ih hrest fun cell hcell => ?_) (hblank (List.isEmpty_iff.mp hempty))
      rw [List.flatten_cons] at hclustered
      exact hclustered cell (List.mem_append_right _ hcell)
    · rw [if_neg hempty, List.reverse_cons, rowGlyphs, List.flatMap_append, List.flatMap_singleton]
      dsimp only
      rw [String.toList_ofList]
      exact Shows.append (hwhole hrest) hshown

/-- **The runs of a row show its cells** for as long as each has one character, but for blanks at the
end. -/
theorem extractRow_faithful (cells : List GridCell) (styles : List PaneStyle)
    (hclustered : ∀ cell ∈ drawnCells cells, Clustered cell) :
    Faithful (drawnCells cells) (rowGlyphs (extractRow cells styles).1) := by
  have hnothing : Grouped [] [] := rfl
  obtain ⟨groups, hgroups, hflat⟩ := extractCells_grouped cells hnothing styles
  rw [List.flatten_nil, List.nil_append] at hflat
  have hreversed : Grouped groups.reverse (extractCells cells [] styles).1.reverse := by
    rw [Grouped, List.map_reverse, List.map_reverse, hgroups]
  have h := hreversed.trimRuns fun cell hcell => hclustered cell <| by
    rw [← hflat]
    rw [List.mem_flatten] at hcell ⊢
    obtain ⟨group, hgroup, hmem⟩ := hcell
    exact ⟨group, List.mem_reverse.mp hgroup, hmem⟩
  rw [List.reverse_reverse, hflat] at h
  exact h

end Nmux.Ghostty
