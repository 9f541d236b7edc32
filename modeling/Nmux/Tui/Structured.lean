import Nmux.Client.Surface
import Nmux.Core.InterimText
import Nmux.Tui.Layout

/-! Rows of a pane on the screen. The runs of a row are drawn one character after the other, each in a
cell of the buffer of its own; after it the drawing goes on by the width that the run has at the same
index. -/
namespace Nmux.Tui

open Client (CellRunSummary StyleSummary SurfaceRowUpdate)
open Lib.Word16

/-! ### Buffers -/

inductive Color where
  | white
  | rgb (red green blue : UInt8)
deriving DecidableEq, Repr

inductive Modifier where
  | bold | italic | dim | slowBlink | reversed | hidden | crossedOut | underlined
deriving DecidableEq, Repr

/-- A style of the terminal library: what it leaves out stays as it is. -/
structure Style where
  fg : Option Color
  bg : Option Color
  modifiers : List Modifier
deriving DecidableEq, Repr

structure BufferCell where
  symbol : String
  fg : Option Color
  bg : Option Color
  modifiers : List Modifier
deriving DecidableEq, Repr

/-- `Cell::set_style`. -/
def BufferCell.setStyle (cell : BufferCell) (style : Style) : BufferCell := { cell with
  fg := style.fg.or cell.fg
  bg := style.bg.or cell.bg
  modifiers := cell.modifiers ++ style.modifiers.filter (· ∉ cell.modifiers) }

/-- A buffer of the terminal library, with its cells by column and row. -/
structure Buffer where
  area : Rect
  cell : UInt16 → UInt16 → BufferCell

/-- `Rect::contains`. -/
def Rect.contains (area : Rect) (x y : UInt16) : Bool :=
  area.x ≤ x && x < saturatingAdd area.x area.width && area.y ≤ y && y < saturatingAdd area.y area.height

def setCell (buffer : Buffer) (x y : UInt16) (symbol : String) (style : Style) : Buffer :=
  if buffer.area.contains x y then
    { buffer with cell := fun column row =>
        if column = x ∧ row = y then { buffer.cell x y with symbol }.setStyle style
        else buffer.cell column row }
  else buffer

/-! ### Text -/

/-- What is passed over behind `ESC [`. -/
def skipControlSequence : List Char → List Char
  | [] => []
  | ch :: rest => if '\x40' ≤ ch ∧ ch ≤ '\x7e' then rest else skipControlSequence rest

/-- What is passed over of a string, up to its terminator. -/
def skipString : Bool → List Char → List Char
  | _, [] => []
  | true, ch :: rest => if ch = '\\' then rest else skipString (ch = '\x1b') rest
  | false, ch :: rest => if ch = '\x07' then rest else skipString (ch = '\x1b') rest

def skipEscapeSequence : List Char → List Char
  | [] => []
  | kind :: rest =>
    if kind = '[' then skipControlSequence rest
    else if kind ∈ [']', 'P', '_', '^', 'X', 'G'] then skipString false rest
    else rest

theorem skipControlSequence_length (text : List Char) :
    (skipControlSequence text).length ≤ text.length := by
  induction text with
  | nil => exact Nat.le_refl _
  | cons ch rest ih =>
    rw [skipControlSequence]
    split
    · exact Nat.le_succ _
    · exact Nat.le_succ_of_le ih

theorem skipString_length (pending : Bool) (text : List Char) :
    (skipString pending text).length ≤ text.length := by
  induction text generalizing pending with
  | nil => cases pending <;> exact Nat.le_refl _
  | cons ch rest ih =>
    cases pending
    all_goals
      rw [skipString]
      split
      · exact Nat.le_succ _
      · exact Nat.le_succ_of_le (ih _)

theorem skipEscapeSequence_length (text : List Char) :
    (skipEscapeSequence text).length ≤ text.length := by
  cases text with
  | nil => exact Nat.le_refl _
  | cons kind rest =>
    rw [skipEscapeSequence]
    split
    · exact Nat.le_succ_of_le (skipControlSequence_length rest)
    · split
      · exact Nat.le_succ_of_le (skipString_length false rest)
      · exact Nat.le_succ _

def terminalVisibleText : List Char → List Char
  | [] => []
  | ch :: rest =>
    if ch = '\x1b' then terminalVisibleText (skipEscapeSequence rest)
    else if ch = '\t' then ' ' :: terminalVisibleText rest
    else if isControl ch then terminalVisibleText rest
    else ch :: terminalVisibleText rest
termination_by text => text.length
decreasing_by
  · exact Nat.lt_succ_of_le (skipEscapeSequence_length rest)
  all_goals exact Nat.lt_succ_self _

def whiteStyle : Style := ⟨some .white, none, []⟩

def writeText (buffer : Buffer) (x y width : UInt16) (text : String) (style : Style) : Buffer :=
  ((terminalVisibleText text.toList).take width.toNat).zipIdx.foldl
    (fun buffer (ch, offset) => setCell buffer (x + offset.toUInt16) y (String.singleton ch) style) buffer

/-! ### Runs -/

def rgbaColor (rgba : UInt32) : Color :=
  .rgb (rgba >>> 24).toUInt8 (rgba >>> 16).toUInt8 (rgba >>> 8).toUInt8

/-- The flag bits of a style, and what each becomes. -/
def styleModifiers : List (UInt32 × Modifier) :=
  [(0x1, .bold), (0x2, .italic), (0x4, .dim), (0x8, .slowBlink), (0x10, .reversed), (0x20, .hidden),
    (0x40, .crossedOut), (0x1f00, .underlined)]

def runStyle (run : CellRunSummary) (styles : List StyleSummary) : Style :=
  match styles[run.styleId.toNat]? with
  | none => whiteStyle
  | some style => {
      fg := some (if style.fgRgba ≠ 0 then rgbaColor style.fgRgba else .white)
      bg := if style.bgRgba ≠ 0 then some (rgbaColor style.bgRgba) else none
      modifiers := (styleModifiers.filter fun (flag, _) => style.flags &&& flag ≠ 0).map Prod.snd }

/-- A character of a run, and how far the drawing goes on after it. -/
structure Glyph where
  ch : Char
  width : UInt8
  style : Style
deriving DecidableEq, Repr

/-- The characters of a run with the widths at their indices, 1 where there is none. -/
def runGlyphs (run : CellRunSummary) (styles : List StyleSummary) : List Glyph :=
  run.text.toList.mapIdx fun index ch => ⟨ch, run.cellWidths[index]?.getD 1, runStyle run styles⟩

/-- The loop of `render_cell_run`. -/
def renderGlyphs (maxX y : UInt16) : List Glyph → Buffer → UInt16 → Buffer × UInt16
  | [], buffer, x => (buffer, x)
  | glyph :: rest, buffer, x =>
    if maxX ≤ x then (buffer, x)
    else if glyph.width = 0 then renderGlyphs maxX y rest buffer x
    else
      let buffer :=
        if isControl glyph.ch then buffer else setCell buffer x y (String.singleton glyph.ch) glyph.style
      renderGlyphs maxX y rest buffer (saturatingAdd x glyph.width.toUInt16)

def renderCellRun (buffer : Buffer) (x y : UInt16) (area : Rect) (run : CellRunSummary)
    (styles : List StyleSummary) : Buffer × UInt16 :=
  renderGlyphs (saturatingAdd area.x area.width) y (runGlyphs run styles) buffer x

/-- The runs of a row, up to the end of the area. -/
def renderRuns (y : UInt16) (area : Rect) (styles : List StyleSummary) :
    List CellRunSummary → Buffer → UInt16 → Buffer
  | [], buffer, _ => buffer
  | run :: rest, buffer, x =>
    let (buffer, x) := renderCellRun buffer x y area run styles
    if saturatingAdd area.x area.width ≤ x then buffer else renderRuns y area styles rest buffer x

/-- A row of a surface. The area lies within the buffer, so no sum overflows. -/
def renderRow (area : Rect) (styles : List StyleSummary) (buffer : Buffer) (row : SurfaceRowUpdate) :
    Buffer :=
  let rowOffset := (min row.row 65535).toUInt16
  if area.height ≤ rowOffset then buffer
  else if row.runs.isEmpty then
    writeText buffer area.x (area.y + rowOffset) area.width row.text whiteStyle
  else renderRuns (area.y + rowOffset) area styles row.runs buffer area.x

def renderStructuredSurface (buffer : Buffer) (area : Rect) (rowUpdates : List SurfaceRowUpdate)
    (styles : List StyleSummary) : Buffer :=
  rowUpdates.foldl (renderRow area styles) buffer

end Nmux.Tui
