import Mathlib.Data.List.DropRight
import Nmux.Ghostty.History
import Nmux.Lib.Vt.Single

/-! Output that is taken to leave the rows as they are. A scan of the chunk decides it, and the update then
has the rows the pane had. The scan is a small automaton of its own: it knows no vertical tabs and form
feeds, no control characters inside sequences, and neither what ends a sequence early nor what starts the
next one inside of it. -/
namespace Nmux.Ghostty

open Lib.Vt (Action Control Terminal Grid CellFunction functionsOf screenAfter MainKept AlternateKept)
open Lib.Vt.Terminal (mark)

/-- The states of `vt_output_may_change_rows`. -/
inductive ScanState where
  | ground
  | escape
  | csi
  | osc
  | oscEscape
deriving DecidableEq, Repr

/-- The final bytes that change no row: of styles, modes and moves of the cursor. -/
def rowFinals : List UInt8 :=
  [0x6d, 0x68, 0x6c, 0x41, 0x42, 0x43, 0x44, 0x45, 0x46, 0x47, 0x48, 0x66, 0x64]

def scanRows : ScanState → List UInt8 → Bool
  | _, [] => false
  | .ground, byte :: rest =>
    if byte = 0x1b then scanRows .escape rest
    else if byte = 0x0a || byte = 0x0d || byte = 0x09 || byte = 0x08 then true
    else if (0x20 ≤ byte && byte ≤ 0x7e) || 0x80 ≤ byte then true
    else scanRows .ground rest
  | .escape, byte :: rest =>
    if byte = 0x5b then scanRows .csi rest
    else if byte = 0x5d then scanRows .osc rest
    else true
  | .csi, byte :: rest =>
    if 0x40 ≤ byte && byte ≤ 0x7e then
      if byte ∈ rowFinals then scanRows .ground rest else true
    else scanRows .csi rest
  | .osc, byte :: rest =>
    if byte = 0x07 then scanRows .ground rest
    else if byte = 0x1b then scanRows .oscEscape rest
    else scanRows .osc rest
  | .oscEscape, byte :: rest => if byte = 0x5c then scanRows .ground rest else scanRows .osc rest

def vtOutputMayChangeRows (output : List UInt8) : Bool := scanRows .ground output

/-! ### The rows of a terminal -/

/-- What is extracted of a row of plain cells: its text without the spaces at the end, in one run. -/
def rowOf (cells : List Char) : ScreenRow :=
  let line := String.ofList (cells.rdropWhile (· = ' '))
  ⟨line, if line = "" then [] else [.plain line], .none, false, false⟩

theorem rows_ne (grid : Grid) (lastRow lastCol : Nat) : (grid.rows lastRow lastCol).map rowOf ≠ [] := by
  rw [Grid.rows, ne_eq, List.map_eq_nil_iff, List.map_eq_nil_iff, List.range_eq_nil]
  exact Nat.succ_ne_zero lastRow

/-- The screens of a terminal as the engine reads them. -/
def screensOf (terminal : Terminal) : Screens where
  main := ⟨terminal.history.map rowOf, (terminal.main.rows terminal.lastRow terminal.lastCol).map rowOf,
    rows_ne terminal.main terminal.lastRow terminal.lastCol⟩
  alternate := (terminal.alternate.rows terminal.lastRow terminal.lastCol).map rowOf
  alternateActive := terminal.alternateActive

/-- The pane has what was last extracted. -/
structure Extracted (screens : Screens) (input : TerminalInput) : Prop where
  surface : input.surface = surfaceKind screens
  surfaceRows : surfaceInputRows input = extractRows screens.visible
  scrollbackRows : scrollbackInputRows input = screens.main.scrollbackRows

section
variable (moves : Action → Control → Control)

/-- The terminal after a chunk that finds the parser in the ground state. -/
def feed (terminal : Terminal) (chunk : List UInt8) : Terminal :=
  terminal.applyAll moves (functionsOf chunk)

/-- The rows of the update the engine makes of a chunk. -/
def applyOutputRows (terminal : Terminal) (input : TerminalInput) (chunk : List UInt8) : UpdateRows :=
  extractUpdateRows (screensOf (feed moves terminal chunk)) input (!vtOutputMayChangeRows chunk)

/-- The cells are as before the chunk, and the update has the rows of the terminal. -/
structure ReuseSound (terminal : Terminal) (chunk : List UInt8) : Prop where
  visible : (feed moves terminal chunk).visibleRows = terminal.visibleRows
  history : (feed moves terminal chunk).history = terminal.history
  surface : ∀ input, Extracted (screensOf terminal) input →
    (applyOutputRows moves terminal input chunk).surface =
      extractRows (screensOf (feed moves terminal chunk)).visible
  scrollback : ∀ input, Extracted (screensOf terminal) input →
    (applyOutputRows moves terminal input chunk).scrollback =
      (screensOf (feed moves terminal chunk)).main.scrollbackRows

/-- A chunk that ends on the main screen where it began there does nothing to it and to the history; one
that ends on the alternate screen where it began there does nothing to it and never leaves it. -/
structure RowsKept (chunk : List UInt8) : Prop where
  main : screenAfter false (functionsOf chunk) = false → MainKept false (functionsOf chunk)
  alternate : screenAfter true (functionsOf chunk) = true → AlternateKept (functionsOf chunk)

variable {moves} {terminal : Terminal} {chunk : List UInt8}

theorem feed_alternateActive : (feed moves terminal chunk).alternateActive =
    screenAfter terminal.alternateActive (functionsOf chunk) :=
  Terminal.applyAll_alternateActive moves terminal _

/-- A chunk that keeps the rows leaves everything the engine reads of the screens. -/
theorem RowsKept.screens (h : RowsKept chunk)
    (hsame : (feed moves terminal chunk).alternateActive = terminal.alternateActive) :
    (feed moves terminal chunk).visible = terminal.visible ∧
      (feed moves terminal chunk).main = terminal.main ∧
      (feed moves terminal chunk).history = terminal.history := by
  have hscreen : (feed moves terminal chunk).alternateActive =
      screenAfter terminal.alternateActive (functionsOf chunk) := feed_alternateActive
  rw [hsame] at hscreen
  unfold Terminal.visible
  rw [hsame]
  cases hactive : terminal.alternateActive with
  | false =>
    rw [hactive] at hscreen
    have hkept : MainKept terminal.alternateActive (functionsOf chunk) := by
      rw [hactive]
      exact h.main hscreen.symm
    obtain ⟨hmain, hhistory⟩ := Terminal.applyAll_main moves hkept
    exact ⟨hmain, hmain, hhistory⟩
  | true =>
    rw [hactive] at hscreen
    exact Terminal.applyAll_alternate moves hactive (h.alternate hscreen.symm)

/-- Rows that are kept may be used again. -/
theorem RowsKept.reuseSound (h : RowsKept chunk) (hskip : vtOutputMayChangeRows chunk = false)
    (hsame : (feed moves terminal chunk).alternateActive = terminal.alternateActive) :
    ReuseSound moves terminal chunk := by
  obtain ⟨hvisible, hmain, hhistory⟩ := h.screens hsame
  obtain ⟨hrow, hcol⟩ := Terminal.applyAll_size moves terminal (functionsOf chunk)
  have hrows : (feed moves terminal chunk).visibleRows = terminal.visibleRows := by
    unfold Terminal.visibleRows feed
    rw [hrow, hcol]
    exact congrArg (fun grid => Grid.rows grid terminal.lastRow terminal.lastCol) hvisible
  have hshown : ∀ terminal : Terminal,
      (screensOf terminal).visible = terminal.visibleRows.map rowOf := fun terminal => by
    unfold Screens.visible Terminal.visibleRows Terminal.visible screensOf
    cases terminal.alternateActive <;> rfl
  have hmainRows : (screensOf (feed moves terminal chunk)).main.rows = (screensOf terminal).main.rows := by
    show (feed moves terminal chunk).history.map rowOf ++
      ((feed moves terminal chunk).main.rows (feed moves terminal chunk).lastRow
        (feed moves terminal chunk).lastCol).map rowOf = _
    rw [hhistory, hmain, show (feed moves terminal chunk).lastRow = terminal.lastRow from hrow,
      show (feed moves terminal chunk).lastCol = terminal.lastCol from hcol]
    rfl
  have hreused : ∀ input, Extracted (screensOf terminal) input →
      applyOutputRows moves terminal input chunk =
        ⟨surfaceInputRows input, scrollbackInputRows input, false⟩ := fun input hinput => by
    have hkind : surfaceKind (screensOf (feed moves terminal chunk)) = input.surface := by
      rw [hinput.surface]
      show (if (feed moves terminal chunk).alternateActive = true then _ else _) = _
      rw [hsame]
      rfl
    unfold applyOutputRows extractUpdateRows
    dsimp only
    rw [hskip, hkind, if_pos (by simp)]
  refine ⟨hrows, hhistory, fun input hinput => ?_, fun input hinput => ?_⟩
  · rw [hreused input hinput, hshown, hrows, ← hshown]
    exact hinput.surfaceRows
  · rw [hreused input hinput, MainScreen.scrollbackRows_eq, hmainRows, ← MainScreen.scrollbackRows_eq]
    exact hinput.scrollbackRows

/-! ### One marked cell -/

/-- A terminal of one cell, with a mark in it, in the history and on the other screen. -/
def markedTerminal (alternateActive : Bool) : Terminal where
  lastRow := 0
  lastCol := 0
  history := [[mark]]
  main := fun _ _ => mark
  alternate := fun _ _ => mark
  alternateActive
  lastPrinted := some 0x41
  control := ⟨0, 0, 0, 0, false, true, false⟩

theorem markedTerminal_marked (alternateActive : Bool) : (markedTerminal alternateActive).Marked :=
  ⟨⟨rfl, rfl⟩, rfl, rfl, rfl⟩

theorem visibleRows_single {terminal : Terminal} (h : terminal.Single) :
    terminal.visibleRows = [[terminal.visible 0 0]] := h.rows terminal.visible

theorem feed_single (alternateActive : Bool) (chunk : List UInt8) :
    (feed moves (markedTerminal alternateActive) chunk).Single := by
  obtain ⟨hrow, hcol⟩ := Terminal.applyAll_size moves (markedTerminal alternateActive) (functionsOf chunk)
  exact ⟨hrow, hcol⟩

/-- Rows that are not kept are seen to change. -/
theorem RowsKept.of_reuseSound (h : ∀ terminal : Terminal,
    (feed moves terminal chunk).alternateActive = terminal.alternateActive →
      ReuseSound moves terminal chunk) : RowsKept chunk := by
  refine ⟨fun hscreen => ?_, fun hscreen => ?_⟩
  · by_contra hnot
    have hsame : (feed moves (markedTerminal false) chunk).alternateActive = false :=
      feed_alternateActive.trans hscreen
    have hsound := h (markedTerminal false) hsame
    have hvisible := hsound.visible
    rw [visibleRows_single (feed_single false chunk)] at hvisible
    have hcell : (feed moves (markedTerminal false) chunk).visible 0 0 = mark :=
      (List.cons.inj (List.cons.inj hvisible).1).1
    rw [Terminal.visible, hsame] at hcell
    rcases (markedTerminal_marked false).main_changed moves hnot with hmain | hhistory
    · exact hmain hcell
    · exact hhistory hsound.history
  · by_contra hnot
    have hsame : (feed moves (markedTerminal true) chunk).alternateActive = true :=
      feed_alternateActive.trans hscreen
    have hvisible := (h (markedTerminal true) hsame).visible
    rw [visibleRows_single (feed_single true chunk)] at hvisible
    have hcell : (feed moves (markedTerminal true) chunk).visible 0 0 = mark :=
      (List.cons.inj (List.cons.inj hvisible).1).1
    rw [Terminal.visible, hsame] at hcell
    exact Terminal.alternate_changed moves (markedTerminal_marked true).toSingle rfl rfl hscreen hnot hcell

end

/-- A chunk that is taken to leave the rows, and takes the mark off the screen of the terminal. -/
structure Frozen (alternateActive : Bool) (chunk : List UInt8) : Prop where
  skipped : vtOutputMayChangeRows chunk = false
  screen : (feed (fun _ control => control) (markedTerminal alternateActive) chunk).alternateActive =
    alternateActive
  changed : (feed (fun _ control => control) (markedTerminal alternateActive) chunk).visibleRows ≠ [[mark]]

end Nmux.Ghostty
