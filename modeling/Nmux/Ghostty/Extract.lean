import Nmux.Core.Terminal

/-! The rows of an update. The terminal library shows a viewport of its rows: the engine extracts the one at
the bottom for the surface, and for the scrollback either reads all rows through a viewport that it moves
down, or puts rows together from what the pane has and what is on the screen. Rows stand here for what is
extracted of them, a style for itself and not for its number in the table of the update. -/
namespace Nmux.Ghostty

open Protocol (SurfaceKind RowSemanticPrompt)

/-- What is extracted of a row. -/
structure ScreenRow where
  line : String
  runs : List CellRun
  semanticPrompt : RowSemanticPrompt
  dirty : Bool
  kittyPlaceholder : Bool
deriving DecidableEq, Repr

structure ExtractedRows where
  lines : List String
  rowRuns : List (List CellRun)
  semanticPrompts : List RowSemanticPrompt
  dirtyRows : List Bool
  kittyPlaceholders : List Bool
deriving DecidableEq, Repr

namespace ExtractedRows

def truncated (rows : ExtractedRows) (len : Nat) : ExtractedRows where
  lines := rows.lines.take len
  rowRuns := rows.rowRuns.take len
  semanticPrompts := rows.semanticPrompts.take len
  dirtyRows := rows.dirtyRows.take len
  kittyPlaceholders := rows.kittyPlaceholders.take len

/-- `extend` of each vector. -/
def append (rows more : ExtractedRows) : ExtractedRows where
  lines := rows.lines ++ more.lines
  rowRuns := rows.rowRuns ++ more.rowRuns
  semanticPrompts := rows.semanticPrompts ++ more.semanticPrompts
  dirtyRows := rows.dirtyRows ++ more.dirtyRows
  kittyPlaceholders := rows.kittyPlaceholders ++ more.kittyPlaceholders

/-- `last` of each vector. -/
def last (rows : ExtractedRows) : Option ScreenRow := do
  let line ← rows.lines.getLast?
  let runs ← rows.rowRuns.getLast?
  let semanticPrompt ← rows.semanticPrompts.getLast?
  let dirty ← rows.dirtyRows.getLast?
  let kittyPlaceholder ← rows.kittyPlaceholders.getLast?
  return { line, runs, semanticPrompt, dirty, kittyPlaceholder }

end ExtractedRows

/-- `extract_rows` of the rows a viewport shows. -/
def extractRows (rows : List ScreenRow) : ExtractedRows where
  lines := rows.map (·.line)
  rowRuns := rows.map (·.runs)
  semanticPrompts := rows.map (·.semanticPrompt)
  dirtyRows := rows.map (·.dirty)
  kittyPlaceholders := rows.map (·.kittyPlaceholder)

/-- The main screen of the terminal library: the rows of the history, and the rows on the screen, of which
there is at least one. -/
structure MainScreen where
  history : List ScreenRow
  screen : List ScreenRow
  screen_ne : screen ≠ []

namespace MainScreen

def rows (main : MainScreen) : List ScreenRow := main.history ++ main.screen

def totalRows (main : MainScreen) : Nat := main.rows.length

/-- The rows a viewport shows that is scrolled down from the top by some rows. -/
def viewport (main : MainScreen) (offset : Nat) : List ScreenRow :=
  (main.rows.drop offset).take main.screen.length

/-- The loop of `scrollback_rows`: the viewport goes down by a row, as long as there is one below it, and
its last row is taken. -/
def scrollDown (main : MainScreen) : Nat → Nat → ExtractedRows → ExtractedRows
  | 0, _, rows => rows
  | missing + 1, offset, rows =>
    let offset := min (offset + 1) main.history.length
    match (extractRows (main.viewport offset)).last with
    | none => rows
    | some row => scrollDown main missing offset (rows.append (extractRows [row]))

/-- `scrollback_rows`, of all rows. -/
def scrollbackRows (main : MainScreen) : ExtractedRows :=
  if main.totalRows = 0 then extractRows []
  else
    let rows := (extractRows (main.viewport 0)).truncated main.totalRows
    main.scrollDown (main.totalRows - rows.lines.length) 0 rows

end MainScreen

/-! ### Rows from the pane -/

def rowRunsPrefixOrPlain (lines : List String) (runs : List (List CellRun)) (len : Nat) : List (List CellRun) :=
  if len ≤ runs.length then runs.take len else plainRowRuns lines

def rowValuesPrefixOrDefault {α : Type} (values : List α) (len : Nat) (default : α) : List α :=
  if len ≤ values.length then values.take len else List.replicate len default

/-- What the pane has of its scrollback, as far as it is used for a number of rows. -/
def inputScrollbackRows (input : TerminalInput) (len : Nat) : ExtractedRows where
  lines := input.scrollbackLines.take len
  rowRuns := rowRunsPrefixOrPlain (input.scrollbackLines.take len) input.scrollbackRowRuns len
  semanticPrompts := rowValuesPrefixOrDefault input.scrollbackSemanticPrompts len .none
  dirtyRows := rowValuesPrefixOrDefault input.scrollbackDirtyRows len false
  kittyPlaceholders := rowValuesPrefixOrDefault input.scrollbackKittyPlaceholders len false

def cachedMainScrollbackRows (input : TerminalInput) (totalRows : Nat) (surfaceRows : ExtractedRows) :
    Option ExtractedRows :=
  if totalRows < surfaceRows.lines.length then none
  else if input.scrollbackLines.length < totalRows - surfaceRows.lines.length then none
  else some ((inputScrollbackRows input (totalRows - surfaceRows.lines.length)).append surfaceRows)

/-- The rows the pane shows. -/
def surfaceInputRows (input : TerminalInput) : ExtractedRows where
  lines := input.surfaceLines
  rowRuns := input.surfaceRowRuns
  semanticPrompts := input.surfaceSemanticPrompts
  dirtyRows := input.surfaceDirtyRows
  kittyPlaceholders := input.surfaceKittyPlaceholders

/-- The rows of its scrollback. -/
def scrollbackInputRows (input : TerminalInput) : ExtractedRows where
  lines := input.scrollbackLines
  rowRuns := input.scrollbackRowRuns
  semanticPrompts := input.scrollbackSemanticPrompts
  dirtyRows := input.scrollbackDirtyRows
  kittyPlaceholders := input.scrollbackKittyPlaceholders

/-! ### The update -/

/-- Both screens of the terminal library, and which of them it shows. -/
structure Screens where
  main : MainScreen
  alternate : List ScreenRow
  alternateActive : Bool

def surfaceKind (screens : Screens) : SurfaceKind := if screens.alternateActive then .alternate else .main

/-- The rows on the screen it shows. -/
def Screens.visible (screens : Screens) : List ScreenRow :=
  if screens.alternateActive then screens.alternate else screens.main.screen

/-- The rows `extract_update` puts into an update. -/
structure UpdateRows where
  surface : ExtractedRows
  scrollback : ExtractedRows
  preserveScrollback : Bool
deriving DecidableEq, Repr

def extractUpdateRows (screens : Screens) (input : TerminalInput) (preserveInputRows : Bool) : UpdateRows :=
  let surface := surfaceKind screens
  if preserveInputRows && surface = input.surface then
    { surface := surfaceInputRows input
      scrollback := scrollbackInputRows input
      preserveScrollback := false }
  else
    let surfaceRows := extractRows screens.visible
    if surface = .main then
      let totalRows := screens.main.totalRows
      if totalRows ≤ surfaceRows.lines.length then
        { surface := surfaceRows
          scrollback := surfaceRows.truncated totalRows
          preserveScrollback := false }
      else
        match cachedMainScrollbackRows input totalRows surfaceRows with
        | some rows => { surface := surfaceRows, scrollback := rows, preserveScrollback := false }
        | none =>
          if input.scrollbackLines.isEmpty then
            { surface := surfaceRows
              scrollback := screens.main.scrollbackRows
              preserveScrollback := false }
          else
            { surface := surfaceRows
              scrollback := inputScrollbackRows input input.scrollbackLines.length
              preserveScrollback := true }
    else
      { surface := surfaceRows
        scrollback := { scrollbackInputRows input with
          rowRuns := if input.scrollbackRowRuns.length = input.scrollbackLines.length then
              input.scrollbackRowRuns
            else plainRowRuns input.scrollbackLines }
        preserveScrollback := false }

/-! ### All rows -/

theorem extractRows_injective : Function.Injective extractRows := by
  intro rows rows' h
  induction rows generalizing rows' with
  | nil =>
    have hlines := congrArg ExtractedRows.lines h
    exact (List.map_eq_nil_iff.mp hlines.symm).symm
  | cons row rows ih =>
    cases rows' with
    | nil => cases congrArg ExtractedRows.lines h
    | cons row' rows' =>
      simp only [extractRows, List.map_cons, ExtractedRows.mk.injEq, List.cons.injEq] at h
      obtain ⟨⟨hline, hlines⟩, ⟨hruns, hrowRuns⟩, ⟨hprompt, hprompts⟩, ⟨hdirty, hdirtyRows⟩, hkitty, hkitties⟩ := h
      have hrows : rows = rows' := ih (by
        simp only [extractRows, hlines, hrowRuns, hprompts, hdirtyRows, hkitties])
      obtain ⟨line, runs, prompt, dirty, kitty⟩ := row
      obtain ⟨line', runs', prompt', dirty', kitty'⟩ := row'
      obtain rfl : line = line' := hline
      obtain rfl : runs = runs' := hruns
      obtain rfl : prompt = prompt' := hprompt
      obtain rfl : dirty = dirty' := hdirty
      obtain rfl : kitty = kitty' := hkitty
      rw [hrows]

theorem extractRows_append (rows more : List ScreenRow) :
    (extractRows rows).append (extractRows more) = extractRows (rows ++ more) := by
  simp only [extractRows, ExtractedRows.append, List.map_append]

theorem extractRows_truncated (rows : List ScreenRow) (len : Nat) :
    (extractRows rows).truncated len = extractRows (rows.take len) := by
  simp only [extractRows, ExtractedRows.truncated, List.map_take]

theorem extractRows_last (rows : List ScreenRow) : (extractRows rows).last = rows.getLast? := by
  simp only [extractRows, ExtractedRows.last, List.getLast?_map]
  cases rows.getLast? <;> rfl

namespace MainScreen

/-- The last row of a viewport with a whole screen below its top. -/
theorem viewport_last {main : MainScreen} {offset : Nat} (h : offset ≤ main.history.length) :
    (main.viewport offset).getLast? = main.rows[offset + main.screen.length - 1]? := by
  have hpositive := List.length_pos_iff.mpr main.screen_ne
  have hlength : main.rows.length = main.history.length + main.screen.length := List.length_append
  rw [List.getLast?_eq_getElem?, viewport, List.length_take, List.length_drop, List.getElem?_take,
    List.getElem?_drop, if_pos (by omega)]
  congr 1
  omega

/-- **The rows of the scrollback are all rows**: each step down takes the row after those taken. -/
theorem scrollbackRows_eq (main : MainScreen) : main.scrollbackRows = extractRows main.rows := by
  have hpositive := List.length_pos_iff.mpr main.screen_ne
  have htotal : main.totalRows = main.history.length + main.screen.length := List.length_append
  have hrows : main.rows.length = main.totalRows := rfl
  have hloop : ∀ missing offset, offset + main.screen.length + missing = main.totalRows →
      main.scrollDown missing offset (extractRows (main.rows.take (offset + main.screen.length))) =
        extractRows main.rows := by
    intro missing
    induction missing with
    | zero =>
      intro offset hoffset
      rw [scrollDown, List.take_of_length_le (by omega)]
    | succ missing ih =>
      intro offset hoffset
      have hmin : min (offset + 1) main.history.length = offset + 1 := by omega
      have hindex : offset + 1 + main.screen.length - 1 = offset + main.screen.length := by omega
      have hlast : (main.viewport (offset + 1)).getLast? = some main.rows[offset + main.screen.length] := by
        rw [viewport_last (by omega), hindex]
        exact List.getElem?_eq_getElem (by omega)
      rw [scrollDown, hmin, extractRows_last, hlast]
      dsimp only
      rw [extractRows_append, ← List.take_succ_eq_append_getElem]
      have hnext := ih (offset + 1) (by omega)
      rwa [Nat.add_right_comm] at hnext
  unfold scrollbackRows
  rw [if_neg (by omega)]
  dsimp only
  have hfirst : (extractRows (main.viewport 0)).truncated main.totalRows =
      extractRows (main.rows.take (0 + main.screen.length)) := by
    rw [extractRows_truncated, viewport, List.drop_zero, Nat.zero_add, List.take_take,
      Nat.min_eq_right (by omega)]
  have hlength : (extractRows (main.rows.take (0 + main.screen.length))).lines.length = main.screen.length := by
    simp only [extractRows, List.length_map, List.length_take]
    omega
  rw [hfirst, hlength]
  exact hloop _ 0 (by omega)

end MainScreen

end Nmux.Ghostty
