import Nmux.Core.Host
import Nmux.Core.Keys

/-! The data a terminal engine reads and writes. An engine sees a pane as a `TerminalInput` and
answers with a `TerminalUpdate`; everything a pane keeps of its terminal is in these two records.
Where the source converts a record to the wire table of the same fields, field by field, the two are
one type here: cursors, modes and styles. -/
namespace Nmux

open Protocol (SurfaceKind CursorShape MouseTrackingMode MouseFormat PatchKind RowSemanticPrompt
  CellSemanticContent)

/-- `TerminalCursor`, and the session's `Cursor`. -/
abbrev Cursor := Protocol.CursorState

abbrev TerminalModes := Protocol.TerminalModeState

def TerminalModes.default : TerminalModes where
  bracketedPaste := false
  mouseTracking := false
  focusReporting := false
  applicationKeypad := false
  applicationCursor := false
  origin := false
  wraparound := true
  mouseTrackingMode := .none
  mouseFormat := .x10

structure TerminalColors where
  defaultFgRgba : UInt32
  defaultBgRgba : UInt32
  cursorRgba : UInt32
  cursorRgbaSet : Bool
  paletteRgba : List UInt32
deriving DecidableEq, Repr

def TerminalColors.default : TerminalColors :=
  { defaultFgRgba := 0, defaultBgRgba := 0, cursorRgba := 0, cursorRgbaSet := false, paletteRgba := [] }

abbrev PaneStyle := Protocol.Style

def PaneStyle.default : PaneStyle := { fgRgba := 0, bgRgba := 0, underlineRgba := 0, flags := 0 }

/-- A run of cells of one style. `hyperlinkId` stays on the server: frames write `0` for it. -/
structure CellRun where
  text : String
  cellWidths : List UInt8
  styleId : UInt32
  flags : UInt32
  hyperlinkId : UInt32
  semanticContent : CellSemanticContent
deriving DecidableEq, Repr

def CellRun.plain (text : String) : CellRun where
  text := text
  cellWidths := List.replicate text.toList.length 1
  styleId := 0
  flags := 0
  hyperlinkId := 0
  semanticContent := .output

def cellRunsText (runs : List CellRun) : String := runs.foldl (fun text run => text ++ run.text) ""

def plainRowRuns (lines : List String) : List (List CellRun) := lines.map fun line => [.plain line]

def plainRowSemanticPrompts (lines : List String) : List RowSemanticPrompt :=
  List.replicate lines.length .none

def plainRowDirtyFlags (lines : List String) : List Bool := List.replicate lines.length false

def plainRowKittyPlaceholders (lines : List String) : List Bool :=
  List.replicate lines.length false

/-- What an engine is shown of a pane. -/
structure TerminalInput where
  paneId : String
  cols : UInt32
  rows : UInt32
  surface : SurfaceKind
  cursor : Cursor
  modes : TerminalModes
  title : String
  workingDirectory : String
  colors : TerminalColors
  styles : List PaneStyle
  surfaceLines : List String
  surfaceRowRuns : List (List CellRun)
  surfaceSemanticPrompts : List RowSemanticPrompt
  surfaceDirtyRows : List Bool
  surfaceKittyPlaceholders : List Bool
  scrollbackLines : List String
  scrollbackRowRuns : List (List CellRun)
  scrollbackSemanticPrompts : List RowSemanticPrompt
  scrollbackDirtyRows : List Bool
  scrollbackKittyPlaceholders : List Bool
deriving DecidableEq, Repr

/-- What an engine answers. -/
structure TerminalUpdate where
  patchKind : PatchKind
  surface : SurfaceKind
  preserveScrollback : Bool
  cursor : Cursor
  modes : TerminalModes
  title : String
  workingDirectory : String
  colors : TerminalColors
  styles : List PaneStyle
  surfaceLines : List String
  surfaceRowRuns : List (List CellRun)
  surfaceSemanticPrompts : List RowSemanticPrompt
  surfaceDirtyRows : List Bool
  surfaceKittyPlaceholders : List Bool
  scrollbackLines : List String
  scrollbackRowRuns : List (List CellRun)
  scrollbackSemanticPrompts : List RowSemanticPrompt
  scrollbackDirtyRows : List Bool
  scrollbackKittyPlaceholders : List Bool
deriving DecidableEq, Repr

def TerminalUpdate.plain (patchKind : PatchKind) (surface : SurfaceKind) (cursor : Cursor)
    (surfaceLines scrollbackLines : List String) : TerminalUpdate where
  patchKind := patchKind
  surface := surface
  preserveScrollback := false
  cursor := cursor
  modes := .default
  title := ""
  workingDirectory := ""
  colors := .default
  styles := [.default]
  surfaceLines := surfaceLines
  surfaceRowRuns := plainRowRuns surfaceLines
  surfaceSemanticPrompts := plainRowSemanticPrompts surfaceLines
  surfaceDirtyRows := plainRowDirtyFlags surfaceLines
  surfaceKittyPlaceholders := plainRowKittyPlaceholders surfaceLines
  scrollbackLines := scrollbackLines
  scrollbackRowRuns := plainRowRuns scrollbackLines
  scrollbackSemanticPrompts := plainRowSemanticPrompts scrollbackLines
  scrollbackDirtyRows := plainRowDirtyFlags scrollbackLines
  scrollbackKittyPlaceholders := plainRowKittyPlaceholders scrollbackLines

/-- `trait TerminalEngine` over an engine state `σ`, with the trait's default methods; `init` is the
state a new engine starts in. -/
structure TerminalEngine (σ : Type) where
  init : σ
  applyOutput : σ → TerminalInput → List UInt8 → σ × Option TerminalUpdate
  resize : σ → TerminalInput → UInt32 → UInt32 → σ × Option TerminalUpdate
  drainPtyWrites : σ → σ × List (List UInt8) := fun state => (state, [])
  encodeKeyInput : σ → KeyTerminalInput → σ × Option (List UInt8) := fun state _ => (state, none)
  encodeMouseInput : σ → MouseTerminalInput → σ × Option (List UInt8) := fun state _ => (state, none)

/-- `PaneTerminalEngines`: one engine a pane id, created in its initial state on first use and
never removed. A missing entry of the source's map is a pane whose engine is still initial. -/
abbrev PaneTerminalEngines (σ : Type) := String → σ

def PaneTerminalEngines.new {σ : Type} (engine : TerminalEngine σ) : PaneTerminalEngines σ :=
  fun _ => engine.init

/-! ### Row data -/

@[simp] theorem plainRowRuns_length (lines : List String) :
    (plainRowRuns lines).length = lines.length := by
  simp [plainRowRuns]

@[simp] theorem plainRowSemanticPrompts_length (lines : List String) :
    (plainRowSemanticPrompts lines).length = lines.length := by
  simp [plainRowSemanticPrompts]

@[simp] theorem plainRowDirtyFlags_length (lines : List String) :
    (plainRowDirtyFlags lines).length = lines.length := by
  simp [plainRowDirtyFlags]

@[simp] theorem plainRowKittyPlaceholders_length (lines : List String) :
    (plainRowKittyPlaceholders lines).length = lines.length := by
  simp [plainRowKittyPlaceholders]

@[simp] theorem cellRunsText_plain (line : String) : cellRunsText [.plain line] = line := by
  simp [cellRunsText, CellRun.plain]

end Nmux
