import Nmux.Core.Session
import Nmux.Core.Surface

/-! The scrollback of a pane and the part of it that a fetch asks for. Lines are numbered from one on
the wire and from zero in the vectors. A sum that leaves its type and an index outside its vector
stop the server, so they are errors here. -/
namespace Nmux

open Protocol (RowSemanticPrompt)

namespace Protocol

/-- `table ScrollbackRow`. -/
structure ScrollbackRow where
  line : UInt64
  runs : Option (List CellRun)
  dirtyHash : UInt64
  rowStateHash : UInt64
  semanticPrompt : RowSemanticPrompt
  dirty : Bool
  kittyVirtualPlaceholder : Bool
deriving DecidableEq, Repr

/-- `table ScrollbackChunk`. -/
structure ScrollbackChunk where
  paneId : Option String
  scrollbackVersion : UInt64
  startLine : UInt64
  totalLines : UInt64
  rows : Option (List ScrollbackRow)
  styles : Option (List Style)
  colors : Option TerminalColorState
  hyperlinks : Option (List Hyperlink)
deriving DecidableEq, Repr

end Protocol

@[ext]
structure PaneScrollback where
  paneId : String
  version : UInt64
  styles : List PaneStyle
  colors : TerminalColors
  lines : List String
  rowRuns : List (List CellRun)
  semanticPrompts : List RowSemanticPrompt
  dirtyRows : List Bool
  kittyPlaceholders : List Bool
deriving DecidableEq, Repr

/-- The body of `pane_scrollback`. -/
def PaneState.paneScrollback (pane : PaneState) : PaneScrollback where
  paneId := pane.id
  version := pane.scrollbackVersion
  styles := pane.styles
  colors := pane.colors
  lines := pane.scrollbackLines
  rowRuns := rowRunsForLines pane.scrollbackLines pane.scrollbackRowRuns
  semanticPrompts := rowSemanticPromptsForLines pane.scrollbackLines pane.scrollbackSemanticPrompts
  dirtyRows := rowDirtyFlagsForLines pane.scrollbackLines pane.scrollbackDirtyRows
  kittyPlaceholders := rowKittyPlaceholdersForLines pane.scrollbackLines pane.scrollbackKittyPlaceholders

def Session.paneScrollback (session : Session) (paneId : String) : Option PaneScrollback :=
  (session.pane paneId).map (·.state.paneScrollback)

/-! ### A chunk -/

/-- `usize::saturating_add` on a 64-bit machine. -/
def saturatingAddUsize (a b : Nat) : Nat := min (a + b) (2 ^ 64 - 1)

/-- `a + b` of `u64`. -/
def checkedAdd64 (a b : UInt64) : Except String UInt64 :=
  if a.toNat + b.toNat < 2 ^ 64 then .ok (a + b) else .error "attempt to add with overflow"

def PaneScrollback.rowMetadata (scrollback : PaneScrollback) (row : Nat) : RowStateMetadata where
  semanticPrompt := scrollback.semanticPrompts[row]?.getD .none
  dirty := scrollback.dirtyRows[row]?.getD false
  kittyVirtualPlaceholder := scrollback.kittyPlaceholders[row]?.getD false

/-- One row of a chunk. -/
def PaneScrollback.buildRow (scrollback : PaneScrollback) (lineNumber : UInt64) (row : Nat)
    (line : String) (runs : List CellRun) : Protocol.ScrollbackRow where
  line := lineNumber
  runs := some (runs.map buildCellRun)
  dirtyHash := stableRowHash line
  rowStateHash := rowStateHash runs (scrollback.rowMetadata row)
  semanticPrompt := (scrollback.rowMetadata row).semanticPrompt
  dirty := (scrollback.rowMetadata row).dirty
  kittyVirtualPlaceholder := (scrollback.rowMetadata row).kittyVirtualPlaceholder

/-- The loop over the selected lines from an offset on. -/
def PaneScrollback.buildRows (scrollback : PaneScrollback) (startLine : UInt64) (start : Nat) :
    List String → Nat → Except String (List Protocol.ScrollbackRow)
  | [], _ => return []
  | line :: rest, offset => do
    let rowIndex := saturatingAddUsize start offset
    match scrollback.rowRuns[rowIndex]? with
    | none => throw "index out of bounds"
    | some runs =>
      let row := scrollback.buildRow (← checkedAdd64 startLine (UInt64.ofNat offset)) rowIndex line runs
      return row :: (← scrollback.buildRows startLine start rest (offset + 1))

/-- `get(start..end)`, or nothing for a range that is none. -/
def PaneScrollback.selected (scrollback : PaneScrollback) (start stop : Nat) : List String :=
  if start ≤ stop ∧ stop ≤ scrollback.lines.length then (scrollback.lines.drop start).take (stop - start)
  else []

/-- The body of `scrollback_chunk_frame_for_pane`, for the pane's scrollback. -/
def PaneScrollback.chunk (scrollback : PaneScrollback) (startLine : UInt64) (lineCount : UInt32) :
    Except String (Option Protocol.ScrollbackChunk) := do
  if startLine = 0 ∨ lineCount = 0 then return none
  else
    let start := (startLine - 1).toNat
    let stop := min (saturatingAddUsize start lineCount.toNat) scrollback.lines.length
    let rows ← scrollback.buildRows startLine start (scrollback.selected start stop) 0
    return some {
      paneId := some scrollback.paneId
      scrollbackVersion := scrollback.version
      startLine
      totalLines := UInt64.ofNat scrollback.lines.length
      rows := some rows
      styles := some scrollback.styles
      colors := some (buildTerminalColors scrollback.colors none true)
      hyperlinks := some [] }

/-- `scrollback_chunk_frame_for_pane`. -/
def Session.scrollbackChunkForPane (session : Session) (paneId : String) (startLine : UInt64)
    (lineCount : UInt32) : Except String (Option Protocol.ScrollbackChunk) :=
  match session.paneScrollback paneId with
  | none => .ok none
  | some scrollback => scrollback.chunk startLine lineCount

end Nmux
