import Nmux.Client.Frames
import Nmux.Core.Scrollback
import Nmux.Live.Client

/-! Fetching scrollback. The client checks that a chunk numbers its lines as it says it does; to fetch
the last lines it first asks for one line, which tells it how many there are. -/
namespace Nmux.Client

open Lib.Check
open Live (ScrollbackFetchSummary)
open Protocol (RowSemanticPrompt)

structure ScrollbackLine where
  line : UInt64
  text : String
  runs : List CellRunSummary
  dirtyHash : UInt64
  rowStateHash : UInt64
  semanticPrompt : RowSemanticPrompt
  dirty : Bool
  kittyVirtualPlaceholder : Bool
deriving DecidableEq, Repr

structure ScrollbackChunkSummary where
  paneId : String
  scrollbackVersion : UInt64
  startLine : UInt64
  totalLines : UInt64
  styles : List StyleSummary
  hyperlinks : List HyperlinkSummary
  colors : TerminalColorSummary
  lines : List ScrollbackLine
deriving DecidableEq, Repr

/-! ### Checks -/

def validateScrollbackFetchRange (startLine : UInt64) (lineCount : UInt32) : Except String Unit := do
  require (startLine != 0) "scrollback fetch start_line must be 1-based"
  require (lineCount != 0) "scrollback fetch line_count must be nonzero"

def validateScrollbackChunkStartLine (startLine : UInt64) : Except String Unit :=
  require (startLine != 0) "scrollback chunk start_line must be 1-based"

def validateScrollbackRowLine (line : UInt64) : Except String Unit :=
  require (line != 0) "scrollback row line must be 1-based"

/-- The row has the number its place in the chunk gives it, and the history has such a line. -/
def validateScrollbackRowPublicRange (startLine totalLines : UInt64) (index : Nat) (rowLine : UInt64) :
    Except String Unit :=
  if startLine.toNat + index < 2 ^ 64 then do
    let expected := startLine + UInt64.ofNat index
    require (rowLine == expected) ("scrollback row line " ++ toString rowLine ++
      " does not match expected public line " ++ toString expected)
    require (rowLine ≤ totalLines) ("scrollback row line " ++ toString rowLine ++
      " exceeds total_lines " ++ toString totalLines)
  else .error "scrollback row line overflow"

/-- The checks of a row that look at its contents. -/
def validateScrollbackRowContent (runs : List CellRunSummary) (semanticPrompt : RowSemanticPrompt)
    (styles : List StyleSummary) (hyperlinks : List HyperlinkSummary) : Except String Unit := do
  validateRowSemanticPrompt semanticPrompt
  validateCellRunSemanticContent runs
  validateCellRunStyleIds runs styles
  validateCellRunHyperlinkIds runs hyperlinks

def decodedScrollbackRuns (row : Protocol.ScrollbackRow) : List CellRunSummary :=
  (row.runs.getD []).map decodedCellRun

/-- The loop of `scrollback_chunk_from_frame` over the rows from an index on. -/
def scrollbackLinesFrom (startLine totalLines : UInt64) (styles : List StyleSummary)
    (hyperlinks : List HyperlinkSummary) :
    List Protocol.ScrollbackRow → Nat → Except String (List ScrollbackLine)
  | [], _ => return []
  | row :: rest, index => do
    let runs := decodedScrollbackRuns row
    validateScrollbackRowContent runs row.semanticPrompt styles hyperlinks
    validateScrollbackRowLine row.line
    validateScrollbackRowPublicRange startLine totalLines index row.line
    let line : ScrollbackLine := {
      line := row.line
      text := renderRunSummaries runs
      runs
      dirtyHash := row.dirtyHash
      rowStateHash := row.rowStateHash
      semanticPrompt := row.semanticPrompt
      dirty := row.dirty
      kittyVirtualPlaceholder := row.kittyVirtualPlaceholder }
    return line :: (← scrollbackLinesFrom startLine totalLines styles hyperlinks rest (index + 1))

/-- `scrollback_chunk_from_frame`, for the body of the frame. -/
def scrollbackChunkFromFrame (chunk : Protocol.ScrollbackChunk) :
    Except String ScrollbackChunkSummary := do
  let styles := chunk.styles.getD []
  let hyperlinks := (chunk.hyperlinks.getD []).map decodedHyperlink
  validateHyperlinkTable hyperlinks
  let colors := (chunk.colors.map decodedTerminalColors).getD .default
  require (!terminalColorsHavePaletteDiff colors) "scrollback chunk cannot carry palette diff"
  match chunk.rows with
  | none => throw "scrollback chunk has no rows"
  | some rows =>
    validateScrollbackChunkStartLine chunk.startLine
    let lines ← scrollbackLinesFrom chunk.startLine chunk.totalLines styles hyperlinks rows 0
    let paneId ← requiredString chunk.paneId "scrollback chunk pane_id"
    return {
      paneId, scrollbackVersion := chunk.scrollbackVersion, startLine := chunk.startLine
      totalLines := chunk.totalLines, styles, hyperlinks, colors, lines }

/-! ### A fetch -/

/-- What a server answers a fetch with. -/
inductive ScrollbackReply where
  | chunk (chunk : Protocol.ScrollbackChunk)
  | staleVersion
  | refused (message : String)
deriving DecidableEq, Repr

/-- The checks of `scrollback_fetch_from_frame`. -/
def validateScrollbackFetch (fetch : ScrollbackFetchSummary) : Except String Unit := do
  validateScrollbackFetchRange fetch.startLine fetch.lineCount
  let _ ← requiredString (some fetch.paneId) "scrollback fetch pane_id"
  let _ ← requiredString (some fetch.actorId) "scrollback fetch actor_id"

/-- The server's side: the fetch is checked, then the version, then the pane. -/
def serveScrollbackFetch (session : Session) (fetch : ScrollbackFetchSummary) :
    Except String ScrollbackReply :=
  match validateScrollbackFetch fetch with
  | .error message => .ok (.refused message)
  | .ok () =>
    if ((session.scrollbackVersion fetch.paneId).any fun current =>
        fetch.knownScrollbackVersion != 0 && fetch.knownScrollbackVersion != current) then
      .ok .staleVersion
    else do
      match ← session.scrollbackChunkForPane fetch.paneId fetch.startLine fetch.lineCount with
      | some chunk => return .chunk chunk
      | none => return .refused ("pane not found: " ++ fetch.paneId)

section
variable (serve : ScrollbackFetchSummary → Except String ScrollbackReply)

/-- `read_scrollback_chunk_with_stale_retry`, the fetch that was sent included. -/
def fetchWithStaleRetry (fetch : ScrollbackFetchSummary) : Except String ScrollbackChunkSummary := do
  match ← serve fetch with
  | .chunk chunk => scrollbackChunkFromFrame chunk
  | .refused message => throw message
  | .staleVersion =>
    match ← serve { fetch with knownScrollbackVersion := 0 } with
    | .chunk chunk => scrollbackChunkFromFrame chunk
    | .refused message => throw message
    | .staleVersion => throw "stale scrollback version"

/-- The range of a fetch: the one given, or the last lines of a history of `totalLines`. -/
def tailStartLine (totalLines : UInt64) (tailCount : UInt32) : UInt64 :=
  if totalLines > tailCount.toUInt64 then totalLines - tailCount.toUInt64 + 1 else 1

/-- `fetch_scrollback_chunk_with_selection`, against one server. -/
def fetchScrollbackChunkWithSelection (paneId actorId : String) (startLine : UInt64)
    (lineCount : UInt32) (tailCount : Option UInt32) (knownVersionFor : UInt64 → UInt32 → UInt64) :
    Except String ScrollbackChunkSummary := do
  let (startLine, lineCount) ←
    match tailCount with
    | some tailCount => do
      let probe ← fetchWithStaleRetry serve ⟨paneId, actorId, 1, 1, 0⟩
      pure (tailStartLine probe.totalLines tailCount, tailCount)
    | none => pure (startLine, lineCount)
  fetchWithStaleRetry serve
    ⟨paneId, actorId, startLine, lineCount, knownVersionFor startLine lineCount⟩

end

end Nmux.Client
