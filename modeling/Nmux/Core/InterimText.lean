import Nmux.Core.Terminal

/-! The interim text engine: an escape-sequence parser that keeps plain text and a few terminal
modes, and a line buffer. Its only state is the parser's; the lines live in the pane's scrollback,
and the surface is always the last rows of it. -/
namespace Nmux

open Protocol (MouseTrackingMode MouseFormat SurfaceKind)

/-! ### The escape parser -/

inductive InterimAnsiState where
  | ground
  | escape
  | csi (buffer : List UInt8)
  | osc (escapePending : Bool)
  | stringControl (escapePending : Bool)
deriving DecidableEq, Repr

def setInterimMouseTracking (modes : TerminalModes) (mode : MouseTrackingMode) (enabled : Bool) :
    TerminalModes :=
  if enabled then { modes with mouseTracking := true, mouseTrackingMode := mode }
  else if modes.mouseTrackingMode = mode then
    { modes with mouseTracking := false, mouseTrackingMode := .none }
  else modes

def setInterimMouseFormat (modes : TerminalModes) (format : MouseFormat) (enabled : Bool) :
    TerminalModes :=
  if enabled then { modes with mouseFormat := format }
  else if modes.mouseFormat = format then { modes with mouseFormat := .x10 }
  else modes

/-- `str::parse::<u32>` on a parameter: digits, possibly after a plus sign, below `2 ^ 32`. -/
def parseParam (bytes : List UInt8) : Option Nat :=
  let digits := if bytes.head? = some 0x2b then bytes.tail else bytes
  if digits.isEmpty || !digits.all (fun byte => 0x30 ≤ byte && byte ≤ 0x39) then none
  else
    let value := digits.foldl (fun value byte => value * 10 + (byte.toNat - 0x30)) 0
    if value < 2 ^ 32 then some value else none

/-- The parameters of a sequence, split at semicolons. -/
def splitParams (bytes : List UInt8) : List (List UInt8) := bytes.splitOn 0x3b

def applyInterimMode (modes : TerminalModes) (isPrivate : Bool) (code : Nat) (enabled : Bool) :
    TerminalModes :=
  match isPrivate, code with
  | true, 1 => { modes with applicationCursor := enabled }
  | true, 6 => { modes with origin := enabled }
  | true, 7 => { modes with wraparound := enabled }
  | true, 1000 => setInterimMouseTracking modes .normal enabled
  | true, 1002 => setInterimMouseTracking modes .button enabled
  | true, 1003 => setInterimMouseTracking modes .any enabled
  | true, 1004 => { modes with focusReporting := enabled }
  | true, 1006 => setInterimMouseFormat modes .sgr enabled
  | true, 1016 => setInterimMouseFormat modes .sgrPixels enabled
  | true, 2004 => { modes with bracketedPaste := enabled }
  | _, _ => modes

def applyInterimModeSet (modes : TerminalModes) (params : List UInt8) (enabled : Bool) :
    TerminalModes :=
  let isPrivate := params.head? = some 0x3f
  let params := if isPrivate then params.tail else params
  (splitParams params).foldl (fun modes param =>
    match parseParam param with
    | some code => applyInterimMode modes isPrivate code enabled
    | none => modes) modes

def applyInterimCsi (modes : TerminalModes) (params : List UInt8) (finalByte : UInt8) :
    TerminalModes :=
  if finalByte = 0x68 then applyInterimModeSet modes params true
  else if finalByte = 0x6c then applyInterimModeSet modes params false
  else modes

/-- What the parser has after some bytes: its state, the text so far and the modes. -/
structure InterimAnsiOutput where
  state : InterimAnsiState
  text : List UInt8
  modes : TerminalModes
deriving DecidableEq, Repr

/-- One byte of `consume`. -/
def consumeByte (out : InterimAnsiOutput) (byte : UInt8) : InterimAnsiOutput :=
  match out.state with
  | .ground =>
    if byte = 0x1b then { out with state := .escape }
    else if byte = 0x9b then { out with state := .csi [] }
    else { out with text := out.text ++ [byte] }
  | .escape =>
    if byte = 0x5b then { out with state := .csi [] }
    else if byte = 0x5d then { out with state := .osc false }
    else if byte = 0x50 || byte = 0x58 || byte = 0x5e || byte = 0x5f then
      { out with state := .stringControl false }
    else if byte = 0x3d then
      { out with state := .ground, modes := { out.modes with applicationKeypad := true } }
    else if byte = 0x3e then
      { out with state := .ground, modes := { out.modes with applicationKeypad := false } }
    else if byte = 0x1b then { out with state := .escape }
    else { out with state := .ground }
  | .csi buffer =>
    if byte = 0x1b then { out with state := .escape }
    else if 0x40 ≤ byte && byte ≤ 0x7e then
      { out with state := .ground, modes := applyInterimCsi out.modes buffer byte }
    else { out with state := .csi (buffer ++ [byte]) }
  | .osc escapePending =>
    if escapePending then
      if byte = 0x5c then { out with state := .ground } else { out with state := .osc (byte = 0x1b) }
    else if byte = 0x07 then { out with state := .ground }
    else if byte = 0x1b then { out with state := .osc true }
    else out
  | .stringControl escapePending =>
    if escapePending then
      if byte = 0x5c then { out with state := .ground }
      else { out with state := .stringControl (byte = 0x1b) }
    else if byte = 0x1b then { out with state := .stringControl true }
    else out

def consume (state : InterimAnsiState) (bytes : List UInt8) (modes : TerminalModes) :
    InterimAnsiOutput :=
  bytes.foldl consumeByte { state, text := [], modes }

/-! ### Text -/

/-- A UTF-8 sequence that waits for continuation bytes: the bounds of the next one, how many follow
it, and the scalar value so far. -/
structure Utf8Pending where
  low : UInt8
  high : UInt8
  following : Nat
  value : Nat
deriving DecidableEq, Repr

/-- The first byte of a sequence: a character, the wait for the next byte, or nothing valid. -/
def utf8Start (byte : UInt8) : Char ⊕ Option Utf8Pending :=
  if byte < 0x80 then .inl (Char.ofNat byte.toNat)
  else if 0xc2 ≤ byte && byte ≤ 0xdf then .inr (some ⟨0x80, 0xbf, 0, byte.toNat - 0xc0⟩)
  else if byte = 0xe0 then .inr (some ⟨0xa0, 0xbf, 1, 0⟩)
  else if byte = 0xed then .inr (some ⟨0x80, 0x9f, 1, 0xd⟩)
  else if 0xe1 ≤ byte && byte ≤ 0xef then .inr (some ⟨0x80, 0xbf, 1, byte.toNat - 0xe0⟩)
  else if byte = 0xf0 then .inr (some ⟨0x90, 0xbf, 2, 0⟩)
  else if 0xf1 ≤ byte && byte ≤ 0xf3 then .inr (some ⟨0x80, 0xbf, 2, byte.toNat - 0xf0⟩)
  else if byte = 0xf4 then .inr (some ⟨0x80, 0x8f, 2, 4⟩)
  else .inr none

/-- `String::from_utf8_lossy`: every maximal invalid piece becomes one replacement character, and
decoding goes on at the byte that ended it. -/
def fromUtf8LossyFrom (pending : Option Utf8Pending) : List UInt8 → List Char
  | [] => if pending.isSome then ['\uFFFD'] else []
  | byte :: rest =>
    match pending with
    | some wait =>
      if wait.low ≤ byte && byte ≤ wait.high then
        let value := wait.value * 64 + (byte.toNat - 0x80)
        if wait.following = 0 then Char.ofNat value :: fromUtf8LossyFrom none rest
        else fromUtf8LossyFrom (some ⟨0x80, 0xbf, wait.following - 1, value⟩) rest
      else
        match utf8Start byte with
        | .inl ch => '\uFFFD' :: ch :: fromUtf8LossyFrom none rest
        | .inr (some wait) => '\uFFFD' :: fromUtf8LossyFrom (some wait) rest
        | .inr none => '\uFFFD' :: '\uFFFD' :: fromUtf8LossyFrom none rest
    | none =>
      match utf8Start byte with
      | .inl ch => ch :: fromUtf8LossyFrom none rest
      | .inr (some wait) => fromUtf8LossyFrom (some wait) rest
      | .inr none => '\uFFFD' :: fromUtf8LossyFrom none rest

def fromUtf8Lossy (bytes : List UInt8) : List Char := fromUtf8LossyFrom none bytes

/-- `replace("\r\n", "\n")` and then `replace('\r', "\n")`. -/
def normalizeNewlines : List Char → List Char
  | '\r' :: '\n' :: rest => '\n' :: normalizeNewlines rest
  | '\r' :: rest => '\n' :: normalizeNewlines rest
  | ch :: rest => ch :: normalizeNewlines rest
  | [] => []

/-- `char::is_control`. -/
def isControl (ch : Char) : Bool := ch.toNat < 0x20 || (0x7f ≤ ch.toNat && ch.toNat < 0xa0)

def lineWidth (line : String) : UInt32 :=
  if line.toList.length < 2 ^ 32 then UInt32.ofNat line.toList.length else UInt32.ofNat (2 ^ 32 - 1)

/-- The line buffer while characters are merged: complete lines, the line being built, and whether
the characters still go to the last complete line. -/
structure InterimMerge where
  lines : List String
  current : String
  appending : Bool
  cursorCol : UInt32
  sawOutput : Bool
  endedWithNewline : Bool
deriving DecidableEq, Repr

/-- One character of `merge_interim_pty_output`. -/
def mergeChar (merge : InterimMerge) (ch : Char) : InterimMerge :=
  if ch = '\n' then
    { merge with
      lines := if merge.appending then merge.lines else merge.lines ++ [merge.current]
      current := ""
      appending := false
      cursorCol := 0
      sawOutput := true
      endedWithNewline := true }
  else if ch ≠ '\t' && isControl ch then
    { merge with sawOutput := true, endedWithNewline := false }
  else if merge.appending then
    let line := (merge.lines.getLast?.getD "").push ch
    { merge with
      lines := merge.lines.dropLast ++ [line]
      cursorCol := lineWidth line
      sawOutput := true
      endedWithNewline := false }
  else
    let current := merge.current.push ch
    { merge with
      current
      cursorCol := lineWidth current
      sawOutput := true
      endedWithNewline := false }

def mergeInterimPtyOutput (previousLines : List String) (appendToPreviousLine : Bool)
    (output : List UInt8) : List String × UInt32 :=
  let appending := appendToPreviousLine && !previousLines.isEmpty
  let merge := (normalizeNewlines (fromUtf8Lossy output)).foldl mergeChar
    { lines := previousLines
      current := ""
      appending
      cursorCol := if appending then lineWidth (previousLines.getLast?.getD "") else 0
      sawOutput := false
      endedWithNewline := false }
  let lines :=
    if !merge.appending && (!merge.current.isEmpty || (!merge.sawOutput && merge.lines.isEmpty)) then
      merge.lines ++ [merge.current]
    else merge.lines
  (lines, if merge.endedWithNewline then 0 else merge.cursorCol)

/-! ### The engine -/

/-- The update for a line buffer: the surface is its last `rows` lines, the cursor on the last. -/
def interimTextUpdate (input : TerminalInput) (modes : TerminalModes) (rows : UInt32)
    (scrollbackLines : List String) (cursorCol : UInt32) : TerminalUpdate :=
  let surfaceLines := scrollbackLines.drop (scrollbackLines.length - rows.toNat)
  let cursor := { input.cursor with
    row := UInt32.ofNat (surfaceLines.length - 1)
    col := cursorCol }
  { TerminalUpdate.plain .replaceRows input.surface cursor surfaceLines scrollbackLines with
    modes
    title := input.title
    workingDirectory := input.workingDirectory
    colors := input.colors }

def interimApplyOutput (parser : InterimAnsiState) (input : TerminalInput) (output : List UInt8) :
    InterimAnsiState × Option TerminalUpdate :=
  let parsed := consume parser output input.modes
  let (scrollbackLines, cursorCol) :=
    mergeInterimPtyOutput input.scrollbackLines (0 < input.cursor.col) parsed.text
  (parsed.state, some (interimTextUpdate input parsed.modes input.rows scrollbackLines cursorCol))

def interimResize (parser : InterimAnsiState) (input : TerminalInput) (_cols rows : UInt32) :
    InterimAnsiState × Option TerminalUpdate :=
  (parser,
    some (interimTextUpdate input input.modes rows input.scrollbackLines input.cursor.col))

/-- `InterimTextTerminalEngine`. -/
def interimTextTerminalEngine : TerminalEngine InterimAnsiState where
  init := .ground
  applyOutput := interimApplyOutput
  resize := interimResize

end Nmux
