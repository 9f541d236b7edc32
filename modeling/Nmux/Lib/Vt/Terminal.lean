import Mathlib.Tactic
import Nmux.Lib.Vt.Parser

/-! What control sequences do to the cells of a terminal with a main screen, an alternate one and a history.
Where a sequence leaves the cursor, the margins and the modes is a parameter here: each of the functions
below works on cells given where these are, within the screen. -/
namespace Nmux.Lib.Vt

/-- A function of the terminal that may change cells; or a move, which changes none. -/
inductive CellFunction where
  | move (action : Action)
  | put (byte : UInt8)
  | lineFeed
  | reverseLineFeed
  | reset
  | align
  | eraseBelow
  | eraseAbove
  | eraseAll
  | eraseHistory
  | eraseRight
  | eraseLeft
  | eraseLine
  | eraseChars (count : Nat)
  | insertChars (count : Nat)
  | deleteChars (count : Nat)
  | insertLines (count : Nat)
  | deleteLines (count : Nat)
  | scrollUp (count : Nat)
  | scrollDown (count : Nat)
  | repeatLast (count : Nat)
  | enterAlternate
  | leaveAlternate
deriving DecidableEq, Repr

/-! ### Functions of an action -/

/-- A number in decimal, and nothing for what is not one. -/
def number (bytes : List UInt8) : Option Nat :=
  if bytes ≠ [] && bytes.all fun byte => 0x30 ≤ byte && byte ≤ 0x39 then
    some (bytes.foldl (fun value byte => value * 10 + (byte.toNat - 0x30)) 0)
  else none

/-- The parameters, separated by semicolons. -/
def numbers (bytes : List UInt8) : List (Option Nat) := (bytes.splitOn 0x3b).map number

/-- The first parameter, zero if there is none. -/
def selector (parameters : List UInt8) : Nat := ((numbers parameters).head?.getD none).getD 0

def eraseDisplay (parameters : List UInt8) : List CellFunction :=
  match selector parameters with
  | 0 => [.eraseBelow]
  | 1 => [.eraseAbove]
  | 2 => [.eraseAll]
  | 3 => [.eraseHistory]
  | _ => []

def eraseInLine (parameters : List UInt8) : List CellFunction :=
  match selector parameters with
  | 0 => [.eraseRight]
  | 1 => [.eraseLeft]
  | 2 => [.eraseLine]
  | _ => []

/-- A private mode: the number of columns, which clears the screen, or a screen. -/
def setMode (enabled : Bool) : Option Nat → List CellFunction
  | some 3 => [.eraseAll]
  | some 47 | some 1047 | some 1049 => if enabled then [.enterAlternate] else [.leaveAlternate]
  | _ => []

def csiFunctions (parameters : List UInt8) (final : UInt8) : List CellFunction :=
  if parameters.head?.any isMarker then
    if parameters.head? = some 0x3f then
      if final = 0x4a then eraseDisplay parameters.tail
      else if final = 0x4b then eraseInLine parameters.tail
      else if final = 0x68 then (numbers parameters.tail).flatMap (setMode true)
      else if final = 0x6c then (numbers parameters.tail).flatMap (setMode false)
      else []
    else []
  else if final = 0x40 then [.insertChars (selector parameters)]
  else if final = 0x4a then eraseDisplay parameters
  else if final = 0x4b then eraseInLine parameters
  else if final = 0x4c then [.insertLines (selector parameters)]
  else if final = 0x4d then [.deleteLines (selector parameters)]
  else if final = 0x50 then [.deleteChars (selector parameters)]
  else if final = 0x53 then [.scrollUp (selector parameters)]
  else if final = 0x54 then [.scrollDown (selector parameters)]
  else if final = 0x58 then [.eraseChars (selector parameters)]
  else if final = 0x62 then [.repeatLast (selector parameters)]
  else []

def escFunctions (intermediates : List UInt8) (final : UInt8) : List CellFunction :=
  if intermediates = [] then
    if final = 0x44 || final = 0x45 then [.lineFeed]
    else if final = 0x4d then [.reverseLineFeed]
    else if final = 0x63 then [.reset]
    else []
  else if intermediates = [0x23] && final = 0x38 then [.align]
  else []

/-- The functions of an action; vertical tabs and form feeds are line feeds. -/
def cellFunctions : Action → List CellFunction
  | .print byte => [.put byte]
  | .execute control => if control = 0x0a || control = 0x0b || control = 0x0c then [.lineFeed] else []
  | .escDispatch intermediates final => escFunctions intermediates final
  | .csiDispatch parameters intermediates final =>
    if intermediates = [] then csiFunctions parameters final else []

/-- What a chunk does to a terminal whose parser is in the ground state, in order. -/
def functionsOf (chunk : List UInt8) : List CellFunction :=
  (parse .ground chunk).flatMap fun action => cellFunctions action ++ [.move action]

/-! ### Cells -/

/-- What the functions read of the cursor, the margins and the modes. -/
structure Control where
  row : Nat
  col : Nat
  top : Nat
  bottom : Nat
  pendingWrap : Bool
  wraparound : Bool
  insert : Bool
deriving DecidableEq, Repr

/-- The cells of a screen by row and column. -/
abbrev Grid := Nat → Nat → Char

def blank : Grid := fun _ _ => ' '

/-- A terminal; it has at least one row and one column. -/
structure Terminal where
  lastRow : Nat
  lastCol : Nat
  history : List (List Char)
  main : Grid
  alternate : Grid
  alternateActive : Bool
  lastPrinted : Option UInt8
  control : Control

namespace Grid

/-- The rows from one to another, with their cells. -/
def rows (grid : Grid) (lastRow lastCol : Nat) : List (List Char) :=
  (List.range (lastRow + 1)).map fun row => (List.range (lastCol + 1)).map (grid row)

def fill (grid : Grid) (area : Nat → Nat → Bool) (ch : Char) : Grid := fun row col =>
  if area row col then ch else grid row col

/-- The cells behind a place of a row go to the right. -/
def shiftRight (grid : Grid) (atRow atCol count : Nat) : Grid := fun row col =>
  if row = atRow ∧ atCol ≤ col then if col < atCol + count then ' ' else grid row (col - count)
  else grid row col

def shiftLeft (grid : Grid) (atRow atCol count lastCol : Nat) : Grid := fun row col =>
  if row = atRow ∧ atCol ≤ col then if col + count ≤ lastCol then grid row (col + count) else ' '
  else grid row col

/-- The rows of a region go up. -/
def shiftUp (grid : Grid) (top bottom count : Nat) : Grid := fun row col =>
  if top ≤ row ∧ row ≤ bottom then if row + count ≤ bottom then grid (row + count) col else ' '
  else grid row col

def shiftDown (grid : Grid) (top bottom count : Nat) : Grid := fun row col =>
  if top ≤ row ∧ row ≤ bottom then if top + count ≤ row then grid (row - count) col else ' '
  else grid row col

end Grid

namespace Terminal

variable (terminal : Terminal)

def row : Nat := min terminal.control.row terminal.lastRow

def col : Nat := min terminal.control.col terminal.lastCol

def bottom : Nat := min terminal.control.bottom terminal.lastRow

def top : Nat := min terminal.control.top terminal.bottom

/-- The screen that is shown. -/
def visible : Grid := if terminal.alternateActive then terminal.alternate else terminal.main

def draw (grid : Grid) : Terminal :=
  if terminal.alternateActive then { terminal with alternate := grid } else { terminal with main := grid }

/-- The rows below some row go up; from the top of the main screen they go into the history. -/
def scrollUpFrom (top count : Nat) : Terminal :=
  let scrolled := terminal.draw (terminal.visible.shiftUp top terminal.bottom count)
  if !terminal.alternateActive && top = 0 then
    { scrolled with
      history := terminal.history ++
        (terminal.main.rows terminal.lastRow terminal.lastCol).take (min count (terminal.bottom + 1)) }
  else scrolled

def scrollDownFrom (top count : Nat) : Terminal :=
  terminal.draw (terminal.visible.shiftDown top terminal.bottom count)

def erase (area : Nat → Nat → Bool) : Terminal := terminal.draw (terminal.visible.fill area ' ')

def lineFeed : Terminal :=
  if terminal.row = terminal.bottom then terminal.scrollUpFrom terminal.top 1 else terminal

/-- A character at a place; in insert mode the cells behind it make room. -/
def putAt (row col : Nat) (byte : UInt8) : Terminal :=
  let grid := if terminal.control.insert then terminal.visible.shiftRight row col 1 else terminal.visible
  { terminal.draw (grid.fill (fun r c => r = row && c = col) (Char.ofNat byte.toNat)) with
    lastPrinted := some byte }

/-- A character at the cursor, or in the next row behind the last column. -/
def put (byte : UInt8) : Terminal :=
  if terminal.control.pendingWrap && terminal.control.wraparound then
    let row := if terminal.row = terminal.bottom then terminal.row else min (terminal.row + 1) terminal.lastRow
    terminal.lineFeed.putAt row 0 byte
  else terminal.putAt terminal.row terminal.col byte

/-- A count of none is one. -/
def times (count : Nat) : Nat := max 1 count

variable (moves : Action → Control → Control)

def apply (terminal : Terminal) : CellFunction → Terminal
  | .move action => { terminal with control := moves action terminal.control }
  | .put byte => terminal.put byte
  | .lineFeed => terminal.lineFeed
  | .reverseLineFeed =>
    if terminal.row = terminal.top then terminal.scrollDownFrom terminal.top 1 else terminal
  | .reset =>
    { terminal with
      history := []
      main := blank
      alternate := blank
      alternateActive := false
      lastPrinted := none }
  | .align => terminal.draw fun _ _ => 'E'
  | .eraseBelow =>
    terminal.erase fun row col => terminal.row < row || (row = terminal.row && terminal.col ≤ col)
  | .eraseAbove =>
    terminal.erase fun row col => row < terminal.row || (row = terminal.row && col ≤ terminal.col)
  | .eraseAll => terminal.erase fun _ _ => true
  | .eraseHistory => if terminal.alternateActive then terminal else { terminal with history := [] }
  | .eraseRight => terminal.erase fun row col => row = terminal.row && terminal.col ≤ col
  | .eraseLeft => terminal.erase fun row col => row = terminal.row && col ≤ terminal.col
  | .eraseLine => terminal.erase fun row _ => row = terminal.row
  | .eraseChars count =>
    terminal.erase fun row col =>
      row = terminal.row && terminal.col ≤ col && col < terminal.col + times count
  | .insertChars count =>
    terminal.draw (terminal.visible.shiftRight terminal.row terminal.col (times count))
  | .deleteChars count =>
    terminal.draw (terminal.visible.shiftLeft terminal.row terminal.col (times count) terminal.lastCol)
  | .insertLines count =>
    if terminal.top ≤ terminal.row && terminal.row ≤ terminal.bottom then
      terminal.scrollDownFrom terminal.row (times count)
    else terminal
  | .deleteLines count =>
    if terminal.top ≤ terminal.row && terminal.row ≤ terminal.bottom then
      terminal.draw (terminal.visible.shiftUp terminal.row terminal.bottom (times count))
    else terminal
  | .scrollUp count => terminal.scrollUpFrom terminal.top (times count)
  | .scrollDown count => terminal.scrollDownFrom terminal.top (times count)
  | .repeatLast count =>
    match terminal.lastPrinted with
    | none => terminal
    | some byte =>
      terminal.draw (terminal.visible.fill
        (fun row col => row = terminal.row && terminal.col ≤ col && col < terminal.col + times count)
        (Char.ofNat byte.toNat))
  | .enterAlternate =>
    if terminal.alternateActive then terminal
    else { terminal with alternate := blank, alternateActive := true }
  | .leaveAlternate => { terminal with alternateActive := false }

/-- The terminal after some functions. -/
def applyAll (terminal : Terminal) (functions : List CellFunction) : Terminal :=
  functions.foldl (apply moves) terminal

/-- The rows on the screen that is shown. -/
def visibleRows : List (List Char) := terminal.visible.rows terminal.lastRow terminal.lastCol

end Terminal

end Nmux.Lib.Vt
