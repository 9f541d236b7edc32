import Mathlib.Data.List.Basic

/-! Control sequences of a terminal, as ECMA-48 and the VT220 have them. Control characters are executed
inside a sequence, escape starts another one wherever it comes, and `CAN` and `SUB` end what was begun. The
bytes from `0x80` on belong to strings and to text. -/
namespace Nmux.Lib.Vt

inductive ParserState where
  | ground
  | escape (intermediates : List UInt8)
  | csi (parameters intermediates : List UInt8)
  | csiIgnore
  | osc
  | controlString
deriving DecidableEq, Repr

/-- What the terminal is told to do. -/
inductive Action where
  | print (byte : UInt8)
  | execute (control : UInt8)
  | escDispatch (intermediates : List UInt8) (final : UInt8)
  | csiDispatch (parameters intermediates : List UInt8) (final : UInt8)
deriving DecidableEq, Repr

def isControlByte (byte : UInt8) : Bool := byte < 0x20

def isIntermediate (byte : UInt8) : Bool := 0x20 ≤ byte && byte ≤ 0x2f

def isParameter (byte : UInt8) : Bool := 0x30 ≤ byte && byte ≤ 0x3f

/-- `<`, `=`, `>` and `?`, which only start parameters. -/
def isMarker (byte : UInt8) : Bool := 0x3c ≤ byte && byte ≤ 0x3f

/-- A byte behind an escape. -/
def escapeByte (intermediates : List UInt8) (byte : UInt8) : ParserState × List Action :=
  if isControlByte byte then (.escape intermediates, [.execute byte])
  else if isIntermediate byte then (.escape (intermediates ++ [byte]), [])
  else if byte < 0x7f then
    if intermediates = [] && byte = 0x5b then (.csi [] [], [])
    else if intermediates = [] && byte = 0x5d then (.osc, [])
    else if intermediates = [] && (byte = 0x50 || byte = 0x58 || byte = 0x5e || byte = 0x5f) then
      (.controlString, [])
    else (.ground, [.escDispatch intermediates byte])
  else (.escape intermediates, [])

/-- A byte of a control sequence. -/
def csiByte (parameters intermediates : List UInt8) (byte : UInt8) : ParserState × List Action :=
  if isControlByte byte then (.csi parameters intermediates, [.execute byte])
  else if isIntermediate byte then (.csi parameters (intermediates ++ [byte]), [])
  else if isParameter byte then
    if intermediates ≠ [] || (isMarker byte && parameters ≠ []) then (.csiIgnore, [])
    else (.csi (parameters ++ [byte]) [], [])
  else if byte < 0x7f then (.ground, [.csiDispatch parameters intermediates byte])
  else (.csi parameters intermediates, [])

def parseByte (state : ParserState) (byte : UInt8) : ParserState × List Action :=
  if byte = 0x1b then (.escape [], [])
  else if byte = 0x18 || byte = 0x1a then (.ground, [.execute byte])
  else
    match state with
    | .ground =>
      if isControlByte byte then (.ground, [.execute byte])
      else if byte = 0x7f then (.ground, [])
      else (.ground, [.print byte])
    | .escape intermediates => escapeByte intermediates byte
    | .csi parameters intermediates => csiByte parameters intermediates byte
    | .csiIgnore =>
      if isControlByte byte then (.csiIgnore, [.execute byte])
      else if 0x40 ≤ byte && byte < 0x7f then (.ground, [])
      else (.csiIgnore, [])
    | .osc => if byte = 0x07 then (.ground, []) else (.osc, [])
    | .controlString => (.controlString, [])

/-- What the bytes tell the terminal to do. -/
def parse : ParserState → List UInt8 → List Action
  | _, [] => []
  | state, byte :: rest => (parseByte state byte).2 ++ parse (parseByte state byte).1 rest

end Nmux.Lib.Vt
