import Nmux.Protocol
import Nmux.Lib.Decimal

/-! What a terminal program is sent for a key or a mouse event, when no engine encodes it. Modifiers
are bits: 1 shift, 2 control, 4 alt, 8 super. -/
namespace Nmux

open Protocol (MouseFormat)

structure KeyTerminalInput where
  keyName : String
  modifiers : UInt32
  applicationKeypad : Bool
  applicationCursor : Bool
deriving DecidableEq, Repr

inductive MouseAction where
  | press
  | release
  | motion
deriving DecidableEq, Repr

inductive MouseButton where
  | none
  | left
  | middle
  | right
  | wheelUp
  | wheelDown
deriving DecidableEq, Repr

structure MouseTerminalInput where
  row : UInt32
  col : UInt32
  pixelX : Option UInt32
  pixelY : Option UInt32
  button : MouseButton
  action : MouseAction
  modifiers : UInt32
  mouseFormat : MouseFormat
  cols : UInt32
  rows : UInt32
deriving DecidableEq, Repr

def utf8Bytes (text : String) : List UInt8 := text.toUTF8.toList

theorem utf8Bytes_append (text more : String) : utf8Bytes (text ++ more) = utf8Bytes text ++ utf8Bytes more :=
  Lib.toUTF8_append text more

theorem utf8Bytes_injective : Function.Injective utf8Bytes := Lib.toUTF8_injective

theorem utf8Bytes_toString (value : ℕ) : utf8Bytes (toString value) = Lib.decimalBytes value :=
  Lib.toUTF8_toString value

theorem utf8Bytes_toString32 (value : UInt32) : utf8Bytes (toString value) = Lib.decimalBytes value.toNat :=
  utf8Bytes_toString value.toNat

theorem utf8Bytes_toString64 (value : UInt64) : utf8Bytes (toString value) = Lib.decimalBytes value.toNat :=
  utf8Bytes_toString value.toNat

/-! ### Keys -/

/-- `named_key_bytes`, as the text of the sequence. -/
def namedKeyText (keyName : String) (applicationKeypad applicationCursor : Bool) : Option String :=
  let keypad (plain application : String) := some (if applicationKeypad then application else plain)
  let arrow (final : String) := some ((if applicationCursor then "\x1bO" else "\x1b[") ++ final)
  match keyName with
  | "numpad-enter" => keypad "\r" "\x1bOM"
  | "numpad-0" => keypad "0" "\x1bOp"
  | "numpad-1" => keypad "1" "\x1bOq"
  | "numpad-2" => keypad "2" "\x1bOr"
  | "numpad-3" => keypad "3" "\x1bOs"
  | "numpad-4" => keypad "4" "\x1bOt"
  | "numpad-5" => keypad "5" "\x1bOu"
  | "numpad-6" => keypad "6" "\x1bOv"
  | "numpad-7" => keypad "7" "\x1bOw"
  | "numpad-8" => keypad "8" "\x1bOx"
  | "numpad-9" => keypad "9" "\x1bOy"
  | "arrow-up" => arrow "A"
  | "arrow-down" => arrow "B"
  | "arrow-right" => arrow "C"
  | "arrow-left" => arrow "D"
  | "enter" => some "\r"
  | "tab" => some "\t"
  | "space" => some " "
  | "backspace" => some "\x7f"
  | "escape" => some "\x1b"
  | "insert" => some "\x1b[2~"
  | "delete" => some "\x1b[3~"
  | "home" => some "\x1b[H"
  | "end" => some "\x1b[F"
  | "page-up" => some "\x1b[5~"
  | "page-down" => some "\x1b[6~"
  | "f1" => some "\x1bOP"
  | "f2" => some "\x1bOQ"
  | "f3" => some "\x1bOR"
  | "f4" => some "\x1bOS"
  | "f5" => some "\x1b[15~"
  | "f6" => some "\x1b[17~"
  | "f7" => some "\x1b[18~"
  | "f8" => some "\x1b[19~"
  | "f9" => some "\x1b[20~"
  | "f10" => some "\x1b[21~"
  | "f11" => some "\x1b[23~"
  | "f12" => some "\x1b[24~"
  | _ => none

def namedKeyBytes (keyName : String) (applicationKeypad applicationCursor : Bool) :
    Option (List UInt8) :=
  (namedKeyText keyName applicationKeypad applicationCursor).map utf8Bytes

/-- `xterm_modifier_param`, which always has a value. -/
def xtermModifierParam (modifiers : UInt32) : UInt32 :=
  1 + (if modifiers &&& 1 != 0 then 1 else 0) + (if modifiers &&& 4 != 0 then 2 else 0) +
    (if modifiers &&& 2 != 0 then 4 else 0) + (if modifiers &&& 8 != 0 then 8 else 0)

/-- The first parameter and the final byte of a modified key's sequence. -/
def modifiedKeySequence (keyName : String) : Option (String × String) :=
  match keyName with
  | "arrow-up" => some ("1", "A")
  | "arrow-down" => some ("1", "B")
  | "arrow-right" => some ("1", "C")
  | "arrow-left" => some ("1", "D")
  | "home" => some ("1", "H")
  | "end" => some ("1", "F")
  | "insert" => some ("2", "~")
  | "delete" => some ("3", "~")
  | "page-up" => some ("5", "~")
  | "page-down" => some ("6", "~")
  | "f1" => some ("1", "P")
  | "f2" => some ("1", "Q")
  | "f3" => some ("1", "R")
  | "f4" => some ("1", "S")
  | "f5" => some ("15", "~")
  | "f6" => some ("17", "~")
  | "f7" => some ("18", "~")
  | "f8" => some ("19", "~")
  | "f9" => some ("20", "~")
  | "f10" => some ("21", "~")
  | "f11" => some ("23", "~")
  | "f12" => some ("24", "~")
  | _ => none

def modifiedNamedKeyBytes (keyName : String) (modifiers : UInt32) : Option (List UInt8) :=
  if modifiers = 0 ∨ 15 < modifiers then none
  else if keyName = "tab" then if modifiers = 1 then some (utf8Bytes "\x1b[Z") else none
  else
    (modifiedKeySequence keyName).map fun (first, final) =>
      utf8Bytes ("\x1b[" ++ first ++ ";" ++ toString (xtermModifierParam modifiers) ++ final)

/-! ### Mouse -/

/-- `checked_add(1)`. -/
def checkedSucc32 (n : UInt32) : Option UInt32 := if n.toNat + 1 < 2 ^ 32 then some (n + 1) else none

def sgrMouseCode (input : MouseTerminalInput) : Nat :=
  (match input.button with
    | .left => 0
    | .middle => 1
    | .right => 2
    | .none => 3
    | .wheelUp => 64
    | .wheelDown => 65) +
    (if input.action = .motion then 32 else 0) + (if input.modifiers &&& 1 != 0 then 4 else 0) +
    (if input.modifiers &&& 4 != 0 then 8 else 0) + (if input.modifiers &&& 2 != 0 then 16 else 0)

def encodeSgrMouseInput (input : MouseTerminalInput) : Option (List UInt8) :=
  if input.mouseFormat ≠ .sgr ∧ input.mouseFormat ≠ .sgrPixels then none
  else if input.rows ≤ input.row ∨ input.cols ≤ input.col then none
  else
    let position := if input.mouseFormat = .sgrPixels then (input.pixelX, input.pixelY)
      else (checkedSucc32 input.col, checkedSucc32 input.row)
    match position with
    | (some x, some y) =>
      some (utf8Bytes ("\x1b[<" ++ toString (sgrMouseCode input) ++ ";" ++ toString x ++ ";" ++
        toString y ++ if input.action = .release then "m" else "M"))
    | _ => none

end Nmux
