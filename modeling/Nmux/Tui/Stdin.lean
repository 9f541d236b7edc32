import Nmux.Tui.Layout
import Nmux.Core.Keys
import Nmux.Lib.Occurrence

/-! What is typed at the interactive client. The standard input is read in pieces, and each piece is
taken apart by itself: pastes, mouse reports and keys are found in it, what lies between is forwarded
as it is, and the detach byte ends the client wherever it stands. -/
namespace Nmux.Tui

open Lib (OccursAt)

def bracketedPasteStart : List UInt8 := [0x1b, 0x5b, 0x32, 0x30, 0x30, 0x7e]
def bracketedPasteEnd : List UInt8 := [0x1b, 0x5b, 0x32, 0x30, 0x31, 0x7e]
def sgrMouseStart : List UInt8 := [0x1b, 0x5b, 0x3c]
def stdinBytesDetach : UInt8 := 0x1d

inductive DetachKey where
  | ctrlRightBracket | none
deriving DecidableEq, Repr

def DetachKey.byte : DetachKey → Option UInt8
  | .ctrlRightBracket => some stdinBytesDetach
  | .none => Option.none

inductive StdinKey where
  | up | down | left | right | enter | escape | tab | backTab
  | openMenu (action : MenuAction)
deriving DecidableEq, Repr

structure StdinKeyInput where
  key : StdinKey
  bytes : List UInt8
deriving DecidableEq, Repr

structure SgrMouseInput where
  row : UInt32
  col : UInt32
  button : MouseButton
  action : MouseAction
  modifiers : UInt32
deriving DecidableEq, Repr

inductive StdinByteForward where
  | raw (bytes : List UInt8)
  | paste (text : String)
  | mouse (mouse : SgrMouseInput)
  | key (key : StdinKeyInput)
deriving DecidableEq, Repr

/-! ### Detaching -/

def splitStdinBytesForDetach (input : List UInt8) (detachByte : Option UInt8) :
    Option (List UInt8) × Bool :=
  match detachByte with
  | none => (some input, false)
  | some detachByte =>
    match input.findIdx? fun byte => byte == detachByte with
    | none => (some input, false)
    | some index =>
      let beforeDetach := input.take index
      if beforeDetach.isEmpty then (none, true) else (some beforeDetach, true)

/-! ### Searching -/

def findBytes (haystack needle : List UInt8) : Option ℕ :=
  if needle.isEmpty then some 0
  else (Lib.windows needle.length haystack).findIdx? fun window => window == needle

/-- `u32::from_str` on bytes. -/
def parseU32 (text : List UInt8) : Option UInt32 :=
  let digits := if text.head? = some 0x2b then text.tail else text
  if digits.isEmpty then none
  else (digits.foldlM (fun value digit =>
    if 0x30 ≤ digit ∧ digit ≤ 0x39 ∧ value * 10 + (digit - 0x30).toNat < 2 ^ 32 then
      some (value * 10 + (digit - 0x30).toNat)
    else none) 0).map UInt32.ofNat

def fromUtf8 (bytes : List UInt8) : Option String := String.fromUTF8? ⟨bytes.toArray⟩

/-- What the parameters and the final byte of a mouse report say. -/
def sgrMouseInput (params : List UInt8) (finalByte : UInt8) : Option SgrMouseInput := do
  let _ ← fromUtf8 params
  match params.splitOn 0x3b with
  | [code, x, y] =>
    let code ← parseU32 code
    let x ← parseU32 x
    let y ← parseU32 y
    if x = 0 ∨ y = 0 then none
    else
      let action : MouseAction :=
        if finalByte = 0x6d then .release else if code &&& 32 ≠ 0 then .motion else .press
      let button : MouseButton :=
        if code &&& 64 ≠ 0 then if code &&& 1 ≠ 0 then .wheelDown else .wheelUp
        else if code &&& 3 = 0 then .left
        else if code &&& 3 = 1 then .middle
        else if code &&& 3 = 2 then .right
        else .none
      let modifiers :=
        (if code &&& 4 ≠ 0 then 1 else 0) ||| (if code &&& 16 ≠ 0 then 2 else 0) |||
          (if code &&& 8 ≠ 0 then 4 else 0)
      some ⟨y - 1, x - 1, button, action, modifiers⟩
  | _ => none

def isParamByte (byte : UInt8) : Bool := byte != 0x4d && byte != 0x6d

def parseSgrMouseSequence (input : List UInt8) : Option (SgrMouseInput × ℕ) :=
  if sgrMouseStart.isPrefixOf input then
    let params := (input.drop sgrMouseStart.length).takeWhile isParamByte
    match (input.drop sgrMouseStart.length).dropWhile isParamByte with
    | [] => none
    | finalByte :: _ =>
      (sgrMouseInput params finalByte).map fun mouse =>
        (mouse, sgrMouseStart.length + params.length + 1)
  else none

def findSgrMouseSequenceFrom : ℕ → List UInt8 → ℕ → Option (ℕ × SgrMouseInput × ℕ)
  | 0, _, _ => none
  | fuel + 1, input, searchOffset =>
    if searchOffset < input.length then do
      let startRel ← findBytes (input.drop searchOffset) sgrMouseStart
      let start := searchOffset + startRel
      match parseSgrMouseSequence (input.drop start) with
      | some (mouse, len) => some (start, mouse, start + len)
      | none => findSgrMouseSequenceFrom fuel input (start + 1)
    else none

/-- Every turn of the loop begins further on, so the length of the input bounds them. -/
def findSgrMouseSequence (input : List UInt8) : Option (ℕ × SgrMouseInput × ℕ) :=
  findSgrMouseSequenceFrom input.length input 0

def keyCandidates : List (List UInt8 × StdinKey) :=
  [([0x1b, 0x5b, 0x41], .up),
    ([0x1b, 0x5b, 0x42], .down),
    ([0x1b, 0x5b, 0x43], .right),
    ([0x1b, 0x5b, 0x44], .left),
    ([0x1b, 0x5b, 0x5a], .backTab),
    ([0x0d], .enter),
    ([0x0a], .enter),
    ([0x09], .tab),
    ([0x1b, 0x73], .openMenu .sessions),
    ([0x1b, 0x6e], .openMenu .newSession),
    ([0x1b, 0x77], .openMenu .windows),
    ([0x1b, 0x63], .openMenu .clipboard),
    ([0x1b], .escape)]

def parseTuiKeySequence (input : List UInt8) : Option (StdinKeyInput × ℕ) :=
  (keyCandidates.find? fun candidate => candidate.1.isPrefixOf input).map fun candidate =>
    (⟨candidate.2, candidate.1⟩, candidate.1.length)

def findTuiKeySequence (input : List UInt8) : Option (ℕ × StdinKeyInput × ℕ) :=
  (List.range input.length).findSome? fun start =>
    (parseTuiKeySequence (input.drop start)).map fun parsed =>
      (start, parsed.1, start + parsed.2)

/-- The earlier of two candidates, the first one where both begin at one place. -/
def earlierCandidate : Option (ℕ × StdinByteForward × ℕ) → Option (ℕ × StdinByteForward × ℕ) →
    Option (ℕ × StdinByteForward × ℕ)
  | none, candidate => candidate
  | some best, none => some best
  | some best, some candidate => if candidate.1 < best.1 then some candidate else some best

def nextStructuredStdinForward (paste mouse key : Option (ℕ × StdinByteForward × ℕ)) :
    Option (ℕ × StdinByteForward × ℕ) :=
  earlierCandidate (earlierCandidate paste mouse) key

/-! ### One read -/

/-- A forward with the place of the first byte it was read from and the place past the last. -/
structure Placed where
  forward : StdinByteForward
  start : ℕ
  past : ℕ
deriving DecidableEq, Repr

def StdinByteForward.isMouseOrKey : StdinByteForward → Bool
  | .mouse _ | .key _ => true
  | .raw _ | .paste _ => false

def StdinByteForward.retained : StdinByteForward → Bool
  | .raw bytes => !bytes.isEmpty
  | .paste _ | .mouse _ | .key _ => true

/-- The loop of `stdin_byte_forwards`, which keeps for each forward the bytes it comes from. -/
def placedForwardsFrom : ℕ → List UInt8 → ℕ → List Placed
  | 0, _, _ => []
  | fuel + 1, input, offset =>
    if offset < input.length then
      let paste := findBytes (input.drop offset) bracketedPasteStart
      let mouse := (findSgrMouseSequence (input.drop offset)).map fun (start, mouse, past) =>
        (start, StdinByteForward.mouse mouse, past)
      let key := (findTuiKeySequence (input.drop offset)).map fun (start, key, past) =>
        (start, StdinByteForward.key key, past)
      match nextStructuredStdinForward
          (paste.map fun start => (start, StdinByteForward.raw [], 0)) mouse key with
      | none => [⟨.raw (input.drop offset), offset, input.length⟩]
      | some (startRel, forward, endRel) =>
        let start := offset + startRel
        let before : List Placed :=
          if offset < start then [⟨.raw ((input.drop offset).take startRel), offset, start⟩] else []
        if forward.isMouseOrKey then
          before ++ ⟨forward, start, offset + endRel⟩ ::
            placedForwardsFrom fuel input (offset + endRel)
        else
          let pasteStart := start + bracketedPasteStart.length
          match findBytes (input.drop pasteStart) bracketedPasteEnd with
          | none => before ++ [⟨.raw (input.drop start), start, input.length⟩]
          | some endRel =>
            let pasteEnd := pasteStart + endRel
            let past := pasteEnd + bracketedPasteEnd.length
            let pasted := match fromUtf8 ((input.drop pasteStart).take endRel) with
              | some text => .paste text
              | none => .raw ((input.drop start).take (past - start))
            before ++ ⟨pasted, start, past⟩ :: placedForwardsFrom fuel input past
    else []

/-- Every turn of the loop begins further on, so the length of the input bounds them. -/
def placedForwards (input : List UInt8) : List Placed :=
  (placedForwardsFrom input.length input 0).filter fun placed => placed.forward.retained

def stdinByteForwards (input : List UInt8) : List StdinByteForward :=
  (placedForwards input).map Placed.forward

/-! ### A run of reads -/

/-- What the client makes of the bytes of the stream between two places. -/
inductive Handled where
  | forward (placed : Placed)
  | detach (place : ℕ)
deriving DecidableEq, Repr

/-- The reads of the client from a place of the stream on, up to a detach. -/
def handledFrom (key : DetachKey) : ℕ → List (List UInt8) → List Handled
  | _, [] => []
  | offset, read :: reads =>
    let (input, detach) := splitStdinBytesForDetach read key.byte
    let forwards := (input.map placedForwards).getD []
    let handled := forwards.map fun placed =>
      Handled.forward { placed with start := offset + placed.start, past := offset + placed.past }
    if detach then handled ++ [.detach (offset + (input.map List.length).getD 0)]
    else handled ++ handledFrom key (offset + read.length) reads

def Handled.forward? : Handled → Option StdinByteForward
  | .forward placed => some placed.forward
  | .detach _ => none

/-- The forwards of a run of reads, up to a detach. -/
def forwardsOf (key : DetachKey) (reads : List (List UInt8)) : List StdinByteForward :=
  (handledFrom key 0 reads).filterMap Handled.forward?

/-- Puts a forward before others, merging raw bytes with raw bytes. -/
def mergeForward : StdinByteForward → List StdinByteForward → List StdinByteForward
  | .raw bytes, .raw more :: rest => .raw (bytes ++ more) :: rest
  | .raw [], rest => rest
  | forward, rest => forward :: rest

/-- The forwards with adjacent raw pieces merged. -/
def mergeRaw (forwards : List StdinByteForward) : List StdinByteForward :=
  forwards.foldr mergeForward []

end Nmux.Tui
