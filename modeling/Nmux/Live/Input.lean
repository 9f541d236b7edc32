import Nmux.Live.Client
import Nmux.Core.Keys
import Nmux.Daemon.Output

/-! Input of a live client. It is checked against the modes of the pane it names, encoded by the pane's
engine, accepted by the session and written to the host; what cannot be forwarded is answered with an
error. -/
namespace Nmux.Live

open Protocol (MouseTrackingMode)

structure MouseSummary where
  row : UInt32
  col : UInt32
  pixelX : Option UInt32
  pixelY : Option UInt32
  button : MouseButton
  action : MouseAction
  modifiers : UInt32
deriving DecidableEq, Repr

structure InputSummary where
  paneId : String
  actorId : String
  inputSeq : UInt64
  text : String
  bytes : List UInt8
  pasteText : Option String
  keyName : Option String
  keyModifiers : UInt32
  mouse : Option MouseSummary
  requiresFocusReporting : Bool
  requiresMouseTracking : Bool
deriving DecidableEq, Repr

inductive InputRejection where
  | focusReportingDisabled
  | mouseTrackingDisabled
  | mouseCoordinatesOutOfBounds
  | mouseActionRejected (mode : MouseTrackingMode)
deriving DecidableEq, Repr

def InputRejection.message : InputRejection → String
  | .focusReportingDisabled => "input rejected: focus reporting is disabled"
  | .mouseTrackingDisabled => "input rejected: mouse tracking is disabled"
  | .mouseCoordinatesOutOfBounds => "input rejected: mouse coordinates are outside pane bounds"
  | .mouseActionRejected mode =>
    if mode = .x10 then "input rejected: X10 mouse tracking accepts press events only"
    else if mode = .normal then
      "input rejected: normal mouse tracking accepts press and release events only"
    else if mode = .button then
      "input rejected: button mouse tracking requires a pressed button for motion"
    else if mode = .none then "input rejected: mouse tracking is disabled"
    else "input rejected: mouse action is not accepted by current tracking mode"

def mouseInputAllowed (mode : MouseTrackingMode) (mouse : MouseSummary) : Bool :=
  if mode = .x10 then mouse.action == .press
  else if mode = .normal then mouse.action == .press || mouse.action == .release
  else if mode = .button then mouse.action != .motion || mouse.button != .none
  else mode = .any

def pasteInputBytes (text : String) (bracketed : Bool) : Except String (List UInt8) :=
  if text.contains "\x1b[201~" then
    .error "paste input contains a bracketed paste terminator"
  else if bracketed then
    .ok (utf8Bytes "\x1b[200~" ++ utf8Bytes text ++ utf8Bytes "\x1b[201~")
  else .ok (utf8Bytes text)

namespace InputSummary

def mouseForwardingRejection (input : InputSummary) (session : Session) : Option InputRejection :=
  match input.mouse with
  | none => if session.paneMouseTracking input.paneId then none else some .mouseTrackingDisabled
  | some mouse =>
    match session.paneMouseTrackingMode input.paneId with
    | none => some .mouseTrackingDisabled
    | some mode =>
      if mode = .none then some .mouseTrackingDisabled
      else
        match session.paneSize input.paneId with
        | none => none
        | some (cols, rows) =>
          if rows ≤ mouse.row ∨ cols ≤ mouse.col then some .mouseCoordinatesOutOfBounds
          else if mouseInputAllowed mode mouse then none
          else some (.mouseActionRejected mode)

def forwardingRejection (input : InputSummary) (session : Session) : Option InputRejection :=
  if input.requiresFocusReporting && !session.paneFocusReporting input.paneId then
    some .focusReportingDisabled
  else if input.requiresMouseTracking then input.mouseForwardingRejection session
  else none

/-- `forwarded_bytes`, with the engine's state after it. -/
def forwardedBytes {σ : Type} (engine : TerminalEngine σ) (input : InputSummary) (session : Session)
    (state : σ) : Except String (List UInt8) × σ :=
  match input.keyName with
  | some keyName =>
    let keypad := session.paneApplicationKeypad input.paneId
    let cursor := session.paneApplicationCursor input.paneId
    match engine.encodeKeyInput state ⟨keyName, input.keyModifiers, keypad, cursor⟩ with
    | (state, some bytes) => (.ok bytes, state)
    | (state, none) =>
      if input.keyModifiers ≠ 0 then
        match modifiedNamedKeyBytes keyName input.keyModifiers with
        | some bytes => (.ok bytes, state)
        | none => (.error ("terminal engine cannot encode modified key name: " ++ keyName), state)
      else
        match namedKeyBytes keyName keypad cursor with
        | some bytes => (.ok bytes, state)
        | none => (.error ("unsupported key name: " ++ keyName), state)
  | none =>
    match input.mouse with
    | some mouse =>
      match session.paneSize input.paneId, session.paneMouseFormat input.paneId with
      | some (cols, rows), some mouseFormat =>
        let mouseInput : MouseTerminalInput := {
          row := mouse.row, col := mouse.col, pixelX := mouse.pixelX, pixelY := mouse.pixelY
          button := mouse.button, action := mouse.action, modifiers := mouse.modifiers
          mouseFormat, cols, rows }
        let (state, encoded) := engine.encodeMouseInput state mouseInput
        match encoded.or (encodeSgrMouseInput mouseInput) with
        | some bytes => (.ok bytes, state)
        | none => (.error "terminal engine cannot encode mouse input", state)
      | _, _ => (.error "mouse input pane is missing", state)
    | none =>
      match input.pasteText with
      | some pasteText => (pasteInputBytes pasteText (session.paneBracketedPaste input.paneId), state)
      | none => (.ok input.bytes, state)

end InputSummary

def inputWriteTargetExited (error : HostError) (paneId : String) : Bool := error == .notRunning paneId

variable {σ η : Type} (engine : TerminalEngine σ) (host : ProcessHost η)

/-- `forward_live_input_to_live_client_with_session_actor`. A process that has exited is not an
error. -/
def forwardLiveInput (client : LiveAttachedClient) (daemon : Daemon σ η) (input : InputSummary)
    (nowMonoMs : UInt64) : Except ServeError Unit × LiveAttachedClient × Daemon σ η :=
  let answer (result : Except ServeError Unit × LiveAttachedClient) (daemon : Daemon σ η) :=
    (result.1, result.2, daemon)
  if (daemon.session.surfaceVersion input.paneId).isNone then
    answer (client.queuePaneNotFoundError input.paneId input.inputSeq) daemon
  else
    match input.forwardingRejection daemon.session with
    | some rejection =>
      answer (client.queueProtocolError .permissionDenied rejection.message (some input.paneId)
        input.inputSeq) daemon
    | none =>
      let encoded := input.forwardedBytes engine daemon.session
        (daemon.actor.core.terminalEngines input.paneId)
      let daemon := daemon.setEngine input.paneId encoded.2
      match encoded.1 with
      | .error message =>
        answer (client.queueProtocolError .unknown message (some input.paneId) input.inputSeq) daemon
      | .ok bytes =>
        let daemon := daemon.acceptPaneInput engine client.actor.id input.paneId input.inputSeq bytes
          nowMonoMs
        match daemon.writeInput host input.paneId bytes with
        | (.ok _, daemon) => (.ok (), client, daemon)
        | (.error error, daemon) =>
          if inputWriteTargetExited error input.paneId then (.ok (), client, daemon)
          else
            answer (client.queueProtocolError .unknown ("input forwarding failed: " ++ error.message)
              (some input.paneId) input.inputSeq) daemon

end Nmux.Live
