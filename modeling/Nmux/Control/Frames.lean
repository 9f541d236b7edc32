import Nmux.Daemon.Control
import Nmux.Lib.Check

/-! Control command frames. A command reaches the server as a table whose strings may be missing; the
server reads it into a summary and refuses empty strings and enum values it does not know. -/
namespace Nmux

open Lib.Check

/-- `table ControlCommand`. -/
structure Protocol.ControlCommand where
  actorId : Option String
  commandSeq : UInt64
  kind : Protocol.ControlCommandKind
  paneId : Option String
  tabId : Option String
  splitAxis : Protocol.SplitAxis
  title : Option String
  sessionId : Option String
deriving DecidableEq, Repr

def requiredIoString (value : Option String) (field : String) : Except String String :=
  match value with
  | none => .error ("missing " ++ field)
  | some value => if value.isEmpty then .error ("empty " ++ field) else .ok value

def optionalIoString (value : Option String) (field : String) : Except String (Option String) :=
  match value with
  | none => .ok none
  | some value => if value.isEmpty then .error ("empty " ++ field) else .ok (some value)

def validateControlCommandKindIo (kind : Protocol.ControlCommandKind) :
    Except String Protocol.ControlCommandKind := do
  require kind.known ("unknown control command kind " ++ toString kind.value)
  return kind

def validateSplitAxisIo (axis : Protocol.SplitAxis) : Except String Protocol.SplitAxis := do
  require axis.known ("unknown split axis " ++ toString axis.value)
  return axis

/-- `control_command_from_frame`, from the table of the frame. -/
def controlCommandFromFrame (command : Protocol.ControlCommand) :
    Except String ControlCommandSummary := do
  let actorId ← requiredIoString command.actorId "control actor_id"
  let kind ← validateControlCommandKindIo command.kind
  let paneId ← optionalIoString command.paneId "control pane_id"
  let tabId ← optionalIoString command.tabId "control tab_id"
  let splitAxis ← validateSplitAxisIo command.splitAxis
  let title ← optionalIoString command.title "control title"
  let sessionId ← optionalIoString command.sessionId "control session_id"
  return { actorId, commandSeq := command.commandSeq, kind, paneId, tabId, splitAxis, title, sessionId }

/-- The command was read from a frame. -/
def ControlCommandSummary.Admitted (command : ControlCommandSummary) : Prop :=
  ∃ table, controlCommandFromFrame table = .ok command

theorem optionalIoString_nonempty {value read : Option String} {field : String}
    (h : optionalIoString value field = .ok read) : ∀ text ∈ read, text ≠ "" := by
  rintro text htext rfl
  cases value with
  | none =>
    obtain rfl := Except.ok.inj h
    cases htext
  | some value =>
    rw [optionalIoString] at h
    split at h
    case isTrue => cases h
    case isFalse hvalue =>
      obtain rfl := Except.ok.inj h
      obtain rfl := Option.mem_some_iff.mp htext
      exact hvalue rfl

/-- A read command has no empty tab id and no empty title. -/
theorem ControlCommandSummary.Admitted.nonempty {command : ControlCommandSummary}
    (h : command.Admitted) :
    (∀ tabId ∈ command.tabId, tabId ≠ "") ∧ (∀ title ∈ command.title, title ≠ "") := by
  obtain ⟨table, htable⟩ := h
  simp only [controlCommandFromFrame, bind_eq_ok] at htable
  obtain ⟨_, -, _, -, _, -, tabId, htabId, _, -, title, htitle, _, -, hcommand⟩ := htable
  obtain rfl := Except.ok.inj hcommand
  exact ⟨optionalIoString_nonempty htabId, optionalIoString_nonempty htitle⟩

end Nmux
