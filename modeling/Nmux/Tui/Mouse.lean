import Nmux.Lib.OrderedMap
import Nmux.Tui.Agreement
import Nmux.Tui.Stdin

/-! What a mouse report does. The regions of the frame on the screen say what stands at its cell: the
content of a pane, which gets the report itself if its program tracks the mouse, or something a press
of the left button acts on. -/
namespace Nmux.Tui

open Client (TerminalModeSummary WorkspaceSummary)
open Lib (OrderedMap)
open Lib.Word16

structure AttachMouseInput where
  row : UInt32
  col : UInt32
  pixelX : Option UInt32
  pixelY : Option UInt32
  button : MouseButton
  action : MouseAction
  modifiers : UInt32
deriving DecidableEq, Repr

inductive LiveScrollDirection where
  | up | down
deriving DecidableEq, Repr

inductive LiveMouseDispatch where
  | focusPane (paneId : String)
  | menu (action : MenuAction)
  | overlay (action : OverlayAction)
  | paneMouse (paneId : String) (input : AttachMouseInput)
  | paneScroll (paneId : String) (direction : LiveScrollDirection) (visibleRows : UInt16)
  | clearOverlay
deriving DecidableEq, Repr

def sgrMouseIsPrimaryPress (mouse : SgrMouseInput) : Bool :=
  mouse.action == .press && mouse.button == .left

def sgrMouseScrollDirection (mouse : SgrMouseInput) : Option LiveScrollDirection :=
  if mouse.action ≠ .press then none
  else
    match mouse.button with
    | .wheelUp => some .up
    | .wheelDown => some .down
    | _ => none

/-- `target_modes`: those kept for the pane, else those of the active pane. -/
def targetModes (workspace : WorkspaceSummary) (paneModes : Option (OrderedMap String TerminalModeSummary))
    (activeModes : TerminalModeSummary) (paneId : String) : TerminalModeSummary :=
  (paneModes.bind (·.get? paneId)).getD
    (if paneId = workspace.paneId then activeModes else TerminalModes.default)

/-- What a mouse report at a cell of the hit region does. -/
def dispatchHit (mouse : SgrMouseInput) (workspace : WorkspaceSummary)
    (paneModes : Option (OrderedMap String TerminalModeSummary)) (activeModes : TerminalModeSummary)
    (x y : UInt16) (hit : HitRegion) : Option LiveMouseDispatch :=
  match hit.target with
  | .paneContent paneId =>
    if (targetModes workspace paneModes activeModes paneId).mouseTracking then
      some (.paneMouse paneId
        { row := (saturatingSub y hit.rect.y).toUInt32
          col := (saturatingSub x hit.rect.x).toUInt32
          pixelX := none
          pixelY := none
          button := mouse.button
          action := mouse.action
          modifiers := mouse.modifiers })
    else
      match sgrMouseScrollDirection mouse with
      | some direction => some (.paneScroll paneId direction (max hit.rect.height 1))
      | none =>
        if paneId ≠ workspace.paneId ∧ sgrMouseIsPrimaryPress mouse then some (.focusPane paneId) else none
  | .pane paneId => if sgrMouseIsPrimaryPress mouse then some (.focusPane paneId) else none
  | .windowTreePane paneId => if sgrMouseIsPrimaryPress mouse then some (.focusPane paneId) else none
  | .menu action => if sgrMouseIsPrimaryPress mouse then some (.menu action) else none
  | .overlay action => if sgrMouseIsPrimaryPress mouse then some (.overlay action) else none
  | .background => if sgrMouseIsPrimaryPress mouse then some .clearOverlay else none

/-- `u16::try_from`. -/
def checkedWord (value : UInt32) : Option UInt16 :=
  if value.toNat < 65536 then some value.toUInt16 else none

/-- `live_mouse_dispatch_for_workspace_size`. Its frame has a row less than the terminal. -/
def liveMouseDispatchForWorkspaceSize (rects : RectLibrary) (mouse : SgrMouseInput)
    (workspace : WorkspaceSummary) (paneModes : Option (OrderedMap String TerminalModeSummary))
    (activeModes : TerminalModeSummary) (overlay : Option TuiOverlay) (cols rows : UInt16) :
    Except String (Option LiveMouseDispatch) := do
  let frameRows := max (saturatingSub rows 1) 1
  let hits ← renderWorkspaceFrame rects workspace overlay (max cols 1) frameRows
  return do
    let x ← checkedWord mouse.col
    let y ← checkedWord mouse.row
    let hit ← hitTestRegion hits x y
    dispatchHit mouse workspace paneModes activeModes x y hit

/-! ### Reports to a pane -/

/-- Only the content of a pane gets a report itself. -/
theorem dispatchHit_paneMouse {mouse : SgrMouseInput} {workspace : WorkspaceSummary}
    {paneModes : Option (OrderedMap String TerminalModeSummary)} {activeModes : TerminalModeSummary}
    {x y : UInt16} {hit : HitRegion} {paneId : String} {input : AttachMouseInput}
    (h : dispatchHit mouse workspace paneModes activeModes x y hit = some (.paneMouse paneId input)) :
    hit.target = .paneContent paneId := by
  unfold dispatchHit at h
  cases htarget : hit.target with
  | paneContent other =>
    rw [htarget] at h
    dsimp only at h
    split at h
    · cases h
      rfl
    · split at h
      · cases h
      · split at h <;> cases h
  | pane _ | windowTreePane _ | menu _ | overlay _ | background =>
    rw [htarget] at h
    dsimp only at h
    split at h <;> cases h

end Nmux.Tui
