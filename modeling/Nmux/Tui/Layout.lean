import Nmux.Client.Workspace
import Nmux.Lib.Word16

/-! The workspace frame of the interactive client. One traversal of the pane tree draws the frame and
records the regions a click can hit; a second one finds the rectangle of a single pane, which is what
a resize of the terminal tells the server. Regions are modelled and the painted cells are not: no
rectangle depends on them. -/
namespace Nmux.Tui

open Client (WorkspacePaneSummary WorkspaceSummary)
open Lib.Word16
open Protocol (SplitAxis)

def treeMinWidth : UInt16 := 18
def treeMaxWidth : UInt16 := 28
def menuHeight : UInt16 := 1

structure Rect where
  x : UInt16
  y : UInt16
  width : UInt16
  height : UInt16
deriving DecidableEq, Repr

/-- Both bounds of the rectangle fit into 16 bits. -/
structure Rect.Fits (area : Rect) : Prop where
  right : area.x.toNat + area.width.toNat < 65536
  bottom : area.y.toNat + area.height.toNat < 65536

/-- `Rect::new` of the terminal library, which limits the size so that both bounds fit. -/
structure RectLibrary where
  rectNew : UInt16 → UInt16 → UInt16 → UInt16 → Rect
  rectNew_of_fits : ∀ area : Rect, area.Fits → rectNew area.x area.y area.width area.height = area

inductive MenuAction where
  | sessions | newSession | windows | clipboard
deriving DecidableEq, Repr

inductive OverlayAction where
  | switchTab (tabId : String)
  | switchSession (sessionId : String)
  | focusPane (paneId : String)
deriving DecidableEq, Repr

inductive HitTarget where
  | menu (action : MenuAction)
  | pane (paneId : String)
  | paneContent (paneId : String)
  | windowTreePane (paneId : String)
  | overlay (action : OverlayAction)
  | background
deriving DecidableEq, Repr

structure HitRegion where
  rect : Rect
  target : HitTarget
deriving DecidableEq, Repr

structure TuiOverlayLine where
  text : String
  action : Option OverlayAction
deriving DecidableEq, Repr

structure TuiOverlay where
  title : String
  lines : List TuiOverlayLine
  selected : Option ℕ
deriving DecidableEq, Repr

/-- The library's constructor as documented: the size is cut off at the end of the 16-bit range. -/
def limitedRects : RectLibrary where
  rectNew x y width height := ⟨x, y, min width (65535 - x), min height (65535 - y)⟩
  rectNew_of_fits := by
    rintro ⟨x, y, width, height⟩ ⟨hright, hbottom⟩
    have hwidth : min width (65535 - x) = width :=
      min_eq_left_of_toNat (by rw [toNat_max_sub]; dsimp only at hright; omega)
    have hheight : min height (65535 - y) = height :=
      min_eq_left_of_toNat (by rw [toNat_max_sub]; dsimp only at hbottom; omega)
    simp only [hwidth, hheight]

section
variable (rects : RectLibrary)

/-! ### Parts of the frame -/

/-- The rectangle without a margin on all sides, if that leaves something. -/
def inset (area : Rect) (margin : UInt16) : Except String (Option Rect) := do
  let double := saturatingMul margin 2
  if area.width ≤ double ∨ area.height ≤ double then return none
  else
    return some (rects.rectNew (← checkedAdd area.x margin) (← checkedAdd area.y margin)
      (← checkedSub area.width double) (← checkedSub area.height double))

def treeWidthFor (width : UInt16) (root : Option WorkspacePaneSummary) : UInt16 :=
  if root.isNone ∨ width < 64 then 0 else max treeMinWidth (min (width / 4) treeMaxWidth)

def menuItems : List (String × MenuAction) :=
  [(" Sessions ", .sessions), (" New Session ", .newSession), (" Windows ", .windows),
    (" Clipboard ", .clipboard)]

/-- The loop of `render_menu` over the items from `x` on. -/
def renderMenuItems (area : Rect) : List (String × MenuAction) → UInt16 → Except String (List HitRegion)
  | [], _ => return []
  | (label, action) :: rest, x => do
    if x ≥ (← checkedAdd area.x area.width) then return []
    else
      let itemWidth :=
        min (UInt16.ofNat label.length) (← checkedSub (← checkedAdd area.x area.width) x)
      let hits ← renderMenuItems area rest (saturatingAdd x itemWidth)
      return ⟨rects.rectNew x area.y itemWidth area.height, .menu action⟩ :: hits

def renderMenu (area : Rect) : Except String (List HitRegion) :=
  renderMenuItems rects area menuItems area.x

mutual
/-- The regions of the node's subtree in the window tree and the next free row. -/
def renderTreeNode (area : Rect) (depth row : UInt16) :
    WorkspacePaneSummary → Except String (List HitRegion × UInt16)
  | .node fields children => do
    if row ≥ (← checkedAdd area.y area.height) then return ([], row)
    else
      let (hits, next) ← renderTreeNodes area depth (saturatingAdd row 1) children
      return (⟨rects.rectNew area.x row area.width 1, .windowTreePane fields.paneId⟩ :: hits, next)

def renderTreeNodes (area : Rect) (depth row : UInt16) :
    List WorkspacePaneSummary → Except String (List HitRegion × UInt16)
  | [] => return ([], row)
  | child :: rest => do
    let (hits, next) ← renderTreeNode area (← checkedAdd depth 1) row child
    let (others, last) ← renderTreeNodes area depth next rest
    return (hits ++ others, last)
end

def renderWindowTree (area : Rect) (workspace : WorkspaceSummary) : Except String (List HitRegion) := do
  match ← inset rects area 1 with
  | none => return []
  | some inner =>
    match workspace.paneTree with
    | none => return []
    | some root =>
      return (← renderTreeNode rects inner 0 (saturatingAdd inner.y 1) root).1

/-- The window tree, where it has room, and the column of the vertical rule beside it. -/
def renderTreeColumn (treeArea : Rect) (workspace : WorkspaceSummary) :
    Except String (List HitRegion) := do
  if treeArea.width > 0 then
    let hits ← renderWindowTree rects treeArea workspace
    let _ ← checkedAdd treeArea.x treeArea.width
    return hits
  else return []

def renderLeafPane (area : Rect) (paneId : String) : Except String (List HitRegion) := do
  let chrome := area
  match ← inset rects chrome 1 with
  | none => return [⟨chrome, .pane paneId⟩]
  | some inner => return [⟨chrome, .pane paneId⟩, ⟨inner, .paneContent paneId⟩]

/-! ### Splits -/

/-- The width, or the height, of the child at an index. -/
def childLength (count : UInt16) (index : Nat) (remaining : UInt16) : UInt16 :=
  let remainingChildren := saturatingSub count (UInt16.ofNat index)
  if remainingChildren ≤ 1 then remaining else remaining / remainingChildren

/-- Where the loop over the children starts: `area.x` or `area.y`. -/
def splitStart (axis : SplitAxis) (area : Rect) : UInt16 :=
  if axis = .vertical then area.x else area.y

/-- What the loop over the children distributes: `area.width` or `area.height`. -/
def splitLength (axis : SplitAxis) (area : Rect) : UInt16 :=
  if axis = .vertical then area.width else area.height

/-- `child_area`: a column of a vertical split, a row of a horizontal one, else the whole area. -/
def childArea (axis : SplitAxis) (area : Rect) (start length : UInt16) : Rect :=
  if axis = .vertical then rects.rectNew start area.y length area.height
  else if axis = .horizontal then rects.rectNew area.x start area.width length
  else area

/-- `pane.children.len().max(1) as u16`. -/
def childCount (children : List WorkspacePaneSummary) : UInt16 := UInt16.ofNat (max children.length 1)

mutual
def renderPaneNode (area : Rect) : WorkspacePaneSummary → Except String (List HitRegion)
  | .node fields children => do
    if area.width = 0 ∨ area.height = 0 then return []
    else if children.isEmpty then renderLeafPane rects area fields.paneId
    else
      renderPaneChildren fields.splitAxis area (childCount children) 0 (splitStart fields.splitAxis area)
        (splitLength fields.splitAxis area) children

/-- The loop of `render_pane_node` over the children from an index on. -/
def renderPaneChildren (axis : SplitAxis) (area : Rect) (count : UInt16) (index : Nat)
    (start remaining : UInt16) : List WorkspacePaneSummary → Except String (List HitRegion)
  | [] => return []
  | child :: rest => do
    let length := childLength count index remaining
    let hits ← renderPaneNode (childArea rects axis area start length) child
    let others ← renderPaneChildren axis area count (index + 1) (saturatingAdd start length)
      (saturatingSub remaining length) rest
    return hits ++ others
end

mutual
def paneContentRectForNode (area : Rect) (paneId : String) :
    WorkspacePaneSummary → Except String (Option Rect)
  | .node fields children => do
    if area.width = 0 ∨ area.height = 0 then return none
    else if children.isEmpty then
      if fields.paneId = paneId then inset rects area 1 else return none
    else
      paneContentRectInChildren fields.splitAxis area paneId (childCount children) 0
        (splitStart fields.splitAxis area) (splitLength fields.splitAxis area) children

/-- The loop of `pane_content_rect_for_node` over the children from an index on. -/
def paneContentRectInChildren (axis : SplitAxis) (area : Rect) (paneId : String) (count : UInt16)
    (index : Nat) (start remaining : UInt16) :
    List WorkspacePaneSummary → Except String (Option Rect)
  | [] => return none
  | child :: rest => do
    let length := childLength count index remaining
    match ← paneContentRectForNode (childArea rects axis area start length) paneId child with
    | some rect => return some rect
    | none =>
      paneContentRectInChildren axis area paneId count (index + 1) (saturatingAdd start length)
        (saturatingSub remaining length) rest
end

/-! ### The frame -/

def renderOverlayLines (inner : Rect) : List TuiOverlayLine → Nat → Except String (List HitRegion)
  | [], _ => return []
  | line :: rest, offset => do
    let row ← checkedAdd inner.y (UInt16.ofNat offset)
    let hits ← renderOverlayLines inner rest (offset + 1)
    match line.action with
    | none => return hits
    | some action => return ⟨rects.rectNew inner.x row inner.width 1, .overlay action⟩ :: hits

def renderOverlay (area : Rect) (overlay : TuiOverlay) : Except String (List HitRegion) := do
  if area.width < 12 ∨ area.height < 5 then return []
  else
    let lineWidths := overlay.lines.map fun line => UInt16.ofNat line.text.length
    let maxLineWidth := max (lineWidths.foldl max 0) (UInt16.ofNat overlay.title.length)
    let width := max 12 (min (saturatingAdd maxLineWidth 4) (max (saturatingSub area.width 2) 12))
    let height :=
      max 5 (min (saturatingAdd (UInt16.ofNat overlay.lines.length) 4) (max (saturatingSub area.height 2) 5))
    let overlayArea := rects.rectNew (← checkedAdd area.x (saturatingSub area.width width / 2))
      (← checkedAdd area.y (saturatingSub area.height height / 2)) width height
    match ← inset rects overlayArea 1 with
    | none => return []
    | some inner => renderOverlayLines rects inner (overlay.lines.take inner.height.toNat) 0

/-- The regions of the panes: of the tree, or of the one pane of a workspace without a tree. -/
def renderPanes (area : Rect) (workspace : WorkspaceSummary) : Except String (List HitRegion) :=
  match workspace.paneTree with
  | some root => renderPaneNode rects area root
  | none => renderLeafPane rects area workspace.paneId

def renderWorkspaceToBuffer (area : Rect) (workspace : WorkspaceSummary) (overlay : Option TuiOverlay) :
    Except String (List HitRegion) := do
  let background : HitRegion := ⟨area, .background⟩
  if area.width = 0 ∨ area.height = 0 then return [background]
  else
    let menu := rects.rectNew area.x area.y area.width (min menuHeight area.height)
    let menuHits ← renderMenu rects menu
    if area.height ≤ menuHeight then return background :: menuHits
    else
      let body := rects.rectNew area.x (← checkedAdd area.y menuHeight) area.width
        (← checkedSub area.height menuHeight)
      let treeWidth := treeWidthFor body.width workspace.paneTree
      let treeArea :=
        if treeWidth = 0 then rects.rectNew body.x body.y 0 body.height
        else rects.rectNew body.x body.y treeWidth body.height
      let paneArea :=
        if treeWidth = 0 then body
        else rects.rectNew (saturatingAdd (saturatingAdd body.x treeWidth) 1) body.y
          (saturatingSub body.width (saturatingAdd treeWidth 1)) body.height
      let treeHits ← renderTreeColumn rects treeArea workspace
      let paneHits ← renderPanes rects paneArea workspace
      let overlayHits ←
        match overlay with
        | some overlay => renderOverlay rects area overlay
        | none => pure []
      return background :: menuHits ++ treeHits ++ paneHits ++ overlayHits

/-- `render_workspace_frame`: the hit regions of a frame of the given size. -/
def renderWorkspaceFrame (workspace : WorkspaceSummary) (overlay : Option TuiOverlay)
    (cols rows : UInt16) : Except String (List HitRegion) :=
  renderWorkspaceToBuffer rects (rects.rectNew 0 0 cols rows) workspace overlay

def paneContentRect (workspace : WorkspaceSummary) (cols rows : UInt16) (paneId : String) :
    Except String (Option Rect) := do
  let area := rects.rectNew 0 0 cols rows
  if area.width = 0 ∨ area.height ≤ menuHeight then return none
  else
    let body := rects.rectNew area.x (← checkedAdd area.y menuHeight) area.width
      (← checkedSub area.height menuHeight)
    let treeWidth := treeWidthFor body.width workspace.paneTree
    let paneArea :=
      if treeWidth = 0 then body
      else rects.rectNew (saturatingAdd (saturatingAdd body.x treeWidth) 1) body.y
        (saturatingSub body.width (saturatingAdd treeWidth 1)) body.height
    match workspace.paneTree with
    | some root => paneContentRectForNode rects paneArea paneId root
    | none => if workspace.paneId = paneId then inset rects paneArea 1 else return none

/-! ### Hits -/

def rectContains (rect : Rect) (x y : UInt16) : Bool :=
  x ≥ rect.x && y ≥ rect.y && x < saturatingAdd rect.x rect.width && y < saturatingAdd rect.y rect.height

def hitTestRegion (hits : List HitRegion) (x y : UInt16) : Option HitRegion :=
  hits.reverse.find? fun hit => rectContains hit.rect x y

/-! ### The size of the terminal -/

/-- `terminal_size_from_fd`: nothing for a terminal without a size. -/
def terminalSize (cols rows : UInt16) : Option (UInt32 × UInt32) :=
  if cols = 0 ∨ rows = 0 then none else some (cols.toUInt32, rows.toUInt32)

def redrawTerminalArea (cols rows : UInt32) : Rect :=
  rects.rectNew 0 0 (min (max cols 1) 65535).toUInt16 (min (max rows 1) 65535).toUInt16

/-- What `RedrawState::render_workspace` draws above the status bar. -/
def redrawWorkspace (workspace : WorkspaceSummary) (overlay : Option TuiOverlay) (cols rows : UInt32) :
    Except String (List HitRegion) := do
  let area := redrawTerminalArea rects cols rows
  if area.width = 0 ∨ area.height = 0 then return []
  else
    let workspaceHeight := max (saturatingSub area.height 1) 1
    renderWorkspaceToBuffer rects (rects.rectNew area.x area.y area.width workspaceHeight) workspace overlay

def frontendResizePaneSize (workspace : WorkspaceSummary) (paneId : String)
    (terminalCols terminalRows : UInt32) (ratatuiRedraw : Bool) : Except String (UInt32 × UInt32) := do
  if !ratatuiRedraw then return (terminalCols, terminalRows)
  else
    let cols := (min (max terminalCols 1) 65535).toUInt16
    let rows := (min (max (if terminalRows = 0 then 0 else terminalRows - 1) 1) 65535).toUInt16
    match ← paneContentRect rects workspace cols rows paneId with
    | some rect => return ((max rect.width 1).toUInt32, (max rect.height 1).toUInt32)
    | none => return (terminalCols, terminalRows)

end

end Nmux.Tui
