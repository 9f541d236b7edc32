import Nmux.Screen.Attached
import Nmux.Screen.Keys

/-! What the keys drive is on the screen, in every run whose events are of the kinds that paint what they
change. The others are: an update that is printed while an overlay is open, since it is printed without
it; an update that is not printed for a pane that does not show its cached surface; a key or a click that
closes the overlay and then has nothing to paint; and a prediction, which is painted without the surfaces
of the panes. -/
namespace Nmux.Screen

open Client (SurfaceUpdate)
open Tui (LiveMouseDispatch LiveScrollDirection MenuAction OverlayAction SgrMouseInput StdinByteForward
  StdinKeyInput liveMouseDispatchForWorkspaceSize)

/-! ### The kinds of events -/

/-- The pane is another one of the workspace, so that its focus is painted. -/
def FocusKept (client : LiveClient) (paneId : String) : Prop :=
  paneId ≠ client.attachedPaneId ∧ showsPane client.currentWorkspace paneId = true

/-- An action of the overlay that is painted. -/
def ActionKept (client : LiveClient) : OverlayAction → Prop
  | .switchTab _ => True
  | .switchSession sessionId => sessionId ≠ client.currentWorkspace.sessionId
  | .focusPane paneId => FocusKept client paneId

/-- Without its surfaces a pane shows the same: it has none but the text of the active pane. -/
structure Bare (client : LiveClient) : Prop where
  overlay : client.activeOverlay = none
  summaries : ∀ paneId, showsPane client.currentWorkspace paneId = true →
    client.surfaceState.currentPaneSurfaceSummaries.get? paneId = none
  surfaces : ∀ paneId, showsPane client.currentWorkspace paneId = true →
    paneId ≠ client.currentWorkspace.paneId →
      (client.surfaceState.currentPaneSurfaces.get? paneId).getD "(surface not cached)" =
        "(surface not cached)"

/-- The text is not predicted, or its prediction hides nothing. -/
def EchoKept (setup : Setup) (enabled : Bool) (client : LiveClient) (text : String) : Prop :=
  enabled = true → ∀ predicted,
    (client.clientState.renderSpeculativeEcho client.speculativeEcho client.attachedPaneId
      client.nextInputSeq text setup.args.stdoutTty).1 = .ok (some predicted) → Bare client

/-- Bytes for the pane, of which text may be predicted. -/
def RawKept (setup : Setup) (client : LiveClient) (bytes : List UInt8) : Prop :=
  ∀ text, Tui.fromUtf8 bytes = some text →
    EchoKept setup (stdinBytesSpeculativeEchoEnabled setup.args) client text

/-- A key may go to the pane, or select an action of the overlay. -/
structure KeyKept (setup : Setup) (client : LiveClient) (key : StdinKeyInput) : Prop where
  raw : RawKept setup client key.bytes
  enter : key.key = .enter → ∀ overlay action, client.activeOverlay = some overlay →
    selectedOverlayAction overlay = some action → ActionKept client action

/-- The client scrolls to lines or back to the surface, both of which it paints; or no overlay is open
and what it does not paint changes nothing. -/
def ScrollKept (moment : Moment) (client : LiveClient) (paneId : String) (direction : LiveScrollDirection)
    (visibleRows : UInt16) : Prop :=
  match scrollRequest direction (max visibleRows 1).toUInt32
      (client.surfaceState.scrollbackViews.get? paneId) with
  | .restore => True
  | .nothing => client.activeOverlay = none
  | .fetch startLine tailCount => ∀ answer,
    moment.answers.scrollback paneId startLine (max visibleRows 1).toUInt32 tailCount = .ok answer →
      answer.chunk.lines = [] → client.activeOverlay = none ∧
        ∀ update ∈ answer.pendingUpdates, ¬ChangesRows update ∧ ShowsCached client update.paneId

def DispatchKept (moment : Moment) (client : LiveClient) : LiveMouseDispatch → Prop
  | .focusPane paneId => client.activeOverlay = none ∨ FocusKept client paneId
  | .paneMouse _ _ => client.activeOverlay = none
  | .paneScroll paneId direction visibleRows => ScrollKept moment client paneId direction visibleRows
  | .menu _ => True
  | .overlay action => client.activeOverlay = none ∨ ActionKept client action
  | .clearOverlay => True

/-- What the mouse meets in a terminal of that size. -/
def mouseDispatch (setup : Setup) (moment : Moment) (client : LiveClient) (mouse : SgrMouseInput) :
    Except String (Option LiveMouseDispatch) :=
  liveMouseDispatchForWorkspaceSize setup.rects mouse client.currentWorkspace
    (some client.surfaceState.currentPaneModes) client.surfaceState.currentModes client.activeOverlay
    (min (max moment.terminal.1 1) 65535).toUInt16 (min (max moment.terminal.2 1) 65535).toUInt16

def ForwardKept (setup : Setup) (moment : Moment) (client : LiveClient) : StdinByteForward → Prop
  | .raw bytes => RawKept setup client bytes
  | .paste _ => True
  | .key key => KeyKept setup client key
  | .mouse mouse => ∀ dispatch, mouseDispatch setup moment client mouse = .ok (some dispatch) →
    DispatchKept moment client dispatch

/-- An event after which the screen shows what the client keeps, if it did before. -/
def EventKept (setup : Setup) (moment : Moment) (client : LiveClient) : LiveEvent → Prop
  | .typed forward => ForwardKept setup moment client forward
  | .line text => EchoKept setup setup.args.speculativeEcho client text
  | .read (.update update) => UpdateKept setup client update
  | _ => True

/-- The condition on an event of a run that no error has ended. -/
def NextKept (setup : Setup) (state : Except String LiveClient) (input : Moment × LiveEvent) : Prop :=
  ∀ client, state = .ok client → EventKept setup input.1 client input.2

variable {setup : Setup} {moment : Moment} {client reached : LiveClient}

/-! ### Focus and menu -/

/-- Another pane of the workspace has only its surfaces looked up. -/
theorem switchLiveSurface_overlay (h : switchLiveSurfaceToWorkspacePane setup client = .ok reached) :
    reached.activeOverlay = client.activeOverlay := by
  obtain ⟨text, -, h⟩ := Lib.Check.bind_eq_ok.mp h
  obtain ⟨summary, -, h⟩ := Lib.Check.bind_eq_ok.mp h
  obtain rfl := Except.ok.inj h
  rfl

theorem focusLiveClientPane_shown (hmode : RedrawMode setup) {paneId : String} {printed : Bool}
    (h : focusLiveClientPane setup moment client paneId = .ok (printed, reached))
    (hoverlay : client.activeOverlay = none) (hkept : Shown setup client ∨ FocusKept client paneId) :
    Shown setup reached := by
  unfold focusLiveClientPane at h
  have hunfocused (hnot : ¬FocusKept client paneId) : Shown setup client := hkept.resolve_right hnot
  split at h
  case isTrue hattached =>
    obtain ⟨-, rfl⟩ := Prod.mk.inj (Except.ok.inj h)
    exact hunfocused fun hfocus => hfocus.1 hattached
  split at h
  case isTrue hshows =>
    obtain ⟨-, rfl⟩ := Prod.mk.inj (Except.ok.inj h)
    refine hunfocused fun hfocus => ?_
    rw [hfocus.2] at hshows
    cases hshows
  case isFalse =>
    obtain ⟨focused, hfocused, h⟩ := Lib.Check.bind_eq_ok.mp h
    rw [if_neg (by rw [hmode.text]; exact Bool.false_ne_true), if_pos hmode.redraw] at h
    obtain ⟨painted, hpaint, hpair⟩ := Lib.Check.bind_eq_ok.mp h
    obtain ⟨-, rfl⟩ := Prod.mk.inj (Except.ok.inj hpair)
    exact printLiveSurface_shown hmode hpaint ((switchLiveSurface_overlay hfocused).trans hoverlay)

/-- A workspace of the daemon, painted. -/
theorem showWorkspace_shown (hmode : RedrawMode setup) {workspace : Client.WorkspaceSummary}
    {shown : LiveClient} (h : showWorkspace setup client workspace = .ok shown)
    (hoverlay : client.activeOverlay = none)
    (hpaint : printLiveSurfaceWithOverlay setup moment.terminal shown none = .ok reached) :
    Shown setup reached :=
  printLiveSurfaceWithOverlay_shown hmode hpaint ((switchLiveSurface_overlay h).trans hoverlay)

theorem openLiveMenuOverlay_shown (hmode : RedrawMode setup) {action : MenuAction}
    (h : openLiveMenuOverlay setup moment client action = .ok reached) : Shown setup reached := by
  unfold openLiveMenuOverlay at h
  split at h
  · obtain ⟨workspace, -, h⟩ := Lib.Check.bind_eq_ok.mp h
    obtain ⟨shown, hshown, hpaint⟩ := Lib.Check.bind_eq_ok.mp h
    exact showWorkspace_shown hmode hshown rfl hpaint
  · split at h
    · obtain ⟨inventory, -, h⟩ := Lib.Check.bind_eq_ok.mp h
      exact printLiveSurfaceWithOverlay_shown hmode h rfl
    · obtain ⟨inventory, -, h⟩ := Lib.Check.bind_eq_ok.mp h
      exact printLiveSurfaceWithOverlay_shown hmode h rfl

/-- An action of the overlay, once that is closed. -/
theorem handleLiveOverlayAction_shown (hmode : RedrawMode setup) {action : OverlayAction}
    (h : handleLiveOverlayAction setup moment client action = .ok reached)
    (hoverlay : client.activeOverlay = none) (hkept : Shown setup client ∨ ActionKept client action) :
    Shown setup reached := by
  unfold handleLiveOverlayAction at h
  cases action with
  | switchTab tabId =>
    obtain ⟨workspace, -, h⟩ := Lib.Check.bind_eq_ok.mp h
    obtain ⟨shown, hshown, hpaint⟩ := Lib.Check.bind_eq_ok.mp h
    exact showWorkspace_shown hmode hshown hoverlay hpaint
  | switchSession sessionId =>
    dsimp only at h
    split at h
    case isTrue => exact switchLiveSession_shown hmode h hoverlay
    case isFalse hsame =>
      obtain rfl := Except.ok.inj h
      exact hkept.resolve_right hsame
  | focusPane paneId =>
    obtain ⟨⟨printed, focused⟩, hfocused, h⟩ := Lib.Check.bind_eq_ok.mp h
    obtain rfl := Except.ok.inj h
    exact focusLiveClientPane_shown hmode hfocused hoverlay hkept

/-! ### Keys -/

theorem shown_of_handled {x : Except String LiveClient} {handling : LiveKeyHandling}
    (h : (do return (LiveKeyHandling.handled, ← x)) = Except.ok (handling, reached))
    (hx : x = .ok reached → Shown setup reached) : Shown setup reached := by
  obtain ⟨client, hclient, hpair⟩ := Lib.Check.bind_eq_ok.mp h
  obtain ⟨-, rfl⟩ := Prod.mk.inj (Except.ok.inj hpair)
  exact hx hclient

/-- A key that the client handles is painted, but for an action that has nothing to paint. -/
theorem handleLiveTuiKey_shown (hmode : RedrawMode setup) {key : StdinKeyInput}
    {handling : LiveKeyHandling} (h : handleLiveTuiKey setup moment client key = .ok (handling, reached))
    (hshown : Shown setup client) (hkept : KeyKept setup client key) : Shown setup reached := by
  unfold handleLiveTuiKey at h
  split at h
  · obtain ⟨-, rfl⟩ := Prod.mk.inj (Except.ok.inj h)
    exact hshown
  have hmove {moved : LiveClient} {handling : LiveKeyHandling}
      (h : (do return (LiveKeyHandling.handled, ← repaintLiveOverlay setup moment moved moved.activeOverlay)) =
        Except.ok (handling, reached)) : Shown setup reached :=
    shown_of_handled h fun hpaint => printLiveSurfaceWithOverlay_shown hmode hpaint rfl
  have hopen {opened : LiveClient} {action : MenuAction} {handling : LiveKeyHandling}
      (h : (do return (LiveKeyHandling.handled, ← openLiveMenuOverlay setup moment opened action)) =
        Except.ok (handling, reached)) : Shown setup reached :=
    shown_of_handled h fun hpaint => openLiveMenuOverlay_shown hmode hpaint
  have hforward {bytes : List UInt8} {handling : LiveKeyHandling}
      (h : (Except.ok (LiveKeyHandling.forward bytes, client) : Except String _) =
        .ok (handling, reached)) : Shown setup reached := by
    obtain ⟨-, rfl⟩ := Prod.mk.inj (Except.ok.inj h)
    exact hshown
  split at h
  case h_1 =>
    -- the escape key
    split at h
    · exact shown_of_handled h fun hpaint => printLiveSurface_shown hmode hpaint rfl
    · split at h
      case isTrue hoverlay _ =>
        exact shown_of_handled h fun hpaint => printLiveSurface_shown hmode hpaint
          (Option.not_isSome_iff_eq_none.mp hoverlay)
      case isFalse => exact hforward h
  case h_2 => exact hopen h
  case h_3 hescape hmenu =>
    split at h
    case h_1 overlay hoverlay =>
      split at h
      · exact hmove h
      · exact hmove h
      · exact hmove h
      · exact hmove h
      · split at h
        case h_1 henter _ action haction =>
          refine shown_of_handled h fun hhandled => ?_
          exact handleLiveOverlayAction_shown hmode hhandled rfl
            (.inr (hkept.enter (by assumption) overlay action hoverlay haction))
        case h_2 =>
          obtain ⟨-, rfl⟩ := Prod.mk.inj (Except.ok.inj h)
          exact hshown
      · exact hforward h
    case h_2 =>
      split at h
      case h_1 =>
        dsimp only at h
        split at h
        · exact hforward h
        · split at h
          · exact hopen h
          · cases h
      case h_2 => exact hforward h

/-! ### The mouse -/

theorem handleMouseMenu_shown (hmode : RedrawMode setup) {action : MenuAction}
    (h : handleMouseMenu setup moment client action = .ok reached) : Shown setup reached := by
  unfold handleMouseMenu at h
  dsimp only at h
  split at h
  · obtain ⟨workspace, -, h⟩ := Lib.Check.bind_eq_ok.mp h
    obtain ⟨shown, hshown, hpaint⟩ := Lib.Check.bind_eq_ok.mp h
    exact printUnlessJson_shown hmode hpaint (switchLiveSurface_overlay hshown)
  · split at h
    · obtain ⟨inventory, -, h⟩ := Lib.Check.bind_eq_ok.mp h
      exact printUnlessJson_shown hmode h rfl
    · obtain ⟨inventory, -, h⟩ := Lib.Check.bind_eq_ok.mp h
      exact printUnlessJson_shown hmode h rfl

/-- Without an overlay, a client that closes it and its menu shows what it did. -/
theorem Shown.closed (h : Shown setup client) (hoverlay : client.activeOverlay = none) :
    Shown setup { client with activeOverlay := none, activeMenuIndex := none } :=
  h.same ⟨rfl, hoverlay.symm, rfl⟩ rfl

theorem handleMouseOverlay_shown (hmode : RedrawMode setup) {action : OverlayAction}
    (h : handleMouseOverlay setup moment client action = .ok reached) (hshown : Shown setup client)
    (hkept : client.activeOverlay = none ∨ ActionKept client action) : Shown setup reached := by
  have hclosed : Shown setup { client with activeOverlay := none, activeMenuIndex := none } ∨
      ActionKept client action := hkept.imp_left hshown.closed
  unfold handleMouseOverlay at h
  cases action with
  | switchTab tabId =>
    obtain ⟨workspace, -, h⟩ := Lib.Check.bind_eq_ok.mp h
    obtain ⟨shown, hworkspace, hpaint⟩ := Lib.Check.bind_eq_ok.mp h
    exact printUnlessJson_shown hmode hpaint (switchLiveSurface_overlay hworkspace)
  | switchSession sessionId =>
    dsimp only at h
    split at h
    case isTrue => exact switchLiveSession_shown hmode h rfl
    case isFalse hsame =>
      obtain rfl := Except.ok.inj h
      exact hclosed.resolve_right hsame
  | focusPane paneId =>
    obtain ⟨⟨printed, focused⟩, hfocused, h⟩ := Lib.Check.bind_eq_ok.mp h
    obtain rfl := Except.ok.inj h
    exact focusLiveClientPane_shown hmode hfocused rfl hclosed

/-- Updates that replace no rows, of panes that are shown as they are cached, leave the frame. -/
theorem foldlM_cacheUpdate_shown {updates : List SurfaceUpdate}
    (h : updates.foldlM (LiveClient.cacheUpdate setup) client = .ok reached) (hshown : Shown setup client)
    (hquiet : ∀ update ∈ updates, ¬ChangesRows update ∧ ShowsCached client update.paneId) :
    Shown setup reached := by
  induction updates generalizing client with
  | nil =>
    obtain rfl := Except.ok.inj h
    exact hshown
  | cons update rest ih =>
    rw [List.foldlM_cons] at h
    obtain ⟨updated, hupdated, hrest⟩ := Lib.Check.bind_eq_ok.mp h
    have hcached := cacheUpdate_cached hupdated
    obtain ⟨hrows, hcurrent⟩ := hquiet update List.mem_cons_self
    refine ih hrest (hshown.same (hcached.sameFrame hrows hcurrent) hcached.painted) fun later hlater => ?_
    obtain ⟨hlaterRows, hlaterCurrent⟩ := hquiet later (List.mem_cons_of_mem _ hlater)
    exact ⟨hlaterRows, hcached.showsCached hlaterCurrent⟩

/-- The overlay stays as it is while the updates before an answer are cached. -/
theorem foldlM_cacheUpdate_overlay {updates : List SurfaceUpdate}
    (h : updates.foldlM (LiveClient.cacheUpdate setup) client = .ok reached) :
    reached.activeOverlay = client.activeOverlay := by
  induction updates generalizing client with
  | nil =>
    obtain rfl := Except.ok.inj h
    rfl
  | cons update rest ih =>
    rw [List.foldlM_cons] at h
    obtain ⟨updated, hupdated, hrest⟩ := Lib.Check.bind_eq_ok.mp h
    exact (ih hrest).trans (cacheUpdate_cached hupdated).overlay

theorem scrollLivePaneView_shown (hmode : RedrawMode setup) {paneId : String}
    {direction : LiveScrollDirection} {visibleRows : UInt16} {printed : Bool}
    (h : scrollLivePaneView setup moment { client with activeOverlay := none, activeMenuIndex := none }
      paneId direction visibleRows = .ok (printed, reached))
    (hshown : Shown setup client) (hkept : ScrollKept moment client paneId direction visibleRows) :
    Shown setup reached := by
  unfold scrollLivePaneView at h
  unfold ScrollKept at hkept
  rw [if_neg (by simp [hmode.redraw, hmode.text])] at h
  dsimp only at h
  split at h
  case h_1 hrequest =>
    rw [hrequest] at hkept
    obtain ⟨-, rfl⟩ := Prod.mk.inj (Except.ok.inj h)
    exact hshown.closed hkept
  case h_2 =>
    obtain ⟨restored, hrestored, h⟩ := Lib.Check.bind_eq_ok.mp h
    obtain ⟨painted, hpaint, hpair⟩ := Lib.Check.bind_eq_ok.mp h
    obtain ⟨-, rfl⟩ := Prod.mk.inj (Except.ok.inj hpair)
    refine printLiveSurface_shown hmode hpaint ?_
    obtain ⟨text, -, hrestored⟩ := Lib.Check.bind_eq_ok.mp hrestored
    obtain ⟨summary, -, hrestored⟩ := Lib.Check.bind_eq_ok.mp hrestored
    obtain rfl := Except.ok.inj hrestored
    rfl
  case h_3 startLine tailCount hrequest =>
    rw [hrequest] at hkept
    obtain ⟨answer, hanswer, h⟩ := Lib.Check.bind_eq_ok.mp h
    obtain ⟨updated, hupdated, h⟩ := Lib.Check.bind_eq_ok.mp h
    obtain ⟨clientInventory, hlive⟩ := applyPendingLive_eq
      { client with activeOverlay := none, activeMenuIndex := none } answer.pendingLive
    rw [hlive] at hupdated
    split at h
    case isTrue hempty =>
      obtain ⟨-, rfl⟩ := Prod.mk.inj (Except.ok.inj h)
      obtain ⟨hoverlay, hquiet⟩ := hkept answer hanswer (List.isEmpty_iff.mp hempty)
      refine foldlM_cacheUpdate_shown hupdated ((hshown.closed hoverlay).same (.refl _) rfl) ?_
      exact fun update hmem =>
        ⟨(hquiet update hmem).1, (hquiet update hmem).2.pane, (hquiet update hmem).2.active⟩
    case isFalse =>
      obtain ⟨painted, hpaint, hpair⟩ := Lib.Check.bind_eq_ok.mp h
      obtain ⟨-, rfl⟩ := Prod.mk.inj (Except.ok.inj hpair)
      exact printLiveSurface_shown hmode hpaint (foldlM_cacheUpdate_overlay hupdated)

/-- A report of the mouse is painted, but where it closes an overlay and has nothing to paint. -/
theorem handleLiveMouse_shown (hmode : RedrawMode setup) {mouse : SgrMouseInput}
    {sent : List SentInput} (h : handleLiveMouse setup moment client mouse = .ok (sent, reached))
    (hshown : Shown setup client) (hkept : ForwardKept setup moment client (.mouse mouse)) :
    Shown setup reached := by
  have hprinted {x : Except String LiveClient}
      (h : (do return (([] : List SentInput), ← x)) = Except.ok (sent, reached)) : x = .ok reached := by
    obtain ⟨painted, hpaint, hpair⟩ := Lib.Check.bind_eq_ok.mp h
    obtain ⟨-, rfl⟩ := Prod.mk.inj (Except.ok.inj hpair)
    exact hpaint
  obtain ⟨dispatch, hdispatch, h⟩ := Lib.Check.bind_eq_ok.mp h
  cases dispatch with
  | none =>
    obtain ⟨-, rfl⟩ := Prod.mk.inj (Except.ok.inj h)
    exact hshown
  | some dispatch =>
    have hkept : DispatchKept moment client dispatch := hkept dispatch hdispatch
    cases dispatch with
    | focusPane paneId =>
      obtain ⟨⟨printed, focused⟩, hfocused, h⟩ := Lib.Check.bind_eq_ok.mp h
      obtain ⟨-, rfl⟩ := Prod.mk.inj (Except.ok.inj h)
      exact focusLiveClientPane_shown hmode hfocused rfl (hkept.imp_left hshown.closed)
    | paneMouse paneId input =>
      obtain ⟨-, rfl⟩ := Prod.mk.inj (Except.ok.inj h)
      exact (hshown.closed hkept).same (.refl _) rfl
    | paneScroll paneId direction visibleRows =>
      obtain ⟨⟨printed, scrolled⟩, hscrolled, h⟩ := Lib.Check.bind_eq_ok.mp h
      obtain ⟨-, rfl⟩ := Prod.mk.inj (Except.ok.inj h)
      exact scrollLivePaneView_shown hmode hscrolled hshown hkept
    | menu action => exact handleMouseMenu_shown hmode (hprinted h)
    | overlay action => exact handleMouseOverlay_shown hmode (hprinted h) hshown hkept
    | clearOverlay =>
      dsimp only at h
      split at h
      case isTrue => exact printUnlessJson_shown hmode (hprinted h) rfl
      case isFalse hoverlay =>
        split at h
        · exact printUnlessJson_shown hmode (hprinted h) (Option.not_isSome_iff_eq_none.mp hoverlay)
        · obtain ⟨-, rfl⟩ := Prod.mk.inj (Except.ok.inj h)
          exact hshown

/-! ### Predictions -/

/-- Without the surfaces of the panes the frame of a bare client is the same. -/
theorem Bare.sameFrame (h : Bare client) : SameFrame
    { client.frameInput with paneSurfaces := none, paneSurfaceSummaries := none, overlay := none }
    client.frameInput := by
  refine ⟨rfl, h.overlay, List.map_congr_left fun pane hpane => Prod.ext rfl ?_⟩
  have hshows : showsPane client.currentWorkspace pane.paneId = true :=
    showsPane_iff.mpr ⟨pane, hpane, rfl⟩
  show paneBody client.frameInput pane.paneId = _
  by_cases hactive : pane.paneId = client.currentWorkspace.paneId
  · rw [hactive] at hshows ⊢
    rw [paneBody_active (h.summaries _ hshows)]
    exact (if_pos rfl).symm
  · rw [paneBody_other (h.summaries _ hshows) hactive, h.surfaces _ hshows hactive]
    exact (if_neg hactive).symm

/-- A prediction is shown where its paint leaves nothing out. -/
theorem repaintSpeculativeEcho_shown (hmode : RedrawMode setup) {enabled : Bool} {inputSeq : UInt64}
    {text : String} (h : repaintSpeculativeEcho setup moment enabled client inputSeq text = .ok reached)
    (hshown : Shown setup client)
    (hkept : enabled = true → ∀ predicted, (client.clientState.renderSpeculativeEcho client.speculativeEcho
      client.attachedPaneId inputSeq text setup.args.stdoutTty).1 = .ok (some predicted) → Bare client) :
    Shown setup reached := by
  unfold repaintSpeculativeEcho at h
  split at h
  case isTrue =>
    obtain rfl := Except.ok.inj h
    exact hshown
  case isFalse henabled =>
    rw [Bool.not_eq_true', Bool.not_eq_false] at henabled
    obtain ⟨predicted, hpredicted, h⟩ := Lib.Check.bind_eq_ok.mp h
    cases predicted with
    | none =>
      obtain rfl := Except.ok.inj h
      exact hshown.same (.refl _) rfl
    | some predicted =>
      obtain ⟨hoverlay, hsummaries, hsurfaces⟩ := hkept henabled predicted hpredicted
      exact paint_shown hmode h (Bare.sameFrame ⟨hoverlay, hsummaries, hsurfaces⟩)

/-! ### Events -/

theorem forwardRaw_shown (hmode : RedrawMode setup) {bytes : List UInt8}
    (h : (forwardRaw setup moment client bytes).2 = .ok reached) (hshown : Shown setup client)
    (hkept : RawKept setup client bytes) : Shown setup reached := by
  have hnext : Shown setup { client with nextInputSeq := client.nextInputSeq + 1 } :=
    hshown.same (.refl _) rfl
  unfold forwardRaw at h
  dsimp only at h
  split at h
  case h_1 text htext =>
    refine repaintSpeculativeEcho_shown hmode h hnext fun henabled predicted hpredicted => ?_
    obtain ⟨hoverlay, hsummaries, hsurfaces⟩ := hkept text htext henabled predicted hpredicted
    exact ⟨hoverlay, hsummaries, hsurfaces⟩
  case h_2 =>
    obtain rfl := Except.ok.inj h
    exact hnext

theorem handleForward_shown (hmode : RedrawMode setup) {forward : StdinByteForward}
    (h : (handleForward setup moment client forward).2 = .ok reached) (hshown : Shown setup client)
    (hkept : ForwardKept setup moment client forward) : Shown setup reached := by
  cases forward with
  | raw bytes => exact forwardRaw_shown hmode h hshown hkept
  | paste text =>
    obtain rfl := Except.ok.inj h
    exact hshown.same (.refl _) rfl
  | key key =>
    unfold handleForward at h
    dsimp only at h
    cases hkey : handleLiveTuiKey setup moment client key with
    | error error =>
      rw [hkey] at h
      cases h
    | ok handled =>
      obtain ⟨handling, handledClient⟩ := handled
      rw [hkey] at h
      cases handling with
      | handled =>
        obtain rfl := Except.ok.inj h
        exact handleLiveTuiKey_shown hmode hkey hshown hkept
      | forward bytes =>
        obtain ⟨rfl, rfl⟩ := handleLiveTuiKey_bytes hkey
        exact forwardRaw_shown hmode h hshown hkept.raw
  | mouse mouse =>
    unfold handleForward at h
    dsimp only at h
    cases hmouse : handleLiveMouse setup moment client mouse with
    | error error =>
      rw [hmouse] at h
      cases h
    | ok handled =>
      obtain ⟨sent, handledClient⟩ := handled
      rw [hmouse] at h
      obtain rfl := Except.ok.inj h
      exact handleLiveMouse_shown hmode hmouse hshown hkept

/-- What is read is painted with the overlay, but for updates. -/
theorem handleRead_shown (hmode : RedrawMode setup) {read : LiveSurfaceRead}
    (h : handleRead setup moment client read = .ok reached) (hshown : Shown setup client)
    (hkept : EventKept setup moment client (.read read)) : Shown setup reached := by
  cases read with
  | workspace workspace => exact printWithOverlay_shown hmode h
  | presence =>
    obtain rfl := Except.ok.inj h
    exact hshown
  | inventory frame =>
    unfold handleRead at h
    dsimp only at h
    split at h
    · obtain rfl := Except.ok.inj h
      exact hshown
    · exact printLiveSurfaceWithOverlay_shown hmode h rfl
  | pong pong =>
    unfold handleRead at h
    dsimp only at h
    split at h
    · exact printLiveSurfaceWithOverlay_shown hmode h rfl
    · obtain rfl := Except.ok.inj h
      exact hshown
  | update update => exact processSurfaceUpdate_shown hmode h hshown hkept
  | error message => cases h
  | noFrame =>
    obtain rfl := Except.ok.inj h
    exact hshown

/-- One event of a kind that paints what it changes. -/
theorem step_shown (hmode : RedrawMode setup) {event : LiveEvent}
    (h : step setup moment client event = .ok reached) (hshown : Shown setup client)
    (hkept : EventKept setup moment client event) : Shown setup reached := by
  cases event with
  | ping seq =>
    obtain rfl := Except.ok.inj h
    exact hshown.same (.refl _) rfl
  | resize cols rows =>
    obtain ⟨size, -, h⟩ := Lib.Check.bind_eq_ok.mp h
    exact printWithOverlay_shown hmode h
  | typed forward => exact handleForward_shown hmode h hshown hkept
  | line text =>
    have hnext : Shown setup { client with nextInputSeq := client.nextInputSeq + 1 } :=
      hshown.same (.refl _) rfl
    refine repaintSpeculativeEcho_shown hmode h hnext fun henabled predicted hpredicted => ?_
    obtain ⟨hoverlay, hsummaries, hsurfaces⟩ := hkept henabled predicted hpredicted
    exact ⟨hoverlay, hsummaries, hsurfaces⟩
  | send =>
    obtain rfl := Except.ok.inj h
    exact hshown.same (.refl _) rfl
  | read read => exact handleRead_shown hmode h hshown hkept

/-- **The screen shows what the keys drive.** In a run of the client from its first paint, every event
of which paints what it changes, the frame that was painted last is after each event that of the
workspace, the surfaces and the overlay the client keeps. -/
theorem run_shown {start : LiveClient} {inputs : List (Moment × LiveEvent)} (hmode : RedrawMode setup)
    (hoverlay : client.activeOverlay = none)
    (hstart : printLiveRendered setup moment client = .ok start)
    (hkept : Lib.Along (next setup) (NextKept setup) (.ok start) inputs) :
    ∀ done rest, done ++ rest = inputs → ∀ reached,
      Lib.run (next setup) (.ok start) done = .ok reached → Shown setup reached := by
  rintro done rest rfl
  have hinit : ∀ reached, (Except.ok start : Except String LiveClient) = .ok reached →
      Shown setup reached := by
    rintro reached hreached
    obtain rfl := Except.ok.inj hreached
    unfold printLiveRendered at hstart
    rw [if_neg (by rw [hmode.text]; exact Bool.false_ne_true)] at hstart
    exact paint_shown hmode hstart ⟨rfl, hoverlay, rfl⟩
  refine Lib.Along.invariant (I := fun state => ∀ reached, state = .ok reached → Shown setup reached)
    ?_ ((Lib.along_append (next setup)).mp hkept).1 hinit
  rintro state ⟨moment, event⟩ hshown hevent reached hreached
  cases state with
  | error error => cases hreached
  | ok client => exact step_shown hmode hreached (hshown client rfl) (hevent client rfl)

/-! ### A menu and a row of output -/

/-- A client without an overlay that has a surface of one row for one of its two panes. -/
def quietClient : LiveClient := { windowsClient with
  clientState := {
    scope := none
    surfaces := [{
      paneId := "pane-1"
      version := 1
      cols := 40
      rows := 1
      surface := .main
      cursor := none
      modes := TerminalModes.default
      title := ""
      workingDirectory := ""
      colors := .default
      styles := [PaneStyle.default]
      hyperlinks := []
      rowData := [.empty] }]
    scrollbacks := [] }
  activeMenuIndex := none
  activeOverlay := none }

/-- The menu of windows is opened. -/
def menuOpened : Moment × LiveEvent :=
  (silentMoment, .typed (.key ⟨.openMenu .windows, [0x1b, 0x77]⟩))

/-- A row of the first pane is printed. -/
def rowPrinted : Moment × LiveEvent := (silentMoment, .read (.update Client.rowUpdate))

theorem eq_ok_of_toOption {α : Type} {x : Except String α} {value : α} (h : x.toOption = some value) :
    x = .ok value := by
  cases x with
  | error message => cases h
  | ok found => exact congrArg Except.ok (Option.some.inj h)

theorem redrawSetup_redrawMode : RedrawMode redrawSetup := ⟨rfl, rfl, rfl⟩

/-- A row is printed, then a menu opened, and the menu is on the screen. -/
theorem run_shown_menu : ∃ reached,
    Lib.run (next redrawSetup) (printLiveRendered redrawSetup silentMoment quietClient)
      [rowPrinted, menuOpened] = .ok reached ∧
    reached.activeOverlay.isSome = true ∧ Shown redrawSetup reached := by
  obtain ⟨painted, hstart⟩ : ∃ painted, printLiveRendered redrawSetup silentMoment quietClient =
      .ok { quietClient with painted } := paint_ok redrawSetup silentMoment.terminal quietClient rfl
  have hkept : Lib.Along (next redrawSetup) (NextKept redrawSetup) (.ok { quietClient with painted })
      [rowPrinted, menuOpened] := by
    refine ⟨?_, fun client hclient => ⟨fun text htext _ predicted hpredicted => ?_, fun henter => ?_⟩,
      trivial⟩
    · rintro client hclient
      obtain rfl := Except.ok.inj hclient
      exact ⟨fun _ => rfl, fun hquiet => absurd (prints_of_changesRows (.inr rfl)) hquiet⟩
    · have hbytes : Tui.fromUtf8 [0x1b, 0x77] = some "\x1bw" := by decide +kernel
      obtain rfl := Option.some.inj (hbytes.symm.trans htext)
      rw [renderSpeculativeEcho_unpredictable fun _ => rfl] at hpredicted
      cases hpredicted
    · cases henter
  have hopen : ((Lib.run (next redrawSetup) (printLiveRendered redrawSetup silentMoment quietClient)
      [rowPrinted, menuOpened]).toOption.map fun client => client.activeOverlay.isSome) = some true := by
    decide +kernel
  obtain ⟨reached, hrun, hoverlay⟩ := Option.map_eq_some_iff.mp hopen
  have hrun := eq_ok_of_toOption hrun
  refine ⟨reached, hrun, hoverlay, ?_⟩
  rw [hstart] at hrun
  exact run_shown redrawSetup_redrawMode rfl hstart hkept _ [] rfl reached hrun

/-- A menu is opened, then a row is printed, and the menu that takes the keys is not on the screen. -/
theorem output_hides_menu : ∃ reached,
    Lib.run (next redrawSetup) (printLiveRendered redrawSetup silentMoment quietClient)
      [menuOpened, rowPrinted] = .ok reached ∧
    reached.activeOverlay.isSome = true ∧ ¬Shown redrawSetup reached := by
  have hhits : ((Lib.run (next redrawSetup) (printLiveRendered redrawSetup silentMoment quietClient)
      [menuOpened, rowPrinted]).toOption.map fun client => (client.activeOverlay.isSome,
        client.painted.map fun painted => (painted.frame.hits.length,
          (renderWorkspaceFrame redrawSetup client.frameInput painted.cols painted.rows).toOption.map
            fun (frame : TuiFrame) => frame.hits.length))) = some (true, some (12, some 13)) := by
    decide +kernel
  obtain ⟨reached, hrun, hpair⟩ := Option.map_eq_some_iff.mp hhits
  obtain ⟨hoverlay, hframes⟩ := Prod.mk.inj hpair
  refine ⟨reached, eq_ok_of_toOption hrun, hoverlay, ?_⟩
  rintro ⟨painted, hpainted, hframe⟩
  rw [hpainted, Option.map_some] at hframes
  obtain ⟨hpaintedHits, hkeptHits⟩ := Prod.mk.inj (Option.some.inj hframes)
  rw [hframe] at hkeptHits
  have hsame : painted.frame.hits.length = 13 := Option.some.inj hkeptHits
  omega

end Nmux.Screen
