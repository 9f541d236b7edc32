import Nmux.Client.Predictions
import Nmux.Screen.Step

/-! The screen and what the keys drive. After an event the last frame that was painted should be that of
what the client keeps: its workspace, what its panes show, and its overlay. Each handler paints what it
hands over itself, so this holds of the events that paint everything, or that change nothing a frame
shows. -/
namespace Nmux.Screen

open Client (ClientAttachState ClientPaneSurface SurfaceUpdate)
open Tui (TuiOverlay)

/-! ### Frames -/

/-- The client redraws the frame of a terminal. -/
structure RedrawMode (setup : Setup) : Prop where
  redraw : setup.args.redraw = true
  tty : setup.args.stdoutTty = true
  text : setup.args.outputJson = false

/-- The last frame that was painted is that of what the client keeps. -/
def Shown (setup : Setup) (client : LiveClient) : Prop :=
  ∃ painted, client.painted = some painted ∧
    renderWorkspaceFrame setup client.frameInput painted.cols painted.rows = .ok painted.frame

/-- Both show the same in a frame. -/
structure SameFrame (input other : WorkspaceFrameInput) : Prop where
  workspace : other.workspace = input.workspace
  overlay : other.overlay = input.overlay
  bodies : paneBodies other = paneBodies input

variable {setup : Setup} {moment : Moment} {terminal : UInt32 × UInt32} {client reached : LiveClient}

theorem SameFrame.refl (input : WorkspaceFrameInput) : SameFrame input input := ⟨rfl, rfl, rfl⟩

theorem SameFrame.render {input other : WorkspaceFrameInput} (h : SameFrame input other) (cols rows : UInt16) :
    renderWorkspaceFrame setup other cols rows = renderWorkspaceFrame setup input cols rows := by
  unfold renderWorkspaceFrame
  rw [h.workspace, h.overlay, h.bodies]

theorem paneBody_structured {paneId : String} {surface : RenderedSurfaceSummary}
    (h : client.surfaceState.currentPaneSurfaceSummaries.get? paneId = some surface) :
    paneBody client.frameInput paneId = .structured surface.rowUpdates surface.styles := by
  unfold paneBody
  dsimp only [LiveClient.frameInput, Option.bind_some]
  rw [h]

theorem paneBody_active (h : client.surfaceState.currentPaneSurfaceSummaries.get?
      client.currentWorkspace.paneId = none) :
    paneBody client.frameInput client.currentWorkspace.paneId =
      .text client.surfaceState.currentSurfaceText := by
  unfold paneBody
  dsimp only [LiveClient.frameInput, Option.bind_some]
  rw [h]
  exact if_pos rfl

theorem paneBody_other {paneId : String}
    (h : client.surfaceState.currentPaneSurfaceSummaries.get? paneId = none)
    (hactive : paneId ≠ client.currentWorkspace.paneId) : paneBody client.frameInput paneId =
      .text ((client.surfaceState.currentPaneSurfaces.get? paneId).getD "(surface not cached)") := by
  unfold paneBody
  dsimp only [LiveClient.frameInput, Option.bind_some]
  rw [h]
  exact if_neg hactive

/-- What a frame does not show may change. -/
theorem Shown.same (h : Shown setup client) (hsame : SameFrame client.frameInput reached.frameInput)
    (hpainted : reached.painted = client.painted) : Shown setup reached := by
  obtain ⟨painted, hpaint, hframe⟩ := h
  exact ⟨painted, hpainted.trans hpaint, (hsame.render _ _).trans hframe⟩

/-- A paint changes what is painted. -/
theorem paint_eq (hmode : RedrawMode setup) {input : WorkspaceFrameInput}
    (h : client.paint setup terminal input = .ok reached) :
    ∃ painted, reached = { client with painted := some painted } ∧
      renderWorkspaceFrame setup input painted.cols painted.rows = .ok painted.frame := by
  unfold LiveClient.paint at h
  rw [if_pos ⟨hmode.redraw, hmode.tty⟩] at h
  obtain ⟨painted, hpainted, hreached⟩ := Lib.Check.bind_eq_ok.mp h
  obtain ⟨frame, hframe, hrecord⟩ := Lib.Check.bind_eq_ok.mp hpainted
  obtain rfl := Except.ok.inj hrecord
  exact ⟨_, (Except.ok.inj hreached).symm, hframe⟩

/-- A paint of what the client keeps is shown. -/
theorem paint_shown (hmode : RedrawMode setup) {input : WorkspaceFrameInput}
    (h : client.paint setup terminal input = .ok reached) (hsame : SameFrame input client.frameInput) :
    Shown setup reached := by
  obtain ⟨painted, rfl, hframe⟩ := paint_eq hmode h
  exact ⟨painted, rfl, (hsame.render _ _).trans hframe⟩

theorem paint_overlay (hmode : RedrawMode setup) {input : WorkspaceFrameInput}
    (h : client.paint setup terminal input = .ok reached) :
    reached.activeOverlay = client.activeOverlay := by
  obtain ⟨painted, rfl, -⟩ := paint_eq hmode h
  rfl

theorem printLiveSurfaceWithOverlay_shown (hmode : RedrawMode setup) {overlay : Option TuiOverlay}
    (h : printLiveSurfaceWithOverlay setup terminal client overlay = .ok reached)
    (hoverlay : client.activeOverlay = overlay) : Shown setup reached := by
  refine paint_shown hmode h ?_
  subst hoverlay
  exact .refl _

/-- A paint without an overlay is shown if there is none. -/
theorem printLiveSurface_shown (hmode : RedrawMode setup)
    (h : printLiveSurface setup terminal client = .ok reached) (hoverlay : client.activeOverlay = none) :
    Shown setup reached :=
  printLiveSurfaceWithOverlay_shown hmode h hoverlay

theorem printUnlessJson_shown (hmode : RedrawMode setup) {overlay : Option TuiOverlay}
    (h : printUnlessJson setup moment client overlay = .ok reached)
    (hoverlay : client.activeOverlay = overlay) : Shown setup reached := by
  unfold printUnlessJson at h
  rw [if_pos ⟨hmode.redraw, by rw [hmode.text]; rfl⟩] at h
  exact printLiveSurfaceWithOverlay_shown hmode h hoverlay

theorem printWithOverlay_shown (hmode : RedrawMode setup)
    (h : printWithOverlay setup moment client = .ok reached) : Shown setup reached := by
  unfold printWithOverlay at h
  rw [if_neg (by rw [hmode.text]; exact Bool.false_ne_true), if_pos hmode.redraw] at h
  exact printLiveSurfaceWithOverlay_shown hmode h rfl

/-! ### Updates -/

/-- The update replaces rows of its pane, or all of them. -/
def ChangesRows (update : SurfaceUpdate) : Prop :=
  update.kind = .snapshot ∨ update.patchKind = some .replaceRows

/-- The metadata of the active pane after an update. -/
def metadataAfter (client : LiveClient) (update : SurfaceUpdate) : TerminalMetadataSummary :=
  if update.paneId = client.currentWorkspace.paneId then ⟨update.title, update.workingDirectory⟩
  else client.surfaceState.currentSurfaceMetadata

/-- The update is printed. -/
def Prints (setup : Setup) (client : LiveClient) (update : SurfaceUpdate) : Prop :=
  liveUpdatePrintKind client.surfaceState.currentSurfaceMetadata (metadataAfter client update) update
    setup.args.redraw ≠ .none

theorem prints_of_changesRows {update : SurfaceUpdate} (h : ChangesRows update) :
    Prints setup client update := by
  unfold ChangesRows at h
  unfold Prints liveUpdatePrintKind
  rw [if_pos h]
  decide

/-- What a pane shows is its cached surface, if it has one, and not a piece of its history; and the text
of the active pane, where that is drawn as text, is the one kept for it. -/
structure ShowsCached (client : LiveClient) (paneId : String) : Prop where
  pane : showsPane client.currentWorkspace paneId = true → ∀ held summary,
    client.clientState.cachedSurface paneId = some held → surfaceSummary held = .ok summary →
      ∃ shown, client.surfaceState.currentPaneSurfaceSummaries.get? paneId = some shown ∧
        shown.rowUpdates = summary.rowUpdates ∧ shown.styles = summary.styles
  active : paneId ≠ client.currentWorkspace.paneId →
    client.surfaceState.currentPaneSurfaceSummaries.get? client.currentWorkspace.paneId = none →
      (client.surfaceState.currentPaneSurfaces.get? client.currentWorkspace.paneId).getD
        client.surfaceState.currentSurfaceText = client.surfaceState.currentSurfaceText

/-- An update that is printed finds no overlay, and one that is not finds its pane as it is cached. -/
structure UpdateKept (setup : Setup) (client : LiveClient) (update : SurfaceUpdate) : Prop where
  printed : Prints setup client update → client.activeOverlay = none
  quiet : ¬Prints setup client update → ShowsCached client update.paneId

theorem surfaceSummary_eq {surface : ClientPaneSurface} {summary : RenderedSurfaceSummary}
    (h : surfaceSummary surface = .ok summary) :
    surface.stored.summaryRows = .ok summary.rowUpdates ∧ summary.styles = surface.styles := by
  obtain ⟨rowUpdates, hrows, hsummary⟩ := Lib.Check.bind_eq_ok.mp h
  obtain rfl := Except.ok.inj hsummary
  exact ⟨hrows, rfl⟩

/-- A patch that replaces no rows leaves the rows and the styles of the surface. -/
theorem applyPatch_quiet {held surface : ClientPaneSurface} {update : SurfaceUpdate}
    (h : held.applyPatch update = .ok surface) (hquiet : update.patchKind ≠ some .replaceRows) :
    surface.stored.summaryRows = held.stored.summaryRows ∧ surface.styles = held.styles := by
  unfold ClientPaneSurface.applyPatch at h
  obtain ⟨-, h⟩ := Lib.Check.check_bind_eq_ok.mp h
  dsimp only at h
  split at h
  · obtain ⟨-, h⟩ := Lib.Check.check_bind_eq_ok.mp h
    obtain rfl := Except.ok.inj h
    exact ⟨rfl, rfl⟩
  split at h
  · obtain ⟨-, h⟩ := Lib.Check.check_bind_eq_ok.mp h
    obtain rfl := Except.ok.inj h
    exact ⟨rfl, rfl⟩
  split at h
  · obtain ⟨colors, -, h⟩ := Lib.Check.bind_eq_ok.mp h
    obtain ⟨palette, -, h⟩ := Lib.Check.bind_eq_ok.mp h
    obtain rfl := Except.ok.inj h
    exact ⟨rfl, rfl⟩
  · obtain ⟨hkind, -⟩ := Lib.Check.check_bind_eq_ok.mp h
    exact absurd (beq_iff_eq.mp (Lib.Check.require_eq_ok.mp hkind)) hquiet

theorem applySurfaceUpdate_quiet {state patched : ClientAttachState} {update : SurfaceUpdate}
    {surface : ClientPaneSurface} (h : state.applySurfaceUpdate update = .ok (patched, surface))
    (hquiet : ¬ChangesRows update) : ∃ held, state.cachedSurface update.paneId = some held ∧
      surface.stored.summaryRows = held.stored.summaryRows ∧ surface.styles = held.styles := by
  obtain ⟨hsnapshot, hrows⟩ := not_or.mp hquiet
  have hkind : update.kind = .patch := by
    cases hkind : update.kind with
    | patch => rfl
    | snapshot => exact absurd hkind hsnapshot
  obtain ⟨held, hheld, -⟩ := ClientAttachState.cachedSurface_of_patch h hkind
  refine ⟨held, hheld, ?_⟩
  rw [ClientAttachState.applySurfaceUpdate, hheld] at h
  obtain ⟨applied, happlied, hreached⟩ := Lib.Check.bind_eq_ok.mp h
  obtain ⟨-, rfl⟩ := Prod.mk.inj (Except.ok.inj hreached)
  rw [ClientPaneSurface.applyUpdate, hkind] at happlied
  exact applyPatch_quiet happlied hrows

/-- What an update does before it is printed. -/
structure Cached (client : LiveClient) (update : SurfaceUpdate) (reached : LiveClient) : Prop where
  workspace : reached.currentWorkspace = client.currentWorkspace
  overlay : reached.activeOverlay = client.activeOverlay
  painted : reached.painted = client.painted
  metadata : reached.surfaceState.currentSurfaceMetadata = metadataAfter client update
  surface : ∃ surface summary,
    client.clientState.applySurfaceUpdate update = .ok (reached.clientState, surface) ∧
    surfaceSummary surface = .ok summary ∧
    reached.surfaceState.currentPaneSurfaceSummaries =
      client.surfaceState.currentPaneSurfaceSummaries.insert update.paneId summary
  others : ∀ paneId, paneId ≠ update.paneId →
    reached.surfaceState.currentPaneSurfaces.get? paneId = client.surfaceState.currentPaneSurfaces.get? paneId
  text : update.paneId ≠ client.currentWorkspace.paneId → reached.surfaceState.currentSurfaceText =
    (client.surfaceState.currentPaneSurfaces.get? client.currentWorkspace.paneId).getD
      client.surfaceState.currentSurfaceText

theorem cachedSurface_after {state patched : ClientAttachState} {update : SurfaceUpdate}
    {surface : ClientPaneSurface} (h : state.applySurfaceUpdate update = .ok (patched, surface))
    (paneId : String) : patched.cachedSurface paneId =
      if paneId = update.paneId then some surface else state.cachedSurface paneId :=
  ClientAttachState.cachedSurface_of_applySurfaceUpdate h
    (Client.EchoClient.applySurfaceUpdate_paneId h) paneId

theorem cacheUpdate_cached {update : SurfaceUpdate} (h : client.cacheUpdate setup update = .ok reached) :
    Cached client update reached := by
  unfold LiveClient.cacheUpdate at h
  obtain ⟨⟨clientState, surface⟩, happly, h⟩ := Lib.Check.bind_eq_ok.mp h
  obtain ⟨text, -, h⟩ := Lib.Check.bind_eq_ok.mp h
  obtain ⟨cached, hcached, h⟩ := Lib.Check.bind_eq_ok.mp h
  unfold cachedRenderedSurfaceSummary at hcached
  rw [cachedSurface_after happly, if_pos rfl] at hcached
  obtain ⟨summary, hsummary, hsome⟩ := Lib.Check.bind_eq_ok.mp hcached
  obtain rfl := Except.ok.inj hsome
  obtain rfl := Except.ok.inj h
  have hget : ∀ paneId, paneId ≠ update.paneId →
      (client.surfaceState.currentPaneSurfaces.insert update.paneId text).get? paneId =
        client.surfaceState.currentPaneSurfaces.get? paneId :=
    fun paneId hne => Lib.OrderedMap.get?_insert_of_ne hne
  by_cases hactive : update.paneId = client.currentWorkspace.paneId
  · rw [if_pos hactive]
    exact ⟨rfl, rfl, rfl, by rw [metadataAfter, if_pos hactive], ⟨_, _, happly, hsummary, rfl⟩, hget,
      fun hne => absurd hactive hne⟩
  · rw [if_neg hactive]
    exact ⟨rfl, rfl, rfl, by rw [metadataAfter, if_neg hactive], ⟨_, _, happly, hsummary, rfl⟩, hget,
      fun _ => by dsimp only; rw [hget _ (Ne.symm hactive)]⟩

/-- What is shown as it is cached stays so, whatever the update changes. -/
theorem Cached.showsCached {update : SurfaceUpdate} (h : Cached client update reached) {paneId : String}
    (hshows : ShowsCached client paneId) : ShowsCached reached paneId := by
  obtain ⟨surface, summary, happly, hsummary, hsummaries⟩ := h.surface
  refine ⟨fun hpane held summary' hheld hsummary' => ?_, fun hne hnone => ?_⟩
  · rw [cachedSurface_after happly] at hheld
    by_cases hself : paneId = update.paneId
    · rw [if_pos hself] at hheld
      obtain rfl := Option.some.inj hheld
      obtain rfl := Except.ok.inj (hsummary.symm.trans hsummary')
      exact ⟨summary, by rw [hsummaries, hself, Lib.OrderedMap.get?_insert_self], rfl, rfl⟩
    · rw [if_neg hself] at hheld
      rw [h.workspace] at hpane
      obtain ⟨shown, hshown, hsame⟩ := hshows.pane hpane held summary' hheld hsummary'
      exact ⟨shown, by rw [hsummaries, Lib.OrderedMap.get?_insert_of_ne hself, hshown], hsame⟩
  · rw [h.workspace] at hnone ⊢
    by_cases hactive : update.paneId = client.currentWorkspace.paneId
    · rw [hsummaries, ← hactive, Lib.OrderedMap.get?_insert_self] at hnone
      cases hnone
    · rw [h.others _ (Ne.symm hactive), h.text hactive]
      cases client.surfaceState.currentPaneSurfaces.get? client.currentWorkspace.paneId <;> rfl

/-- An update that replaces no rows leaves the frame, where its pane is shown as it is cached. -/
theorem Cached.sameFrame {update : SurfaceUpdate} (h : Cached client update reached)
    (hquiet : ¬ChangesRows update) (hshows : ShowsCached client update.paneId) :
    SameFrame client.frameInput reached.frameInput := by
  obtain ⟨surface, summary, happly, hsummary, hsummaries⟩ := h.surface
  refine ⟨h.workspace, h.overlay, ?_⟩
  have hworkspace : reached.frameInput.workspace = client.frameInput.workspace := h.workspace
  unfold paneBodies
  rw [hworkspace]
  refine List.map_congr_left fun pane hpane => Prod.ext rfl ?_
  show paneBody reached.frameInput pane.paneId = paneBody client.frameInput pane.paneId
  by_cases hself : pane.paneId = update.paneId
  · have hshown : showsPane client.currentWorkspace update.paneId = true := by
      unfold showsPane
      rw [List.any_eq_true]
      exact ⟨pane, hpane, beq_iff_eq.mpr hself⟩
    obtain ⟨held, hheld, hrows, hstyles⟩ := applySurfaceUpdate_quiet happly hquiet
    obtain ⟨hsummaryRows, hsummaryStyles⟩ := surfaceSummary_eq hsummary
    have hheldSummary : ∃ heldSummary, surfaceSummary held = .ok heldSummary ∧
        heldSummary.rowUpdates = summary.rowUpdates ∧ heldSummary.styles = summary.styles := by
      unfold surfaceSummary
      rw [← hrows, hsummaryRows]
      exact ⟨_, rfl, rfl, by rw [hsummaryStyles, hstyles]⟩
    obtain ⟨heldSummary, hheldSummary, hsameRows, hsameStyles⟩ := hheldSummary
    obtain ⟨shown, hget, hshownRows, hshownStyles⟩ := hshows.pane hshown held heldSummary hheld hheldSummary
    rw [hself, paneBody_structured hget, hshownRows, hshownStyles, hsameRows, hsameStyles]
    exact paneBody_structured (by rw [hsummaries, Lib.OrderedMap.get?_insert_self])
  · have hget : reached.surfaceState.currentPaneSurfaceSummaries.get? pane.paneId =
        client.surfaceState.currentPaneSurfaceSummaries.get? pane.paneId := by
      rw [hsummaries, Lib.OrderedMap.get?_insert_of_ne hself]
    cases hcached : client.surfaceState.currentPaneSurfaceSummaries.get? pane.paneId with
    | some surface => rw [paneBody_structured hcached, paneBody_structured (hget.trans hcached)]
    | none =>
      by_cases hactive : pane.paneId = client.currentWorkspace.paneId
      · have hne : update.paneId ≠ client.currentWorkspace.paneId := fun heq => hself (hactive.trans heq.symm)
        rw [hactive] at hcached hget ⊢
        rw [paneBody_active hcached, ← hshows.active hne hcached, ← h.text hne, ← h.workspace]
        exact paneBody_active (by rw [h.workspace]; exact hget.trans hcached)
      · rw [paneBody_other hcached hactive,
          paneBody_other (hget.trans hcached) (by rw [h.workspace]; exact hactive), h.others _ hself]

/-- **An update keeps what is shown**, if it is printed where no overlay is open, or else replaces no
rows of a pane that is shown as it is cached. -/
theorem processSurfaceUpdate_shown (hmode : RedrawMode setup) {update : SurfaceUpdate}
    (h : processSurfaceUpdate setup moment client update = .ok reached) (hshown : Shown setup client)
    (hkept : UpdateKept setup client update) : Shown setup reached := by
  obtain ⟨updated, hupdated, h⟩ := Lib.Check.bind_eq_ok.mp h
  have hcached := cacheUpdate_cached hupdated
  rw [if_neg (by rw [hmode.text]; exact Bool.false_ne_true)] at h
  unfold printLiveUpdate at h
  rw [hcached.metadata] at h
  have hprinted (hkind : Prints setup client update)
      (hprint : printLiveSurface setup moment.terminal updated = .ok reached) : Shown setup reached :=
    printLiveSurface_shown hmode hprint (hcached.overlay.trans (hkept.printed hkind))
  cases hkind : liveUpdatePrintKind client.surfaceState.currentSurfaceMetadata (metadataAfter client update)
      update setup.args.redraw with
  | surface =>
    rw [hkind] at h
    exact hprinted (by rw [Prints, hkind]; decide) h
  | metadata =>
    rw [hkind] at h
    exact hprinted (by rw [Prints, hkind]; decide) h
  | none =>
    rw [hkind] at h
    obtain rfl := Except.ok.inj h
    have hquiet : ¬Prints setup client update := by
      rw [Prints, hkind]
      exact fun hne => hne rfl
    exact hshown.same (hcached.sameFrame (fun hrows => hquiet (prints_of_changesRows hrows))
      (hkept.quiet hquiet)) hcached.painted

end Nmux.Screen
