import Nmux.Screen.Shown

/-! A client that has just attached. Its screen is that of the new workspace, and every pane shows its
cached surface; so the updates that came with the attachment, which are processed after its paint, all
leave a screen that shows what the client keeps. -/
namespace Nmux.Screen

open Client (ClientAttachState ClientPaneSurface SurfaceUpdate TerminalModeSummary WorkspacePaneFields
  WorkspaceSummary)
open Lib (OrderedMap)

variable {setup : Setup} {moment : Moment} {client reached : LiveClient}

/-! ### Seeds -/

section
variable {α : Type} {cached : String → Except String (Option α)} {workspace : WorkspaceSummary}
  {map seeded : OrderedMap String α} {paneId : String}

/-- One pane of `seedCached`. -/
def seedPane (cached : String → Except String (Option α)) (map : OrderedMap String α)
    (pane : WorkspacePaneFields) : Except String (OrderedMap String α) := do
  if (map.get? pane.paneId).isSome then return map
  else return insertCached map pane.paneId (← cached pane.paneId)

theorem insertCached_of_ne {other : String} {value : Option α} (h : other ≠ paneId) :
    (insertCached map paneId value).get? other = map.get? other := by
  cases value with
  | none => rfl
  | some value => exact OrderedMap.get?_insert_of_ne h

theorem seedPane_other {pane : WorkspacePaneFields} (h : seedPane cached map pane = .ok seeded)
    (hother : pane.paneId = paneId → map.get? paneId ≠ none) : seeded.get? paneId = map.get? paneId := by
  unfold seedPane at h
  split at h
  case isTrue => exact congrArg (·.get? paneId) (Except.ok.inj h).symm
  case isFalse hnone =>
    obtain ⟨value, -, hseeded⟩ := Lib.Check.bind_eq_ok.mp h
    obtain rfl := Except.ok.inj hseeded
    refine insertCached_of_ne fun heq => hother heq.symm ?_
    rw [heq]
    exact Option.not_isSome_iff_eq_none.mp hnone

theorem seedPane_self {pane : WorkspacePaneFields} (h : seedPane cached map pane = .ok seeded)
    (hnone : map.get? pane.paneId = none) : cached pane.paneId = .ok (seeded.get? pane.paneId) := by
  unfold seedPane at h
  rw [hnone, if_neg (Option.not_isSome_iff_eq_none.mpr rfl)] at h
  obtain ⟨value, hvalue, hseeded⟩ := Lib.Check.bind_eq_ok.mp h
  obtain rfl := Except.ok.inj hseeded
  rw [hvalue]
  cases value with
  | none => exact congrArg Except.ok hnone.symm
  | some value => exact congrArg Except.ok OrderedMap.get?_insert_self.symm

/-- What the map has stays, and so does what no pane asks for. -/
theorem foldlM_seedPane_other {panes : List WorkspacePaneFields}
    (h : panes.foldlM (seedPane cached) map = .ok seeded)
    (hother : (∃ pane ∈ panes, pane.paneId = paneId) → map.get? paneId ≠ none) :
    seeded.get? paneId = map.get? paneId := by
  induction panes generalizing map with
  | nil => exact congrArg (·.get? paneId) (Except.ok.inj h).symm
  | cons pane rest ih =>
    rw [List.foldlM_cons] at h
    obtain ⟨next, hnext, hrest⟩ := Lib.Check.bind_eq_ok.mp h
    have hget := seedPane_other hnext fun heq => hother ⟨pane, List.mem_cons_self, heq⟩
    rw [← hget]
    refine ih hrest ?_
    rintro ⟨other, hmem, heq⟩
    rw [hget]
    exact hother ⟨other, List.mem_cons_of_mem _ hmem, heq⟩

/-- A pane the map has nothing for gets what is cached for it. -/
theorem foldlM_seedPane_self {panes : List WorkspacePaneFields}
    (h : panes.foldlM (seedPane cached) map = .ok seeded) (hpane : ∃ pane ∈ panes, pane.paneId = paneId)
    (hnone : map.get? paneId = none) : cached paneId = .ok (seeded.get? paneId) := by
  induction panes generalizing map with
  | nil =>
    obtain ⟨pane, hmem, -⟩ := hpane
    cases hmem
  | cons pane rest ih =>
    rw [List.foldlM_cons] at h
    obtain ⟨next, hnext, hrest⟩ := Lib.Check.bind_eq_ok.mp h
    by_cases hself : pane.paneId = paneId
    · subst hself
      have hcached := seedPane_self hnext hnone
      by_cases hmore : (∃ other ∈ rest, other.paneId = pane.paneId) ∧ next.get? pane.paneId = none
      · exact ih hrest hmore.1 hmore.2
      · rw [foldlM_seedPane_other hrest fun hpane hnone => hmore ⟨hpane, hnone⟩]
        exact hcached
    · obtain ⟨found, hmem, hfound⟩ := hpane
      rcases List.mem_cons.mp hmem with rfl | hmem
      · exact absurd hfound hself
      · exact ih hrest ⟨found, hmem, hfound⟩
          ((seedPane_other hnext fun heq => absurd heq hself).trans hnone)

theorem showsPane_iff : showsPane workspace paneId = true ↔
    ∃ pane ∈ workspacePanes workspace, pane.paneId = paneId := by
  unfold showsPane
  simp only [List.any_eq_true, beq_iff_eq]

theorem seedCached_other (h : seedCached cached workspace map = .ok seeded)
    (hother : showsPane workspace paneId = true → map.get? paneId ≠ none) :
    seeded.get? paneId = map.get? paneId :=
  foldlM_seedPane_other h fun hpane => hother (showsPane_iff.mpr hpane)

theorem seedCached_self (h : seedCached cached workspace map = .ok seeded)
    (hshows : showsPane workspace paneId = true) (hnone : map.get? paneId = none) :
    cached paneId = .ok (seeded.get? paneId) :=
  foldlM_seedPane_self h (showsPane_iff.mp hshows) hnone

end

/-! ### The attachment -/

theorem cachedCurrentSurface_eq {state : ClientAttachState} {paneId : String} {version : UInt64}
    {surface : ClientPaneSurface} (h : cachedCurrentSurface state paneId version = .ok surface) :
    state.cachedSurface paneId = some surface := by
  unfold cachedCurrentSurface at h
  cases hcached : state.cachedSurface paneId with
  | none =>
    rw [hcached] at h
    cases h
  | some cached =>
    rw [hcached] at h
    dsimp only at h
    split at h
    · cases h
    · exact congrArg some (Except.ok.inj h)

/-- A chunk of scrollback leaves the surfaces. -/
theorem cachedSurface_cacheScrollbackChunk (state : ClientAttachState)
    (chunk : Client.ScrollbackChunkSummary) (paneId : String) :
    (cacheScrollbackChunk state chunk).cachedSurface paneId = state.cachedSurface paneId := by
  unfold cacheScrollbackChunk
  split <;> rfl

theorem renderAttach_cached {state clientState : ClientAttachState} {snapshot : AttachSnapshot}
    {rendered : RenderedAttach} (h : renderAttach state snapshot = .ok (clientState, rendered)) :
    ∃ surface, clientState.cachedSurface rendered.status.paneId = some surface ∧
      surfaceSummary surface = .ok rendered.surface := by
  have hlast {applied : ClientAttachState} {surface : ClientPaneSurface}
      (hsurface : cachedCurrentSurface applied snapshot.status.paneId snapshot.status.surfaceVersion =
        .ok surface) (scrollback : Client.ScrollbackChunkSummary) :
      applied.cachedSurface snapshot.status.paneId = some surface ∧
        (cacheScrollbackChunk applied scrollback).cachedSurface snapshot.status.paneId = some surface := by
    have hcached := cachedCurrentSurface_eq hsurface
    exact ⟨hcached, (cachedSurface_cacheScrollbackChunk applied scrollback _).trans hcached⟩
  unfold renderAttach at h
  dsimp only at h
  split at h
  · obtain ⟨-, h⟩ := Lib.Check.check_bind_eq_ok.mp h
    obtain ⟨applied, -, h⟩ := Lib.Check.bind_eq_ok.mp h
    obtain ⟨text, -, h⟩ := Lib.Check.bind_eq_ok.mp h
    obtain ⟨shown, -, h⟩ := Lib.Check.bind_eq_ok.mp h
    obtain ⟨surface, hsurface, h⟩ := Lib.Check.bind_eq_ok.mp h
    obtain ⟨summary, hsummary, h⟩ := Lib.Check.bind_eq_ok.mp h
    obtain ⟨rfl, rfl⟩ := Prod.mk.inj (Except.ok.inj h)
    refine ⟨surface, ?_, hsummary⟩
    split
    case h_1 scrollback _ => exact (hlast hsurface scrollback).2
    case h_2 => exact cachedCurrentSurface_eq hsurface
  · split at h
    · cases h
    · obtain ⟨held, -, h⟩ := Lib.Check.bind_eq_ok.mp h
      obtain ⟨text, -, h⟩ := Lib.Check.bind_eq_ok.mp h
      obtain ⟨shown, -, h⟩ := Lib.Check.bind_eq_ok.mp h
      obtain ⟨surface, hsurface, h⟩ := Lib.Check.bind_eq_ok.mp h
      obtain ⟨summary, hsummary, h⟩ := Lib.Check.bind_eq_ok.mp h
      obtain ⟨rfl, rfl⟩ := Prod.mk.inj (Except.ok.inj h)
      refine ⟨surface, ?_, hsummary⟩
      split
      case h_1 scrollback _ => exact (hlast hsurface scrollback).2
      case h_2 => exact cachedCurrentSurface_eq hsurface

/-- How the surfaces of an attached client start: with the surface of its pane, and what is cached for
the others. -/
theorem attachedSurfaceState_eq {clientState : ClientAttachState} {rendered : RenderedAttach}
    {surfaceState : LiveSurfaceState}
    (h : attachedSurfaceState setup clientState rendered = .ok surfaceState) :
    seedCachedPaneSurfaces
        (OrderedMap.empty.insert rendered.status.paneId surfaceState.currentSurfaceText) rendered.workspace
        clientState setup.args.stdoutTty = .ok surfaceState.currentPaneSurfaces ∧
      seedCachedPaneSurfaceSummaries (OrderedMap.empty.insert rendered.status.paneId rendered.surface)
        rendered.workspace clientState = .ok surfaceState.currentPaneSurfaceSummaries := by
  have hlast (text : String) (modes : TerminalModeSummary) (metadata : TerminalMetadataSummary)
      (h : (do
        let surfaces ← seedCachedPaneSurfaces (OrderedMap.empty.insert rendered.status.paneId text)
          rendered.workspace clientState setup.args.stdoutTty
        let summaries ← seedCachedPaneSurfaceSummaries
          (OrderedMap.empty.insert rendered.status.paneId rendered.surface) rendered.workspace clientState
        let paneModes ← seedCachedPaneModes (OrderedMap.empty.insert rendered.status.paneId modes)
          rendered.workspace clientState
        return ⟨metadata, modes, text, surfaces, summaries, paneModes, OrderedMap.empty⟩) =
          Except.ok surfaceState) :
      seedCachedPaneSurfaces
          (OrderedMap.empty.insert rendered.status.paneId surfaceState.currentSurfaceText)
          rendered.workspace clientState setup.args.stdoutTty = .ok surfaceState.currentPaneSurfaces ∧
        seedCachedPaneSurfaceSummaries (OrderedMap.empty.insert rendered.status.paneId rendered.surface)
          rendered.workspace clientState = .ok surfaceState.currentPaneSurfaceSummaries := by
    obtain ⟨surfaces, hsurfaces, h⟩ := Lib.Check.bind_eq_ok.mp h
    obtain ⟨summaries, hsummaries, h⟩ := Lib.Check.bind_eq_ok.mp h
    obtain ⟨paneModes, -, h⟩ := Lib.Check.bind_eq_ok.mp h
    obtain rfl := Except.ok.inj h
    exact ⟨hsurfaces, hsummaries⟩
  unfold attachedSurfaceState at h
  dsimp only at h
  split at h
  · obtain ⟨text, -, h⟩ := Lib.Check.bind_eq_ok.mp h
    split at h
    · exact hlast _ _ _ h
    · obtain ⟨cached, -, h⟩ := Lib.Check.bind_eq_ok.mp h
      exact hlast _ _ _ h
  · obtain ⟨text, -, h⟩ := Lib.Check.bind_eq_ok.mp h
    split at h
    · exact hlast _ _ _ h
    · obtain ⟨cached, -, h⟩ := Lib.Check.bind_eq_ok.mp h
      exact hlast _ _ _ h

/-- A client that has just attached shows every pane as it is cached. -/
theorem attachedSurfaceState_showsCached {rendered : RenderedAttach}
    (h : attachedSurfaceState setup client.clientState rendered = .ok client.surfaceState)
    (hworkspace : client.currentWorkspace = rendered.workspace)
    (hrendered : ∃ surface, client.clientState.cachedSurface rendered.status.paneId = some surface ∧
      surfaceSummary surface = .ok rendered.surface) (paneId : String) : ShowsCached client paneId := by
  obtain ⟨hsurfaces, hsummaries⟩ := attachedSurfaceState_eq h
  have hsurfaces : seedCached
      (fun other => cachedSurfaceTextStyled client.clientState other setup.args.stdoutTty)
      rendered.workspace _ = .ok _ := hsurfaces
  have hsummaries : seedCached (cachedRenderedSurfaceSummary client.clientState) rendered.workspace _ =
      .ok _ := hsummaries
  obtain ⟨surface, hsurface, hsummary⟩ := hrendered
  have hnew {α : Type} {value : α} {other : String} (hne : other ≠ rendered.status.paneId) :
      (OrderedMap.empty.insert rendered.status.paneId value).get? other = none :=
    (OrderedMap.get?_insert_of_ne hne).trans OrderedMap.get?_empty
  have hself : client.surfaceState.currentPaneSurfaceSummaries.get? rendered.status.paneId =
      some rendered.surface := by
    rw [seedCached_other hsummaries
      (fun _ hnone => by rw [OrderedMap.get?_insert_self] at hnone; cases hnone)]
    exact OrderedMap.get?_insert_self
  -- a pane of the workspace has the summary of its cached surface
  have hpane {other : String} {held : ClientPaneSurface} {summary : RenderedSurfaceSummary}
      (hshows : showsPane rendered.workspace other = true)
      (hheld : client.clientState.cachedSurface other = some held)
      (hheldSummary : surfaceSummary held = .ok summary) :
      client.surfaceState.currentPaneSurfaceSummaries.get? other = some summary := by
    by_cases hother : other = rendered.status.paneId
    · subst hother
      obtain rfl := Option.some.inj (hsurface.symm.trans hheld)
      obtain rfl := Except.ok.inj (hsummary.symm.trans hheldSummary)
      exact hself
    · have hcached := seedCached_self hsummaries hshows (hnew hother)
      unfold cachedRenderedSurfaceSummary at hcached
      rw [hheld] at hcached
      dsimp only at hcached
      rw [hheldSummary] at hcached
      exact (Except.ok.inj hcached).symm
  refine ⟨fun hshows held summary hheld hheldSummary => ?_, fun _ hnone => ?_⟩
  · rw [hworkspace] at hshows
    exact ⟨summary, hpane hshows hheld hheldSummary, rfl, rfl⟩
  · rw [hworkspace] at hnone ⊢
    have hother : rendered.workspace.paneId ≠ rendered.status.paneId := by
      intro heq
      rw [heq, hself] at hnone
      cases hnone
    by_cases hshows : showsPane rendered.workspace rendered.workspace.paneId = true
    · have hcached := seedCached_self hsurfaces hshows (hnew hother)
      unfold cachedSurfaceTextStyled at hcached
      cases hheld : client.clientState.cachedSurface rendered.workspace.paneId with
      | none =>
        rw [hheld] at hcached
        rw [← Except.ok.inj hcached]
        rfl
      | some held =>
        have hsummaryNone := seedCached_self hsummaries hshows (hnew hother)
        unfold cachedRenderedSurfaceSummary at hsummaryNone
        rw [hheld, hnone] at hsummaryNone
        obtain ⟨heldSummary, -, hsome⟩ := Lib.Check.bind_eq_ok.mp hsummaryNone
        cases hsome
    · rw [seedCached_other hsurfaces fun hpane => absurd hpane hshows, hnew hother]
      rfl

/-! ### The updates that came with it -/

/-- The screen shows what the client keeps, without an overlay and with every pane as it is cached. -/
structure Fresh (setup : Setup) (client : LiveClient) : Prop where
  shown : Shown setup client
  overlay : client.activeOverlay = none
  cached : ∀ paneId, ShowsCached client paneId

/-- A paint changes nothing that is kept. -/
theorem ShowsCached.painted {paneId : String} (h : ShowsCached client paneId)
    (painted : Option PaintedFrame) : ShowsCached { client with painted } paneId := ⟨h.pane, h.active⟩

theorem applyPendingLive_eq (client : LiveClient) (pendingLive : List Client.InventoryFrame) :
    ∃ clientInventory, client.applyPendingLive pendingLive = { client with clientInventory } := by
  unfold LiveClient.applyPendingLive
  induction pendingLive generalizing client with
  | nil => exact ⟨client.clientInventory, rfl⟩
  | cons frame rest ih =>
    rw [List.foldl_cons]
    obtain ⟨clientInventory, hrest⟩ := ih { client with
      clientInventory := (client.clientInventory.apply frame).toOption.getD client.clientInventory }
    exact ⟨clientInventory, hrest⟩

theorem printLiveRendered_fresh (hmode : RedrawMode setup)
    (h : printLiveRendered setup moment client = .ok reached) (hoverlay : client.activeOverlay = none)
    (hcached : ∀ paneId, ShowsCached client paneId) : Fresh setup reached := by
  unfold printLiveRendered at h
  rw [if_neg (by rw [hmode.text]; exact Bool.false_ne_true)] at h
  have hsame : SameFrame { client.frameInput with overlay := none } client.frameInput :=
    ⟨rfl, hoverlay, rfl⟩
  have hshown := paint_shown hmode h hsame
  obtain ⟨painted, rfl, -⟩ := paint_eq hmode h
  exact ⟨hshown, hoverlay, fun paneId => (hcached paneId).painted _⟩

theorem attachLiveSession_fresh (hmode : RedrawMode setup) {sessionId : String}
    {pendingUpdates : List SurfaceUpdate}
    (h : attachLiveSession setup moment client sessionId = .ok (reached, pendingUpdates))
    (hoverlay : client.activeOverlay = none) : Fresh setup reached := by
  unfold attachLiveSession at h
  obtain ⟨answer, -, h⟩ := Lib.Check.bind_eq_ok.mp h
  obtain ⟨⟨clientState, rendered⟩, hrendered, h⟩ := Lib.Check.bind_eq_ok.mp h
  obtain ⟨surfaceState, hsurfaceState, h⟩ := Lib.Check.bind_eq_ok.mp h
  obtain ⟨scrollback, -, h⟩ := Lib.Check.bind_eq_ok.mp h
  have hcached := @attachedSurfaceState_showsCached setup { client with
    attachedPaneId := answer.snapshot.status.paneId
    currentWorkspace := rendered.workspace
    surfaceState
    clientState
    nextInputSeq := 1 } rendered hsurfaceState rfl (renderAttach_cached hrendered)
  cases scrollback with
  | none =>
    obtain ⟨painted, hpaint, hpair⟩ := Lib.Check.bind_eq_ok.mp h
    obtain ⟨rfl, rfl⟩ := Prod.mk.inj (Except.ok.inj hpair)
    exact printLiveRendered_fresh hmode hpaint hoverlay hcached
  | some scrollback =>
    obtain ⟨painted, hpaint, hpair⟩ := Lib.Check.bind_eq_ok.mp h
    obtain ⟨rfl, rfl⟩ := Prod.mk.inj (Except.ok.inj hpair)
    obtain ⟨clientInventory, hlive⟩ := applyPendingLive_eq { client with
      attachedPaneId := answer.snapshot.status.paneId
      currentWorkspace := rendered.workspace
      surfaceState
      clientState
      nextInputSeq := 1 } scrollback.pendingLive
    rw [hlive] at hpaint
    refine printLiveRendered_fresh hmode hpaint hoverlay fun paneId => ⟨fun hshows held summary hheld => ?_,
      (hcached paneId).active⟩
    rw [cachedSurface_cacheScrollbackChunk] at hheld
    exact (hcached paneId).pane hshows held summary hheld

theorem processSurfaceUpdate_eq (hmode : RedrawMode setup) {update : SurfaceUpdate}
    (h : processSurfaceUpdate setup moment client update = .ok reached) :
    ∃ updated painted, Cached client update updated ∧ reached = { updated with painted } := by
  obtain ⟨updated, hupdated, h⟩ := Lib.Check.bind_eq_ok.mp h
  refine ⟨updated, ?_⟩
  rw [if_neg (by rw [hmode.text]; exact Bool.false_ne_true)] at h
  unfold printLiveUpdate at h
  have hprinted (hprint : printLiveSurface setup moment.terminal updated = .ok reached) :
      ∃ painted, Cached client update updated ∧ reached = { updated with painted } := by
    obtain ⟨painted, hreached, -⟩ := paint_eq hmode hprint
    exact ⟨some painted, cacheUpdate_cached hupdated, hreached⟩
  split at h
  · exact hprinted h
  · exact hprinted h
  · exact ⟨updated.painted, cacheUpdate_cached hupdated, (Except.ok.inj h).symm⟩

theorem Fresh.processSurfaceUpdate (h : Fresh setup client) (hmode : RedrawMode setup)
    {update : SurfaceUpdate} (hupdate : processSurfaceUpdate setup moment client update = .ok reached) :
    Fresh setup reached := by
  have hshown := processSurfaceUpdate_shown hmode hupdate h.shown
    ⟨fun _ => h.overlay, fun _ => h.cached update.paneId⟩
  obtain ⟨updated, painted, hcached, rfl⟩ := processSurfaceUpdate_eq hmode hupdate
  exact ⟨hshown, hcached.overlay.trans h.overlay,
    fun paneId => (hcached.showsCached (h.cached paneId)).painted painted⟩

/-- **A session that is switched to is shown.** It is painted without an overlay, and the updates that
came with it keep it so. -/
theorem switchLiveSession_shown (hmode : RedrawMode setup) {sessionId : String}
    (h : switchLiveSession setup moment client sessionId = .ok reached)
    (hoverlay : client.activeOverlay = none) : Shown setup reached := by
  obtain ⟨⟨attached, pendingUpdates⟩, hattached, h⟩ := Lib.Check.bind_eq_ok.mp h
  have hfresh := attachLiveSession_fresh hmode hattached hoverlay
  dsimp only at h
  clear hattached
  induction pendingUpdates generalizing attached with
  | nil =>
    obtain rfl := Except.ok.inj h
    exact hfresh.shown
  | cons update rest ih =>
    rw [List.foldlM_cons] at h
    obtain ⟨updated, hupdated, hrest⟩ := Lib.Check.bind_eq_ok.mp h
    exact ih updated hrest (hfresh.processSurfaceUpdate hmode hupdated)

end Nmux.Screen
