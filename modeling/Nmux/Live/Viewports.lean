import Nmux.Live.Serves

/-! Viewports and the sizes of panes. A viewport is kept with its client; when it is applied, its pane
gets the smallest size, each way, that the clients who may write have asked for. Nothing else that
clients do sizes a pane, unless they resize it at once. -/
namespace Nmux

/-- Output of a pane, or input for it. -/
def SessionEvent.OfText : SessionEvent → Prop
  | .paneOutput _ _ | .forwardPaneInput _ _ _ => True
  | _ => False

/-- Text sizes no pane. -/
theorem SessionCore.acceptPending_paneSize {σ : Type} (engine : TerminalEngine σ) (core : SessionCore σ)
    {pending : PendingSessionEvent} (h : pending.event.OfText) :
    (core.acceptPending engine pending).1.session.paneSize = core.session.paneSize := by
  obtain ⟨sourceId, lane, now, event⟩ := pending
  cases event with
  | paneOutput paneId bytes =>
    funext other
    exact Session.applyPaneOutput_size engine _ _ _ _
  | forwardPaneInput => rfl
  | _ => exact h.elim

namespace Live

open Protocol (ResizeReason)
open Daemon (ServesPanes)

/-! ### The smallest size -/

/-- The smaller of two lengths is one of them, and no larger than either. -/
theorem min_cases (length other : UInt32) :
    (min length other = length ∨ min length other = other) ∧ min length other ≤ length ∧
      min length other ≤ other := by
  have hmin : min length other = if length ≤ other then length else other := rfl
  rw [hmin]
  split
  case isTrue hle => exact ⟨.inl rfl, UInt32.le_refl _, hle⟩
  case isFalse hle => exact ⟨.inr rfl, UInt32.le_of_lt (UInt32.not_le.mp hle), UInt32.le_refl _⟩

/-- The size is each way the smallest of the sizes. -/
structure SmallestOf (sizes : List (UInt32 × UInt32)) (size : UInt32 × UInt32) : Prop where
  cols_mem : size.1 ∈ sizes.map Prod.fst
  rows_mem : size.2 ∈ sizes.map Prod.snd
  cols_le : ∀ other ∈ sizes, size.1 ≤ other.1
  rows_le : ∀ other ∈ sizes, size.2 ≤ other.2

namespace SmallestOf

variable {sizes others : List (UInt32 × UInt32)} {size other : UInt32 × UInt32}

theorem unique (h : SmallestOf sizes size) (h' : SmallestOf sizes other) : size = other := by
  obtain ⟨_, hcols, heq⟩ := List.mem_map.mp h.cols_mem
  obtain ⟨_, hcols', heq'⟩ := List.mem_map.mp h'.cols_mem
  obtain ⟨_, hrows, heqr⟩ := List.mem_map.mp h.rows_mem
  obtain ⟨_, hrows', heqr'⟩ := List.mem_map.mp h'.rows_mem
  refine Prod.ext (UInt32.le_antisymm ?_ ?_) (UInt32.le_antisymm ?_ ?_)
  · exact heq' ▸ h.cols_le _ hcols'
  · exact heq ▸ h'.cols_le _ hcols
  · exact heqr' ▸ h.rows_le _ hrows'
  · exact heqr ▸ h'.rows_le _ hrows

theorem perm (h : SmallestOf sizes size) (hperm : sizes.Perm others) : SmallestOf others size where
  cols_mem := (hperm.map _).subset h.cols_mem
  rows_mem := (hperm.map _).subset h.rows_mem
  cols_le other hmem := h.cols_le other (hperm.symm.subset hmem)
  rows_le other hmem := h.rows_le other (hperm.symm.subset hmem)

/-- Two sizes may be replaced by the smaller of them. -/
theorem cons_cons {next : UInt32 × UInt32} (h : SmallestOf (smallerSize size next :: sizes) other) :
    SmallestOf (size :: next :: sizes) other := by
  obtain ⟨hcols, hrows, hcolsLe, hrowsLe⟩ := h
  obtain ⟨hcol, hcolSize, hcolNext⟩ := min_cases size.1 next.1
  obtain ⟨hrow, hrowSize, hrowNext⟩ := min_cases size.2 next.2
  obtain ⟨hfirst, hcolsLe⟩ := List.forall_mem_cons.mp hcolsLe
  obtain ⟨hsecond, hrowsLe⟩ := List.forall_mem_cons.mp hrowsLe
  refine ⟨?_, ?_, ?_, ?_⟩
  · rw [List.map_cons, List.map_cons]
    rcases List.mem_cons.mp hcols with hcols | hcols
    · rcases hcol with hmin | hmin
      · exact List.mem_cons.mpr (.inl (hcols.trans hmin))
      · exact List.mem_cons_of_mem _ (List.mem_cons.mpr (.inl (hcols.trans hmin)))
    · exact List.mem_cons_of_mem _ (List.mem_cons_of_mem _ hcols)
  · rw [List.map_cons, List.map_cons]
    rcases List.mem_cons.mp hrows with hrows | hrows
    · rcases hrow with hmin | hmin
      · exact List.mem_cons.mpr (.inl (hrows.trans hmin))
      · exact List.mem_cons_of_mem _ (List.mem_cons.mpr (.inl (hrows.trans hmin)))
    · exact List.mem_cons_of_mem _ (List.mem_cons_of_mem _ hrows)
  · exact List.forall_mem_cons.mpr ⟨UInt32.le_trans hfirst hcolSize,
      List.forall_mem_cons.mpr ⟨UInt32.le_trans hfirst hcolNext, hcolsLe⟩⟩
  · exact List.forall_mem_cons.mpr ⟨UInt32.le_trans hsecond hrowSize,
      List.forall_mem_cons.mpr ⟨UInt32.le_trans hsecond hrowNext, hrowsLe⟩⟩

theorem fold (size : UInt32 × UInt32) (rest : List (UInt32 × UInt32)) :
    SmallestOf (size :: rest) (rest.foldl smallerSize size) := by
  induction rest generalizing size with
  | nil =>
    refine ⟨List.mem_cons_self, List.mem_cons_self, ?_, ?_⟩
    · exact List.forall_mem_singleton.mpr (UInt32.le_refl _)
    · exact List.forall_mem_singleton.mpr (UInt32.le_refl _)
  | cons next rest ih => exact (ih (smallerSize size next)).cons_cons

end SmallestOf

section
variable {clients : List LiveAttachedClient} {paneId : String}

theorem smallest_eq_none : smallestReadWriteFrontendResize clients paneId = none ↔
    readWriteFrontendResizes clients paneId = [] := by
  unfold smallestReadWriteFrontendResize
  cases readWriteFrontendResizes clients paneId <;> simp

theorem smallest_eq_some {size : UInt32 × UInt32} :
    smallestReadWriteFrontendResize clients paneId = some size ↔
      SmallestOf (readWriteFrontendResizes clients paneId) size := by
  unfold smallestReadWriteFrontendResize
  cases hsizes : readWriteFrontendResizes clients paneId with
  | nil => exact ⟨nofun, fun h => absurd h.cols_mem List.not_mem_nil⟩
  | cons first rest =>
    have hfold := SmallestOf.fold first rest
    exact ⟨fun h => Option.some.inj h ▸ hfold, fun h => congrArg some (hfold.unique h)⟩

theorem mem_readWriteFrontendResizes {size : UInt32 × UInt32} :
    size ∈ readWriteFrontendResizes clients paneId ↔ ∃ client ∈ clients,
      Session.inputAllowed client.actor = true ∧
        client.frontendResizeConstraints.get? paneId = some size := by
  simp only [readWriteFrontendResizes, List.mem_filterMap, List.mem_filter, and_assoc]

end

/-! ### Applying viewports -/

section
variable {σ η : Type} {engine : TerminalEngine σ} {host : ProcessHost η} {fits : UInt32 → Prop}

/-- The engine answers every resize from a pane of sizes that fit to one of sizes that fit. -/
def AnswersWithin (engine : TerminalEngine σ) (fits : UInt32 → Prop) : Prop :=
  ∀ (state : σ) (input : TerminalInput) (cols rows : UInt32), fits input.cols → fits input.rows →
    fits cols → fits rows → (engine.resize state input cols rows).2.isSome = true

/-- Both ways fit. -/
def Fits (fits : UInt32 → Prop) (size : UInt32 × UInt32) : Prop := fits size.1 ∧ fits size.2

/-- The panes have sizes that fit. -/
def SizesFit (fits : UInt32 → Prop) (session : Session) : Prop :=
  ∀ paneId size, session.paneSize paneId = some size → Fits fits size

/-- The viewports of the client fit. -/
def ViewportsFit (fits : UInt32 → Prop) (client : LiveAttachedClient) : Prop :=
  ∀ paneId size, client.frontendResizeConstraints.get? paneId = some size → Fits fits size

theorem smallest_fits {clients : List LiveAttachedClient} {paneId : String} {size : UInt32 × UInt32}
    (hclients : ∀ client ∈ clients, ViewportsFit fits client)
    (h : smallestReadWriteFrontendResize clients paneId = some size) : Fits fits size := by
  obtain ⟨hcols, hrows, -, -⟩ := smallest_eq_some.mp h
  obtain ⟨widest, hwidest, hcols⟩ := List.mem_map.mp hcols
  obtain ⟨highest, hhighest, hrows⟩ := List.mem_map.mp hrows
  obtain ⟨client, hclient, -, hget⟩ := mem_readWriteFrontendResizes.mp hwidest
  obtain ⟨other, hother, -, hget'⟩ := mem_readWriteFrontendResizes.mp hhighest
  exact ⟨hcols ▸ (hclients client hclient _ _ hget).1, hrows ▸ (hclients other hother _ _ hget').2⟩

/-- What applying viewports does to the sizes: the panes named get what the clients agree on, and a pane
that is not named or not agreed on keeps its size. -/
structure Arbitrated (clients : List LiveAttachedClient) (paneIds : List String)
    (before after : Session) : Prop where
  placed : ∀ paneId ∈ paneIds, (before.paneSize paneId).isSome = true →
    ∀ size, smallestReadWriteFrontendResize clients paneId = some size →
      after.paneSize paneId = some size
  kept : ∀ paneId, paneId ∉ paneIds ∨ smallestReadWriteFrontendResize clients paneId = none →
    after.paneSize paneId = before.paneSize paneId
  exists_iff : ∀ paneId, (after.paneSize paneId).isSome = (before.paneSize paneId).isSome

namespace Arbitrated

variable {clients : List LiveAttachedClient} {paneIds : List String} {before after : Session}

theorem refl (clients : List LiveAttachedClient) (session : Session) :
    Arbitrated clients [] session session :=
  ⟨nofun, fun _ _ => rfl, fun _ => rfl⟩

/-- A pane keeps its size, or gets the one agreed on. -/
theorem cases (h : Arbitrated clients paneIds before after) (paneId : String) :
    after.paneSize paneId = before.paneSize paneId ∨
      ∃ size, smallestReadWriteFrontendResize clients paneId = some size ∧
        after.paneSize paneId = some size := by
  by_cases hmem : paneId ∈ paneIds
  case neg => exact .inl (h.kept paneId (.inl hmem))
  cases hsmallest : smallestReadWriteFrontendResize clients paneId with
  | none => exact .inl (h.kept paneId (.inr hsmallest))
  | some size =>
    cases hexists : before.paneSize paneId with
    | none =>
      have hnone := h.exists_iff paneId
      rw [hexists] at hnone
      exact .inl (Option.not_isSome_iff_eq_none.mp (by simp [hnone]))
    | some _ => exact .inr ⟨size, rfl, h.placed paneId hmem (by simp [hexists]) size hsmallest⟩

theorem sizesFit (h : Arbitrated clients paneIds before after)
    (hclients : ∀ client ∈ clients, ViewportsFit fits client) (hbefore : SizesFit fits before) :
    SizesFit fits after := by
  intro paneId size hsize
  rcases h.cases paneId with hsame | ⟨agreed, hagreed, hplaced⟩
  · exact hbefore paneId size (hsame ▸ hsize)
  · rw [hplaced] at hsize
    exact Option.some.inj hsize ▸ smallest_fits hclients hagreed

theorem cons {paneId : String} {middle : Session} (first : Arbitrated clients [paneId] before middle)
    (rest : Arbitrated clients paneIds middle after) :
    Arbitrated clients (paneId :: paneIds) before after := by
  refine ⟨fun other hmem hexists size hsmallest => ?_, fun other hother => ?_, fun other => ?_⟩
  · by_cases hrest : other ∈ paneIds
    · exact rest.placed other hrest (first.exists_iff other ▸ hexists) size hsmallest
    · rw [rest.kept other (.inl hrest)]
      have hfirst := (List.mem_cons.mp hmem).resolve_right hrest
      exact first.placed other (List.mem_singleton.mpr hfirst) hexists size hsmallest
  · have hfirst : other ∉ [paneId] ∨ smallestReadWriteFrontendResize clients other = none :=
      hother.imp_left fun h hmem => h (List.mem_cons.mpr (.inl (List.mem_singleton.mp hmem)))
    have hrest : other ∉ paneIds ∨ smallestReadWriteFrontendResize clients other = none :=
      hother.imp_left fun h hmem => h (List.mem_cons_of_mem _ hmem)
    exact (rest.kept other hrest).trans (first.kept other hfirst)
  · exact (rest.exists_iff other).trans (first.exists_iff other)

end Arbitrated

variable {daemon reached : Daemon σ η} {clients : List LiveAttachedClient}

theorem paneSize_isSome (session : Session) (paneId : String) :
    (session.paneSize paneId).isSome = (session.pane paneId).isSome := by
  rw [Session.paneSize, Option.isSome_map]

/-- A committed resize that fits sizes the pane, if there is one, and no other. -/
theorem commitPaneResize_sizes {session : Session} {paneId : String} {size : UInt32 × UInt32}
    (hengine : AnswersWithin engine fits) (hsizes : SizesFit fits session) (hfits : Fits fits size)
    (state : σ) :
    ((session.paneSize paneId).isSome = true →
      (session.commitPaneResizeWithEngine engine paneId size.1 size.2 state).1.paneSize paneId =
        some size) ∧
    (∀ other, other ≠ paneId →
      (session.commitPaneResizeWithEngine engine paneId size.1 size.2 state).1.paneSize other =
        session.paneSize other) ∧
    ∀ other, ((session.commitPaneResizeWithEngine engine paneId size.1 size.2 state).1.paneSize
      other).isSome = (session.paneSize other).isSome := by
  refine ⟨fun hexists => ?_, fun other hne => ?_, fun other => ?_⟩
  · rw [paneSize_isSome] at hexists
    obtain ⟨pane, hpane⟩ := Option.isSome_iff_exists.mp hexists
    have hpaneSize : session.paneSize paneId = some (pane.state.cols, pane.state.rows) := by
      rw [Session.paneSize, hpane]
      rfl
    obtain ⟨hcols, hrows⟩ := hsizes paneId _ hpaneSize
    exact Session.commitPaneResize_size engine state hpane
      (hengine state pane.state.terminalInput _ _ hcols hrows hfits.1 hfits.2)
  · exact Session.commitPaneResize_size_other engine state hne _ _
  · rw [paneSize_isSome, paneSize_isSome, Session.pane_isSome_shape, Session.pane_isSome_shape,
      Session.commitPaneResize_shape]

/-- A viewport that is applied without an error gives its pane what the clients agree on. -/
theorem applyConcurrentFrontendResize_arbitrated {paneId : String} {sessionMonoMs : UInt64} {changed : Bool}
    (hengine : AnswersWithin engine fits) (hidle : daemon.actor.Idle)
    (hsizes : SizesFit fits daemon.session) (hclients : ∀ client ∈ clients, ViewportsFit fits client)
    (h : applyConcurrentFrontendResize engine host clients daemon paneId sessionMonoMs =
      (.ok changed, reached)) :
    reached.actor.Idle ∧ Arbitrated clients [paneId] daemon.session reached.session := by
  unfold applyConcurrentFrontendResize at h
  split at h
  case h_1 hnone =>
    cases h
    refine ⟨hidle, fun other hmem _ size hsmallest => ?_, fun _ _ => rfl, fun _ => rfl⟩
    rw [List.mem_singleton.mp hmem, hnone] at hsmallest
    cases hsmallest
  case h_2 cols rows hagreed =>
    split at h
    case isTrue hsame =>
      cases h
      refine ⟨hidle, fun other hmem _ size hsmallest => ?_, fun _ _ => rfl, fun _ => rfl⟩
      rw [List.mem_singleton.mp hmem] at hsmallest ⊢
      rw [hsame, ← hagreed, hsmallest]
    case isFalse =>
      split at h
      · cases h
      case h_2 resized hresize =>
        have hresized : resized = (daemon.resizePane host paneId cols rows).2 :=
          (congrArg Prod.snd hresize).symm
        have hidle' : resized.actor.Idle := hresized ▸ hidle
        have hsession : resized.session = daemon.session := hresized ▸ rfl
        have hcommit : Daemon.Serves engine (fun _ _ => True) (fun _ => True) resized
            (resized.commitPaneResize engine host (paneId ++ ":frontend-resize") paneId cols rows
              sessionMonoMs).2 :=
          Daemon.commitPaneResize_serves hidle' trivial fun _ _ => trivial
        have hreached : (resized.commitPaneResize engine host (paneId ++ ":frontend-resize") paneId cols rows
            sessionMonoMs).2.session = _ :=
          Daemon.commitPaneResize_session hidle' (paneId ++ ":frontend-resize") cols rows
        rw [h] at hcommit hreached
        rw [hsession] at hreached
        obtain ⟨hplaced, hothers, hexists⟩ := commitPaneResize_sizes hengine hsizes
          (smallest_fits hclients hagreed) (resized.actor.core.terminalEngines paneId)
        refine ⟨hcommit.idle hidle', fun other hmem hother size hsmallest => ?_, fun other hother => ?_, ?_⟩
        · obtain rfl := List.mem_singleton.mp hmem
          rw [hreached, hplaced hother, ← hagreed, hsmallest]
        · have hne : other ≠ paneId := by
            rintro rfl
            rcases hother with hother | hother
            · exact hother (List.mem_singleton.mpr rfl)
            · rw [hagreed] at hother
              cases hother
          rw [hreached, hothers other hne]
        · rw [hreached]
          exact hexists

/-- **Applied viewports are arbitrated.** What is applied without an error gives every pane named what the
clients agree on for it. -/
theorem applyFrontendResizes_arbitrated {sessionMonoMs : UInt64} {changed : Bool} {paneIds : List String}
    (hengine : AnswersWithin engine fits) (hidle : daemon.actor.Idle)
    (hsizes : SizesFit fits daemon.session) (hclients : ∀ client ∈ clients, ViewportsFit fits client)
    (h : applyFrontendResizes engine host clients sessionMonoMs daemon paneIds = (.ok changed, reached)) :
    reached.actor.Idle ∧ Arbitrated clients paneIds daemon.session reached.session := by
  induction paneIds generalizing daemon changed with
  | nil =>
    cases h
    exact ⟨hidle, .refl clients _⟩
  | cons paneId rest ih =>
    unfold applyFrontendResizes at h
    split at h
    · cases h
    case h_2 first middle hfirst =>
      obtain ⟨hmiddle, harbitrated⟩ :=
        applyConcurrentFrontendResize_arbitrated hengine hidle hsizes hclients hfirst
      split at h
      · cases h
      case h_2 more last hrest =>
        cases h
        obtain ⟨hlast, hmore⟩ := ih hmiddle (harbitrated.sizesFit hclients hsizes) hrest
        exact ⟨hlast, harbitrated.cons hmore⟩

end

/-! ### Drains -/

/-- A resize intent is a viewport of a size that fits. -/
def LiveClientFrame.ViewportWithin (fits : UInt32 → Prop) : LiveClientFrame → Prop
  | .resize intent => intent.reason = .frontendViewport ∧ Fits fits (intent.cols, intent.rows)
  | _ => True

/-- The client is who it was, and has the viewports it had but for some panes; no viewport is lost. -/
structure ViewportsKept (paneIds : List String) (client after : LiveAttachedClient) : Prop where
  actor : after.actor = client.actor
  others : ∀ paneId, paneId ∉ paneIds →
    after.frontendResizeConstraints.get? paneId = client.frontendResizeConstraints.get? paneId
  grows : ∀ paneId, (client.frontendResizeConstraints.get? paneId).isSome = true →
    (after.frontendResizeConstraints.get? paneId).isSome = true

namespace ViewportsKept

variable {paneIds more : List String} {client middle after : LiveAttachedClient}

theorem of_eq (hactor : after.actor = client.actor)
    (hviewports : after.frontendResizeConstraints = client.frontendResizeConstraints) :
    ViewportsKept [] client after :=
  ⟨hactor, fun _ _ => hviewports ▸ rfl, fun _ h => hviewports ▸ h⟩

theorem mono (h : ViewportsKept paneIds client after) (hsubset : paneIds ⊆ more) :
    ViewportsKept more client after :=
  ⟨h.actor, fun paneId hmem => h.others paneId fun hpane => hmem (hsubset hpane), h.grows⟩

theorem trans (first : ViewportsKept paneIds client middle) (second : ViewportsKept paneIds middle after) :
    ViewportsKept paneIds client after where
  actor := second.actor.trans first.actor
  others paneId hmem := (second.others paneId hmem).trans (first.others paneId hmem)
  grows paneId h := second.grows paneId (first.grows paneId h)

end ViewportsKept

theorem Unmoved.viewportsKept {client after : LiveAttachedClient} (h : Unmoved client after) :
    ViewportsKept [] client after := .of_eq h.actor h.frontendResizeConstraints

section
variable {σ η : Type} {engine : TerminalEngine σ} {host : ProcessHost η} {fits : UInt32 → Prop}
  {client after : LiveAttachedClient} {daemon reached : Daemon σ η} {drain : ClientDrain}

/-- The frame was answered at most, and no viewport was seen. -/
def NoViewport (client : LiveAttachedClient) (drain : ClientDrain) (result : FrameResult)
    (after : LiveAttachedClient) : Prop :=
  after.actor = client.actor ∧
    after.frontendResizeConstraints = client.frontendResizeConstraints ∧
    ∀ next, result = .next next → next.frontendResizePaneIds = drain.frontendResizePaneIds

theorem answered_noViewport {sent : LiveAttachedClient} {result : FrameResult}
    (hactor : sent.actor = client.actor)
    (hviewports : sent.frontendResizeConstraints = client.frontendResizeConstraints)
    (hresult : ∀ next, result = .next next → next.frontendResizePaneIds = drain.frontendResizePaneIds)
    {frame : ServerFrame} (hframe : Client.inventoryFrame? frame = none) :
    NoViewport client drain (answered result (sent.queueReliableFrame frame) daemon).1
      (answered result (sent.queueReliableFrame frame) daemon).2.1 := by
  have hsent := sent.queueReliableFrame_only hframe
  unfold answered
  split
  case h_1 heq =>
    rw [heq] at hsent
    exact ⟨hsent.actor.trans hactor, hsent.frontendResizeConstraints.trans hviewports, hresult⟩
  case h_2 heq =>
    rw [heq] at hsent
    exact ⟨hsent.actor.trans hactor, hsent.frontendResizeConstraints.trans hviewports, nofun⟩

theorem drainInput_noViewport (input : InputSummary) (nowMonoMs : UInt64) :
    NoViewport client drain (drainInput engine host client daemon drain input nowMonoMs).1
      (drainInput engine host client daemon drain input nowMonoMs).2.1 := by
  unfold drainInput
  dsimp only
  split
  · refine answered_noViewport rfl rfl ?_ rfl
    intro next hnext
    cases hnext
  · have hsent : SentOnly { client with lastSeenMonoMs := nowMonoMs, lastInputMonoMs := some nowMonoMs }
        (forwardLiveInput engine host { client with
          lastSeenMonoMs := nowMonoMs, lastInputMonoMs := some nowMonoMs } daemon input nowMonoMs).2.1 :=
      forwardLiveInput_only _ daemon input nowMonoMs
    split
    case h_1 heq =>
      rw [heq] at hsent
      exact ⟨hsent.actor, hsent.frontendResizeConstraints, nofun⟩
    case h_2 heq =>
      rw [heq] at hsent
      exact ⟨hsent.actor, hsent.frontendResizeConstraints, fun next hnext => FrameResult.next.inj hnext ▸ rfl⟩

/-- A frame changes no viewport, or records one that fits. -/
theorem drainFrame_viewports (engine : TerminalEngine σ) (host : ProcessHost η)
    (client : LiveAttachedClient) (daemon : Daemon σ η) (drain : ClientDrain) (nowMonoMs : UInt64)
    {frame : LiveClientFrame} (hframe : frame.ViewportWithin fits) :
    NoViewport client drain (drainFrame engine host client daemon drain nowMonoMs frame).1
        (drainFrame engine host client daemon drain nowMonoMs frame).2.1 ∨
      ∃ paneId size next after, Fits fits size ∧ after.actor = client.actor ∧
        after.frontendResizeConstraints = client.frontendResizeConstraints.insert paneId size ∧
        next.frontendResizePaneIds = drain.frontendResizePaneIds ++ [paneId] ∧
        drainFrame engine host client daemon drain nowMonoMs frame = (.next next, after, daemon) := by
  cases frame with
  | resize resize =>
    rw [drainFrame, drainResize]
    dsimp only
    split
    · refine .inl (answered_noViewport rfl rfl ?_ rfl)
      intro next hnext
      cases hnext
    split
    · refine .inl (answered_noViewport rfl rfl ?_ rfl)
      intro next hnext
      cases hnext
    split
    · exact .inl ⟨rfl, rfl, fun next hnext => FrameResult.next.inj hnext ▸ rfl⟩
    · rw [if_pos hframe.1]
      refine .inr ⟨resize.paneId, (resize.cols, resize.rows), _, _, hframe.2, ?_, ?_, ?_, rfl⟩
      all_goals rfl
  | scrollback fetch =>
    rw [drainFrame, drainScrollback]
    split
    · exact .inl (answered_noViewport rfl rfl (fun next hnext => FrameResult.next.inj hnext ▸ rfl) rfl)
    split
    · refine .inl (answered_noViewport rfl rfl ?_ rfl)
      intro next hnext
      cases hnext
    · exact .inl (answered_noViewport rfl rfl (fun next hnext => FrameResult.next.inj hnext ▸ rfl) rfl)
  | input input => exact .inl (drainInput_noViewport input nowMonoMs)
  | ping ping =>
    exact .inl (answered_noViewport rfl rfl (fun next hnext => FrameResult.next.inj hnext ▸ rfl) rfl)

/-- A frame that resizes nothing at once leaves the session. -/
theorem drainFrame_session (hidle : daemon.actor.Idle) (nowMonoMs : UInt64) {frame : LiveClientFrame}
    (hframe : frame.ViewportWithin fits) :
    (drainFrame engine host client daemon drain nowMonoMs frame).2.2.session = daemon.session ∧
      (drainFrame engine host client daemon drain nowMonoMs frame).2.2.actor.Idle := by
  cases frame with
  | resize resize =>
    rcases drainResize_daemon client daemon drain resize nowMonoMs with hsame | ⟨-, -, -, hreason, -⟩
    · rw [drainFrame, hsame]
      exact ⟨rfl, hidle⟩
    · exact absurd hframe.1 hreason
  | scrollback fetch =>
    rw [drainFrame, drainScrollback_daemon]
    exact ⟨rfl, hidle⟩
  | input input =>
    have hserves : ServesPanes engine (fun _ => True) daemon
        (drainInput engine host client daemon drain input nowMonoMs).2.2 :=
      drainInput_servesPanes hidle client drain nowMonoMs fun _ _ _ _ _ => trivial
    refine ⟨?_, hserves.idle hidle⟩
    rw [drainFrame, drainInput]
    dsimp only
    split
    · rw [answered_daemon]
    · have hsession : (forwardLiveInput engine host { client with
          lastSeenMonoMs := nowMonoMs, lastInputMonoMs := some nowMonoMs } daemon input
            nowMonoMs).2.2.session = daemon.session := forwardLiveInput_session hidle _ input nowMonoMs
      split
      case h_1 heq => rwa [heq] at hsession
      case h_2 heq => rwa [heq] at hsession
  | ping ping =>
    rw [drainFrame, answered_daemon]
    exact ⟨rfl, hidle⟩

theorem ViewportsFit.insert {paneId : String} {size : UInt32 × UInt32} (h : ViewportsFit fits client)
    (hfits : Fits fits size)
    (hviewports : after.frontendResizeConstraints = client.frontendResizeConstraints.insert paneId size) :
    ViewportsFit fits after := by
  intro other found hfound
  rw [hviewports, Lib.OrderedMap.get?_insert] at hfound
  split at hfound
  · exact Option.some.inj hfound ▸ hfits
  · exact h other found hfound

theorem ViewportsKept.insert {paneId : String} {size : UInt32 × UInt32}
    (hactor : after.actor = client.actor)
    (hviewports : after.frontendResizeConstraints = client.frontendResizeConstraints.insert paneId size) :
    ViewportsKept [paneId] client after where
  actor := hactor
  others other hmem := by
    rw [hviewports, Lib.OrderedMap.get?_insert_of_ne fun hsame => hmem (List.mem_singleton.mpr hsame)]
  grows other h := by
    rw [hviewports, Lib.OrderedMap.get?_insert]
    split
    · rfl
    · exact h

/-- A drain leaves the session, keeps viewports that fit, and names every pane whose viewport it
changes, if it is not cut short. -/
theorem drainLiveClientFrames_viewports {nowMonoMs : UInt64}
    {reads : List (Except ServeError LiveClientRead)} (hidle : daemon.actor.Idle)
    (hreads : ∀ frame, .ok (.frame frame) ∈ reads → frame.ViewportWithin fits)
    (hfits : ViewportsFit fits client) {status : Except ServeError ClientDrainStatus}
    (h : drainLiveClientFrames engine host nowMonoMs client daemon drain reads = (status, after, reached)) :
    reached.session = daemon.session ∧ reached.actor.Idle ∧ ViewportsFit fits after ∧
      ∃ seen, ViewportsKept seen client after ∧ ∀ drained close, status = .ok (.open drained close) →
        drain.frontendResizePaneIds ++ seen ⊆ drained.frontendResizePaneIds := by
  have hnothing : ViewportsKept [] client client := .of_eq rfl rfl
  induction reads generalizing client daemon drain with
  | nil =>
    cases h
    refine ⟨rfl, hidle, hfits, [], hnothing, fun drained close hopen => ?_⟩
    cases hopen
    rw [List.append_nil]
    exact List.Subset.refl _
  | cons read rest ih =>
    match read with
    | .error error =>
      cases h
      exact ⟨rfl, hidle, hfits, [], hnothing, nofun⟩
    | .ok .closed =>
      cases h
      refine ⟨rfl, hidle, hfits, [], hnothing, fun drained close hopen => ?_⟩
      cases hopen
      rw [List.append_nil]
      exact List.Subset.refl _
    | .ok (.frame frame) =>
      have hframe := hreads frame List.mem_cons_self
      have hrest : ∀ frame, .ok (.frame frame) ∈ rest → frame.ViewportWithin fits :=
        fun frame hmem => hreads frame (List.mem_cons_of_mem _ hmem)
      have hsession : (drainFrame engine host client daemon drain nowMonoMs frame).2.2.session =
          daemon.session ∧ (drainFrame engine host client daemon drain nowMonoMs frame).2.2.actor.Idle :=
        drainFrame_session hidle nowMonoMs hframe
      have hviewports := drainFrame_viewports engine host client daemon drain nowMonoMs hframe
      unfold drainLiveClientFrames at h
      rcases hviewports with ⟨hactor, hsame, hnext⟩ | ⟨paneId, size, next, sent, hsize, hactor, hinsert, hids, heq⟩
      · have hkept : ViewportsKept [] client
            (drainFrame engine host client daemon drain nowMonoMs frame).2.1 := .of_eq hactor hsame
        have hfits' : ViewportsFit fits (drainFrame engine host client daemon drain nowMonoMs frame).2.1 :=
          fun paneId size hfound => hfits paneId size (hsame ▸ hfound)
        split at h
        case h_1 heq =>
          cases h
          rw [heq] at hkept hfits' hsession
          exact ⟨hsession.1, hsession.2, hfits', [], hkept, nofun⟩
        case h_2 heq =>
          cases h
          rw [heq] at hkept hfits' hsession
          exact ⟨hsession.1, hsession.2, hfits', [], hkept, nofun⟩
        case h_3 next sent middle heq =>
          rw [heq] at hkept hfits' hsession hnext
          obtain ⟨hmore, hidle', hfits'', seen, hseen, hnames⟩ :=
            ih hsession.2 hrest hfits' h (.of_eq rfl rfl)
          refine ⟨hmore.trans hsession.1, hidle', hfits'', seen,
            (hkept.mono (List.nil_subset _)).trans hseen, fun drained close hopen => ?_⟩
          rw [← hnext next rfl]
          exact hnames drained close hopen
      · rw [heq] at h
        obtain ⟨hmore, hidle', hfits', seen, hseen, hnames⟩ :=
          ih hidle hrest (hfits.insert hsize hinsert) h (.of_eq rfl rfl)
        refine ⟨hmore, hidle', hfits', paneId :: seen, ?_, fun drained close hopen => ?_⟩
        · exact ((ViewportsKept.insert hactor hinsert).mono (by simp)).trans (hseen.mono (by simp))
        · have hsubset := hnames drained close hopen
          rw [hids, List.append_assoc] at hsubset
          exact hsubset

/-- A client that leaves with a drain cut short has every pane of it named. -/
theorem ViewportsKept.cut {seen : List String} (h : ViewportsKept seen client after) :
    ViewportsKept (frontendResizeKeys [after]) client after where
  actor := h.actor
  others paneId hmem := by
    have hnone : after.frontendResizeConstraints.get? paneId = none := by
      rw [← Option.not_isSome_iff_eq_none, ← Lib.OrderedMap.mem_keys]
      simpa [frontendResizeKeys, Lib.OrderedMap.keys] using hmem
    cases hbefore : client.frontendResizeConstraints.get? paneId with
    | none => exact hnone
    | some size =>
      have hgrown := h.grows paneId (by rw [hbefore]; rfl)
      rw [hnone] at hgrown
      cases hgrown
  grows := h.grows

/-- **Drains name what they change.** After the drains of a round every client is who it was, and a pane
that the round does not name has the viewports it had. -/
theorem drainReadableClients_viewports {reads : Nat → Option ClientReads} {index : Nat}
    {clients : List LiveAttachedClient} {round drained : LiveRound} {marked : MarkedClients}
    (hidle : daemon.actor.Idle)
    (hreads : ∀ index clientReads, reads index = some clientReads →
      ∀ frame, .ok (.frame frame) ∈ clientReads.frames → frame.ViewportWithin fits)
    (hfits : ∀ client ∈ clients, ViewportsFit fits client)
    (h : drainReadableClients engine host reads index clients daemon round =
      (.ok drained, marked, reached)) :
    reached.session = daemon.session ∧ reached.actor.Idle ∧
      round.frontendResizePaneIds ⊆ drained.frontendResizePaneIds ∧
      (∀ client ∈ marked.all, ViewportsFit fits client) ∧
      List.Forall₂ (ViewportsKept drained.frontendResizePaneIds) clients marked.all := by
  induction clients generalizing index daemon round marked with
  | nil =>
    cases h
    exact ⟨rfl, hidle, List.Subset.refl _, nofun, .nil⟩
  | cons client rest ih =>
    obtain ⟨hclient, hrest⟩ := List.forall_mem_cons.mp hfits
    unfold drainReadableClients at h
    split at h
    · rcases hothers : drainReadableClients engine host reads (index + 1) rest daemon round with
        ⟨result, others, last⟩
      rw [hothers] at h
      cases h
      obtain ⟨hsession, hidle', hsubset, hfits', hkept⟩ := ih hidle hrest hothers
      exact ⟨hsession, hidle', hsubset, List.forall_mem_cons.mpr ⟨hclient, hfits'⟩,
        .cons ((ViewportsKept.of_eq rfl rfl).mono (List.nil_subset _)) hkept⟩
    case h_2 clientReads hsome =>
      rcases hdrain : drainLiveClientFrames engine host clientReads.nowMonoMs client daemon .none
        clientReads.frames with ⟨status, sent, middle⟩
      obtain ⟨hsession, hidle', hsent, seen, hseen, hnames⟩ :=
        drainLiveClientFrames_viewports hidle (hreads index clientReads hsome) hclient hdrain
      rw [hdrain] at h
      dsimp only at h
      split at h
      · cases h
      case h_2 next leaves hstatus =>
        have hnext : round.frontendResizePaneIds ⊆ next.frontendResizePaneIds ∧
            ViewportsKept next.frontendResizePaneIds client sent := by
          unfold LiveRound.drained at hstatus
          split at hstatus
          · cases hstatus
            exact ⟨List.subset_append_left _ _, hseen.mono
              (List.Subset.trans (List.Subset.trans (List.subset_append_right _ _) (hnames _ _ rfl))
                (List.subset_append_right _ _))⟩
          · cases hstatus
            exact ⟨List.subset_append_left _ _, hseen.cut.mono (List.subset_append_right _ _)⟩
          · split at hstatus
            · cases hstatus
              exact ⟨List.subset_append_left _ _, hseen.cut.mono (List.subset_append_right _ _)⟩
            · cases hstatus
        rcases hothers : drainReadableClients engine host reads (index + 1) rest middle next with
          ⟨result, others, last⟩
        rw [hothers] at h
        cases h
        obtain ⟨hmore, hlast, hsubset, hfits', hkept⟩ := ih hidle' hrest hothers
        exact ⟨hmore.trans hsession, hlast, List.Subset.trans hnext.1 hsubset,
          List.forall_mem_cons.mpr ⟨hsent, hfits'⟩, .cons (hnext.2.mono hsubset) hkept⟩

/-- A pane that is not named has the viewports it had. -/
theorem readWriteFrontendResizes_kept {paneIds : List String} {clients after : List LiveAttachedClient}
    (h : List.Forall₂ (ViewportsKept paneIds) clients after) {paneId : String} (hmem : paneId ∉ paneIds) :
    readWriteFrontendResizes after paneId = readWriteFrontendResizes clients paneId := by
  induction h with
  | nil => rfl
  | cons head _ ih =>
    unfold readWriteFrontendResizes at ih ⊢
    rw [List.filter_cons, List.filter_cons, head.actor]
    split
    · rw [List.filterMap_cons, List.filterMap_cons, head.others paneId hmem, ih]
    · exact ih

end

end Live

end Nmux
