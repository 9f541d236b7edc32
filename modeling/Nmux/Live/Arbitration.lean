import Nmux.Live.Viewports
import Nmux.Live.Inventory

/-! Viewport arbitration over the rounds of the loop. After a round a pane has the smallest size that the
clients there are have asked for; one that nobody asked for keeps its size, unless clients that left in
the round had. -/
namespace Nmux

namespace Daemon

variable {σ η : Type} {engine : TerminalEngine σ} {host : ProcessHost η} {daemon reached : Daemon σ η}

/-- The server gets from one daemon to the other by text. -/
abbrev ServesText (engine : TerminalEngine σ) : Daemon σ η → Daemon σ η → Prop :=
  Serves engine (fun _ event => event.OfText) fun _ => True

theorem ServesText.paneSize (h : ServesText engine daemon reached) :
    reached.session.paneSize = daemon.session.paneSize :=
  h.invariant (I := fun session => session.paneSize = daemon.session.paneSize)
    (fun core _ hsize hevent => (core.acceptPending_paneSize engine hevent).trans hsize) rfl

theorem pollPanesOnce_servesText (hidle : daemon.actor.Idle) (paneIds priorityPaneIds : List String)
    (sessionMonoMs : UInt64) (reads : Nat) : ServesText engine daemon
      (daemon.pollPanesOnce engine host paneIds priorityPaneIds sessionMonoMs reads).2 :=
  (pollPanes_serves hidle reads _ (fun _ _ _ _ => trivial) (fun _ _ _ => trivial)
    fun _ _ _ _ => trivial).1

theorem pollPanesUntilQuiet_servesText (hidle : daemon.actor.Idle) (paneIds : List String)
    (sessionMonoMs : UInt64) (reads rounds : Nat) : ServesText engine daemon
      (daemon.pollPanesUntilQuiet engine host paneIds sessionMonoMs reads rounds).2 :=
  (pollPanesUntilQuiet_serves hidle reads rounds paneIds (fun _ _ _ _ => trivial)
    (fun _ _ _ => trivial) fun _ _ _ _ => trivial).1

end Daemon

namespace Live

open Daemon (ServesText)

/-! ### Clients -/

section
variable {clients after : List LiveAttachedClient} {paneId : String}

theorem readWriteFrontendResizes_unmoved (h : List.Forall₂ (ViewportsKept []) clients after) :
    readWriteFrontendResizes after paneId = readWriteFrontendResizes clients paneId :=
  readWriteFrontendResizes_kept h List.not_mem_nil

theorem readWriteFrontendResizes_append (first second : List LiveAttachedClient) (paneId : String) :
    readWriteFrontendResizes (first ++ second) paneId =
      readWriteFrontendResizes first paneId ++ readWriteFrontendResizes second paneId := by
  unfold readWriteFrontendResizes
  rw [List.filter_append, List.filterMap_append]

/-- The viewports of all are those of who stays and of who leaves. -/
theorem readWriteFrontendResizes_marked (marked : MarkedClients) (paneId : String) :
    (readWriteFrontendResizes marked.all paneId).Perm
      (readWriteFrontendResizes marked.leaving paneId ++ readWriteFrontendResizes marked.staying paneId) := by
  rw [← readWriteFrontendResizes_append]
  refine List.Perm.filterMap _ (List.Perm.filter _ ?_)
  unfold MarkedClients.all MarkedClients.leaving MarkedClients.staying
  rw [← List.map_append]
  exact (List.filter_append_perm _ marked).symm.map _

/-- Who leaves has no viewport for a pane that is not among theirs. -/
theorem readWriteFrontendResizes_keys (h : paneId ∉ frontendResizeKeys clients) :
    readWriteFrontendResizes clients paneId = [] := by
  refine List.eq_nil_iff_forall_not_mem.mpr fun size hmem => h ?_
  obtain ⟨client, hclient, -, hget⟩ := mem_readWriteFrontendResizes.mp hmem
  refine List.mem_flatMap.mpr ⟨client, hclient, ?_⟩
  show paneId ∈ client.frontendResizeConstraints.keys
  rw [Lib.OrderedMap.mem_keys, hget]
  rfl

theorem smallest_congr {others : List LiveAttachedClient}
    (h : (readWriteFrontendResizes others paneId).Perm (readWriteFrontendResizes clients paneId)) :
    smallestReadWriteFrontendResize others paneId = smallestReadWriteFrontendResize clients paneId := by
  cases hsmallest : smallestReadWriteFrontendResize clients paneId with
  | none =>
    rw [smallest_eq_none] at hsmallest ⊢
    exact List.perm_nil.mp (hsmallest ▸ h)
  | some size =>
    rw [smallest_eq_some] at hsmallest ⊢
    exact hsmallest.perm h.symm

theorem viewportsFit_unmoved {fits : UInt32 → Prop} (h : List.Forall₂ (ViewportsKept []) clients after)
    (hfits : ∀ client ∈ clients, ViewportsFit fits client) : ∀ client ∈ after, ViewportsFit fits client := by
  induction h with
  | nil => nofun
  | cons head _ ih =>
    obtain ⟨hclient, hrest⟩ := List.forall_mem_cons.mp hfits
    refine List.forall_mem_cons.mpr ⟨fun paneId size hfound => ?_, ih hrest⟩
    exact hclient paneId size (head.others paneId List.not_mem_nil ▸ hfound)

theorem queueReliableFrame_viewportsKept (client : LiveAttachedClient) (frame : ServerFrame) :
    ViewportsKept [] client (client.queueReliableFrame frame).2 := by
  unfold LiveAttachedClient.queueReliableFrame
  split <;> exact .of_eq rfl rfl

theorem writeClientInventorySnapshot_viewports (client : LiveAttachedClient) (version : Nat)
    (clients : List ClientConnectionSummary) :
    (client.writeClientInventorySnapshot version clients).2.frontendResizeConstraints =
      client.frontendResizeConstraints := by
  unfold LiveAttachedClient.writeClientInventorySnapshot LiveAttachedClient.queueReliableFrame
  repeat' split
  all_goals rfl

theorem forall₂_viewportsKept_refl (clients : List LiveAttachedClient) :
    List.Forall₂ (ViewportsKept []) clients clients :=
  List.forall₂_same.mpr fun _ _ => .of_eq rfl rfl

theorem forall₂_viewportsKept_trans {middle : List LiveAttachedClient}
    (first : List.Forall₂ (ViewportsKept []) clients middle)
    (second : List.Forall₂ (ViewportsKept []) middle after) :
    List.Forall₂ (ViewportsKept []) clients after := by
  induction first generalizing after with
  | nil => exact second
  | cons head _ ih =>
    obtain ⟨last, rest, hhead, hrest, rfl⟩ := List.forall₂_cons_left_iff.mp second
    exact .cons (head.trans hhead) (ih hrest)

theorem writeToSubscribers_viewportsKept (frame : ServerFrame) (clients : List LiveAttachedClient) :
    List.Forall₂ (ViewportsKept []) clients (writeToSubscribers frame clients).2 := by
  induction clients with
  | nil => exact .nil
  | cons client rest ih =>
    have hqueue := queueReliableFrame_viewportsKept client frame
    unfold writeToSubscribers
    split
    · split
      case h_1 heq =>
        rw [heq] at hqueue
        split
        · exact .cons hqueue ih
        · exact .cons hqueue (forall₂_viewportsKept_refl rest)
      case h_2 heq =>
        rw [heq] at hqueue
        exact .cons hqueue ih
    · exact .cons (.of_eq rfl rfl) ih

end

section
variable {σ η : Type} {engine : TerminalEngine σ} {host : ProcessHost η} {fits : UInt32 → Prop}

/-! ### Sizes that are agreed on -/

/-- Every pane has the size the clients agree on for it, if they do. -/
def Agreed (clients : List LiveAttachedClient) (session : Session) : Prop :=
  ∀ paneId size, (session.paneSize paneId).isSome = true →
    smallestReadWriteFrontendResize clients paneId = some size → session.paneSize paneId = some size

/-- The clients agree on what they agreed on, and the panes have the sizes they had. -/
theorem Agreed.congr {clients after : List LiveAttachedClient} {session reached : Session}
    (h : Agreed clients session) (hsizes : reached.paneSize = session.paneSize)
    (hclients : ∀ paneId, readWriteFrontendResizes after paneId = readWriteFrontendResizes clients paneId) :
    Agreed after reached := by
  intro paneId size hexists hsmallest
  rw [hsizes] at hexists ⊢
  rw [smallest_congr (.of_eq (hclients paneId))] at hsmallest
  exact h paneId size hexists hsmallest

/-- Clients with the same viewports arbitrate the same. -/
theorem Arbitrated.congr {clients after : List LiveAttachedClient} {paneIds : List String}
    {session reached : Session} (h : Arbitrated after paneIds session reached)
    (hclients : List.Forall₂ (ViewportsKept []) clients after) :
    Arbitrated clients paneIds session reached := by
  have hsmallest (paneId : String) : smallestReadWriteFrontendResize clients paneId =
      smallestReadWriteFrontendResize after paneId :=
    (smallest_congr (.of_eq (readWriteFrontendResizes_unmoved hclients))).symm
  refine ⟨fun paneId hmem hexists size hagreed => ?_, fun paneId hother => ?_, h.exists_iff⟩
  · exact h.placed paneId hmem hexists size (hsmallest paneId ▸ hagreed)
  · exact h.kept paneId (hother.imp_right fun hnone => hsmallest paneId ▸ hnone)

/-- What is named is placed; a pane that is not named has the viewports and the size it had. -/
theorem Agreed.arbitrated {clients after : List LiveAttachedClient} {paneIds : List String}
    {session reached : Session} (h : Agreed clients session)
    (hviewports : ∀ paneId, paneId ∉ paneIds →
      (readWriteFrontendResizes after paneId).Perm (readWriteFrontendResizes clients paneId))
    (harbitrated : Arbitrated after paneIds session reached) : Agreed after reached := by
  intro paneId size hexists hsmallest
  rw [harbitrated.exists_iff] at hexists
  by_cases hmem : paneId ∈ paneIds
  · exact harbitrated.placed paneId hmem hexists size hsmallest
  · rw [harbitrated.kept paneId (.inl hmem)]
    rw [smallest_congr (hviewports paneId hmem)] at hsmallest
    exact h paneId size hexists hsmallest

/-- No control command comes in, and a resize intent is a viewport of a size that fits. -/
structure RoundInputs.ViewportsOnly (fits : UInt32 → Prop) (inputs : RoundInputs) : Prop where
  commands : ∀ arrival ∈ inputs.arrivals, ∀ command, arrival.initial ≠ .ok (.control command)
  reads : ∀ index clientReads, inputs.reads index = some clientReads →
    ∀ frame, .ok (.frame frame) ∈ clientReads.frames → frame.ViewportWithin fits

/-- The loop between two rounds. -/
structure LiveLoop.Sized (fits : UInt32 → Prop) (loop : LiveLoop σ η) : Prop where
  idle : loop.daemon.actor.Idle
  sizesFit : SizesFit fits loop.daemon.session
  viewportsFit : ∀ client ∈ loop.clients, ViewportsFit fits client
  agreed : Agreed loop.clients loop.daemon.session

namespace LiveLoop

variable {config : LiveConfig} {inputs : RoundInputs} {loop after : LiveLoop σ η}

/-- Nobody's viewport moves, and no pane is sized. -/
theorem Sized.kept (h : loop.Sized fits) (hidle : after.daemon.actor.Idle)
    (hsizes : after.daemon.session.paneSize = loop.daemon.session.paneSize)
    (hclients : List.Forall₂ (ViewportsKept []) loop.clients after.clients) : after.Sized fits where
  idle := hidle
  sizesFit paneId size hsize := h.sizesFit paneId size (hsizes ▸ hsize)
  viewportsFit := viewportsFit_unmoved hclients h.viewportsFit
  agreed := h.agreed.congr hsizes fun _ => readWriteFrontendResizes_unmoved hclients

theorem publishInventory_viewportsKept (loop : LiveLoop σ η)
    (joined updated : List ClientConnectionSummary) (leftConnectionIds : List String) :
    List.Forall₂ (ViewportsKept []) loop.clients
      (loop.publishInventory joined updated leftConnectionIds).2.clients := by
  unfold publishInventory
  split
  · exact forall₂_viewportsKept_refl _
  · show List.Forall₂ (ViewportsKept []) loop.clients (writeClientInventoryPatch _ _ _ _ _ _).2
    unfold writeClientInventoryPatch
    split
    · exact forall₂_viewportsKept_refl _
    · exact writeToSubscribers_viewportsKept _ _

/-! ### Accepting -/

theorem targetPaneId_paneSize (request : AttachRequest) (session : Session) :
    (request.targetPaneId session).1.paneSize = session.paneSize := by
  rcases targetPaneId_session request session with hsame | ⟨tabId, hswitch⟩
  · rw [hsame]
  · funext paneId
    rw [hswitch]
    exact Session.paneSize_of_nodes_eq (Session.switchTab_nodes _ _) paneId

theorem attachLiveClient_sizes {arrival : Arrival} {request : AttachRequest}
    {connectionId paneId : String} {leafPaneIds : List String} {daemon reached : Daemon σ η}
    {accepted : LiveClientAccept} (hidle : daemon.actor.Idle)
    (h : attachLiveClient engine host arrival request connectionId paneId leafPaneIds daemon =
      (.ok accepted, reached)) :
    reached.actor.Idle ∧ reached.session.paneSize = daemon.session.paneSize ∧
      ∀ client, accepted = .attached client → client.frontendResizeConstraints = .empty := by
  have hpoll : ServesText engine daemon (daemon.pollPanesUntilQuiet engine host leafPaneIds
      arrival.nowMonoMs arrival.reads arrival.rounds).2 :=
    Daemon.pollPanesUntilQuiet_servesText hidle _ _ _ _
  unfold attachLiveClient at h
  dsimp only at h
  split at h
  case h_1 heq =>
    rw [heq] at hpoll
    split at h <;> cases h
    refine ⟨hpoll.idle hidle, hpoll.paneSize, fun client hclient => ?_⟩
    cases hclient
    rfl
  case h_2 heq =>
    rw [heq] at hpoll
    split at h <;> cases h
    refine ⟨hpoll.idle hidle, hpoll.paneSize, fun client hclient => ?_⟩
    cases hclient
    rfl

/-- A connection that is no control command sizes no pane, and a client is attached without viewports. -/
theorem acceptLiveClient_sizes {arrival : Arrival} {connectionId : String} {daemon reached : Daemon σ η}
    {accepted : LiveClientAccept} (hidle : daemon.actor.Idle)
    (hcommand : ∀ command, arrival.initial ≠ .ok (.control command))
    (h : acceptLiveClient engine host arrival connectionId daemon = (.ok accepted, reached)) :
    reached.actor.Idle ∧ reached.session.paneSize = daemon.session.paneSize ∧
      ∀ client, accepted = .attached client → client.frontendResizeConstraints = .empty := by
  unfold acceptLiveClient at h
  dsimp only at h
  split at h
  · cases h
  case h_2 hcontrol => exact absurd hcontrol (hcommand _)
  case h_3 probe _ =>
    have hprobe : ServesText engine daemon (serveHealthProbe engine host (.fresh arrival.writes) probe
        daemon arrival.reads arrival.rounds).2.2 :=
      serveHealthProbe_serves hidle probe _ _ fun _ _ _ => trivial
    split at h
    · cases h
    case h_2 heq =>
      rw [heq] at hprobe
      cases h
      exact ⟨hprobe.idle hidle, hprobe.paneSize, nofun⟩
  case h_4 request _ =>
    split at h
    case h_1 target _ =>
      have hwritten := congrArg Prod.fst h
      have hreached : daemon = reached := congrArg Prod.snd h
      cases hrejected : ((ClientStream.fresh arrival.writes).writeProtocolError .sessionNotFound
        ("session not found: " ++ target) none 0).1 with
      | error => simp [hrejected, Except.map] at hwritten
      | ok =>
        simp only [hrejected, Except.map, Except.ok.injEq] at hwritten
        exact ⟨hreached ▸ hidle, hreached ▸ rfl, fun client hclient => by simp [← hwritten] at hclient⟩
    · have htarget := targetPaneId_paneSize request daemon.session
      split at h
      case h_1 session paneId heq =>
        rw [heq] at htarget
        have hidle' : (daemon.setSession session).actor.Idle := hidle
        obtain ⟨hreached, hsizes, hclient⟩ := attachLiveClient_sizes hidle' h
        exact ⟨hreached, hsizes.trans htarget, hclient⟩
      case h_2 session heq =>
        rw [heq] at htarget
        split at h <;> cases h
        refine ⟨hidle, htarget, fun client hclient => ?_⟩
        cases hclient
        rfl

theorem join_viewportsKept (loop : LiveLoop σ η) (client : LiveAttachedClient)
    (hclient : client.frontendResizeConstraints = .empty) :
    ∃ others joined, (loop.join client).2.clients = others ++ joined ∧
      List.Forall₂ (ViewportsKept []) loop.clients others ∧
      ∀ sent ∈ joined, sent.frontendResizeConstraints = .empty := by
  have hshown : List.Forall₂ (ViewportsKept []) loop.clients
      (loop.clients.map fun existing => existing.writePresence client.actor) :=
    List.forall₂_map_right_iff.mpr (List.forall₂_same.mpr fun existing _ =>
      (existing.writePresence_only client.actor).unmoved.viewportsKept)
  have hpublished := publishInventory_viewportsKept
    { loop with
      acceptedClients := loop.acceptedClients + 1
      nextConnectionId := loop.nextConnectionId + 1
      clients := loop.clients.map fun existing => existing.writePresence client.actor }
    [client.inventoryEntry] [] []
  have hkept := forall₂_viewportsKept_trans hshown hpublished
  unfold join
  dsimp only
  split
  case h_1 heq =>
    rw [heq] at hkept
    exact ⟨_, [], (List.append_nil _).symm, hkept, nofun⟩
  case h_2 heq =>
    rw [heq] at hkept
    refine ⟨_, _, rfl, hkept, fun sent hmem => ?_⟩
    obtain rfl := List.mem_singleton.mp hmem
    have hpresences := client.writePresences_only (loop.clients.map LiveAttachedClient.actor)
    rw [writeClientInventorySnapshot_viewports, hpresences.frontendResizeConstraints]
    exact hclient

/-- A connection leaves the loop settled, and the panes the viewports and the sizes they had. -/
theorem acceptArrival_sized {arrival : Arrival} (h : loop.Sized fits)
    (hcommand : ∀ command, arrival.initial ≠ .ok (.control command))
    (haccept : loop.acceptArrival engine host arrival = (.ok (), after)) :
    after.Sized fits ∧ after.daemon.session.paneSize = loop.daemon.session.paneSize := by
  unfold acceptArrival at haccept
  split at haccept
  · cases haccept
  · cases haccept
  case h_3 daemon heq =>
    cases haccept
    obtain ⟨hidle, hsizes, -⟩ := acceptLiveClient_sizes h.idle hcommand heq
    exact ⟨h.kept hidle hsizes (forall₂_viewportsKept_refl _), hsizes⟩
  case h_4 client daemon heq =>
    obtain ⟨hidle, hsizes, hclient⟩ := acceptLiveClient_sizes h.idle hcommand heq
    obtain ⟨others, joined, hclients, hkept, hempty⟩ :=
      join_viewportsKept { loop with daemon } client (hclient client rfl)
    have hdaemon := LiveLoop.join_daemon { loop with daemon } client
    split at haccept
    · cases haccept
    case h_2 heq =>
      rw [heq] at hclients hdaemon
      cases haccept
      dsimp only at hclients hdaemon
      have hothers : { loop with daemon, clients := others }.Sized fits := h.kept hidle hsizes hkept
      have hnobody : ∀ paneId, readWriteFrontendResizes joined paneId = [] := by
        intro paneId
        refine List.eq_nil_iff_forall_not_mem.mpr fun size hmem => ?_
        obtain ⟨sent, hsent, -, hget⟩ := mem_readWriteFrontendResizes.mp hmem
        rw [hempty sent hsent] at hget
        cases hget
      refine ⟨⟨hdaemon ▸ hidle, ?_, fun sent hmem => ?_, ?_⟩, hdaemon ▸ hsizes⟩
      · rw [hdaemon]
        exact hothers.sizesFit
      · rw [hclients] at hmem
        rcases List.mem_append.mp hmem with hmem | hmem
        · exact hothers.viewportsFit sent hmem
        · intro paneId size hget
          rw [hempty sent hmem] at hget
          cases hget
      · refine hothers.agreed.congr (hdaemon ▸ rfl) fun paneId => ?_
        rw [hclients, readWriteFrontendResizes_append, hnobody, List.append_nil]

theorem acceptArrivals_sized {arrivals : List Arrival} (h : loop.Sized fits)
    (hcommands : ∀ arrival ∈ arrivals, ∀ command, arrival.initial ≠ .ok (.control command))
    (haccept : loop.acceptArrivals engine host config arrivals = (.ok (), after)) :
    after.Sized fits ∧ after.daemon.session.paneSize = loop.daemon.session.paneSize := by
  induction arrivals generalizing loop with
  | nil =>
    cases haccept
    exact ⟨h, rfl⟩
  | cons arrival rest ih =>
    obtain ⟨hfirst, hrest⟩ := List.forall_mem_cons.mp hcommands
    unfold acceptArrivals at haccept
    split at haccept
    · split at haccept
      · cases haccept
      case h_2 heq =>
        obtain ⟨hmiddle, hsizes⟩ := acceptArrival_sized h hfirst heq
        obtain ⟨hafter, hmore⟩ := ih hmiddle hrest haccept
        exact ⟨hafter, hmore.trans hsizes⟩
    · cases haccept
      exact ⟨h, rfl⟩

/-! ### Drains and departures -/

/-- After the drains the clients have new viewports for the panes that the round names. -/
theorem drain_sized {round : LiveRound} {marked : MarkedClients} (h : loop.Sized fits)
    (hinputs : inputs.ViewportsOnly fits)
    (hdrain : loop.drain engine host inputs = (.ok (round, marked), after)) :
    after.daemon.actor.Idle ∧ after.daemon.session = loop.daemon.session ∧
      (∀ client ∈ marked.all, ViewportsFit fits client) ∧
      ∀ paneId, paneId ∉ round.frontendResizePaneIds →
        readWriteFrontendResizes marked.all paneId = readWriteFrontendResizes loop.clients paneId := by
  unfold drain at hdrain
  split at hdrain
  · cases hdrain
  case h_2 heq =>
    cases hdrain
    obtain ⟨hsession, hidle, -, hfits, hkept⟩ :=
      drainReadableClients_viewports h.idle hinputs.reads h.viewportsFit heq
    exact ⟨hidle, hsession, hfits, fun paneId hmem => readWriteFrontendResizes_kept hkept hmem⟩

theorem mem_sortDedup {paneIds : List String} {paneId : String} :
    paneId ∈ sortDedup paneIds ↔ paneId ∈ paneIds := by
  unfold sortDedup
  rw [List.mem_dedup, List.mem_insertionSort]

/-- The clients that stay agree on the sizes, once the panes of those that leave are sized again. -/
theorem leave_agreed {marked : MarkedClients} {session reached : Session}
    (h : Agreed marked.all session)
    (harbitrated : Arbitrated marked.staying (frontendResizeKeys marked.leaving) session reached) :
    Agreed marked.staying reached := by
  refine h.arbitrated (fun paneId hmem => ?_) harbitrated
  have hmarked := readWriteFrontendResizes_marked marked paneId
  rw [readWriteFrontendResizes_keys hmem, List.nil_append] at hmarked
  exact hmarked.symm

/-- The pane has the size the clients agree on. -/
def SizedBy (clients : List LiveAttachedClient) (session : Session) (paneId : String) : Prop :=
  ∃ size, smallestReadWriteFrontendResize clients paneId = some size ∧
    session.paneSize paneId = some size

/-- The viewports of a round are applied, and those of who leaves are gone. -/
theorem settle_sized {clients : List LiveAttachedClient} {round settled : LiveRound}
    {marked : MarkedClients} (hengine : AnswersWithin engine fits) (hidle : loop.daemon.actor.Idle)
    (hsizes : SizesFit fits loop.daemon.session)
    (hfits : ∀ client ∈ marked.all, ViewportsFit fits client)
    (hagreed : Agreed clients loop.daemon.session)
    (hnamed : ∀ paneId, paneId ∉ round.frontendResizePaneIds →
      readWriteFrontendResizes marked.all paneId = readWriteFrontendResizes clients paneId)
    (hsettle : loop.settle engine host inputs round marked = (.ok settled, after)) :
    after.Sized fits ∧ List.Forall₂ (ViewportsKept []) marked.staying after.clients ∧
      ∀ paneId, after.daemon.session.paneSize paneId = loop.daemon.session.paneSize paneId ∨
        SizedBy marked.all after.daemon.session paneId ∨
        SizedBy marked.staying after.daemon.session paneId := by
  have hstaying : ∀ client ∈ marked.staying, ViewportsFit fits client := fun client hmem =>
    hfits client (List.map_subset _ List.filter_sublist.subset hmem)
  unfold settle at hsettle
  split at hsettle
  · cases hsettle
  case h_2 changed resized hresize =>
    obtain ⟨hidle', harbitrated⟩ := applyFrontendResizes_arbitrated hengine hidle hsizes hfits hresize
    have hall : Agreed marked.all resized.session :=
      hagreed.arbitrated (fun paneId hmem => .of_eq (hnamed paneId (mem_sortDedup.not.mp hmem))) harbitrated
    have hleft := publishInventory_viewportsKept { loop with daemon := resized, clients := marked.staying }
      [] [] (marked.leaving.map LiveAttachedClient.connectionId)
    have hdaemon := publishInventory_daemon { loop with daemon := resized, clients := marked.staying } [] []
      (marked.leaving.map LiveAttachedClient.connectionId)
    split at hsettle
    · cases hsettle
    case h_2 left heq =>
      rw [heq] at hleft hdaemon
      dsimp only at hleft hdaemon
      split at hsettle
      · cases hsettle
      case h_2 more closed hclosing =>
        rw [hdaemon] at hclosing
        obtain ⟨hlast, hclosed⟩ := applyFrontendResizes_arbitrated hengine hidle'
          (harbitrated.sizesFit hfits hsizes) (viewportsFit_unmoved hleft hstaying) hclosing
        have hclosed := hclosed.congr hleft
        have hupdated := publishInventory_viewportsKept { left with daemon := closed } []
          (round.inventoryUpdates.filter fun updated =>
            left.clients.any (·.connectionId == updated.connectionId)) []
        have hsame := publishInventory_daemon { left with daemon := closed } []
          (round.inventoryUpdates.filter fun updated =>
            left.clients.any (·.connectionId == updated.connectionId)) []
        split at hsettle
        · cases hsettle
        case h_2 heq =>
          rw [heq] at hupdated hsame
          cases hsettle
          dsimp only at hupdated hsame
          have hkept := forall₂_viewportsKept_trans hleft hupdated
          have hdone : Agreed marked.staying closed.session := leave_agreed hall hclosed
          refine ⟨⟨hsame ▸ hlast, ?_, viewportsFit_unmoved hkept hstaying, ?_⟩, hkept, fun paneId => ?_⟩
          · rw [hsame]
            exact hclosed.sizesFit hstaying (harbitrated.sizesFit hfits hsizes)
          · exact hdone.congr (hsame ▸ rfl) fun _ => readWriteFrontendResizes_unmoved hkept
          · rw [hsame]
            rcases hclosed.cases paneId with hunmoved | hsized
            · rcases harbitrated.cases paneId with hbefore | ⟨size, hsmallest, hsize⟩
              · exact .inl (hunmoved.trans hbefore)
              · exact .inr (.inl ⟨size, hsmallest, hunmoved.trans hsize⟩)
            · exact .inr (.inr hsized)

/-- What is sent and read after that sizes no pane. -/
theorem firstOutput_sized {round : LiveRound} {output : OutputRound} (h : loop.Sized fits)
    (hfirst : loop.firstOutput engine host config inputs round = (.ok output, after)) :
    after.daemon.actor.Idle ∧ after.daemon.session.paneSize = loop.daemon.session.paneSize := by
  have hpoll : ServesText engine loop.daemon (loop.daemon.pollPanesOnce engine host
      loop.daemon.session.leafPaneIds round.inputPaneIds inputs.nowMonoMs inputs.outputReads).2 :=
    Daemon.pollPanesOnce_servesText h.idle _ _ _ _
  unfold firstOutput at hfirst
  dsimp only at hfirst
  split at hfirst
  · split at hfirst
    · cases hfirst
    case h_2 heq =>
      rw [heq] at hpoll
      cases hfirst
      exact ⟨hpoll.idle h.idle, hpoll.paneSize⟩
    case h_3 heq =>
      rw [heq] at hpoll
      split at hfirst
      · cases hfirst
        exact ⟨hpoll.idle h.idle, hpoll.paneSize⟩
      · split at hfirst <;> cases hfirst
        exact ⟨hpoll.idle h.idle, hpoll.paneSize⟩
  · cases hfirst
    exact ⟨h.idle, rfl⟩

theorem quietOutput_sized {round : LiveRound} {leafPaneIds : List String} {output quiet : OutputRound}
    (h : loop.Sized fits)
    (hquiet : loop.quietOutput engine host config inputs round leafPaneIds output = (.ok quiet, after)) :
    after.daemon.actor.Idle ∧ after.daemon.session.paneSize = loop.daemon.session.paneSize := by
  have hpoll : ServesText engine loop.daemon (loop.daemon.pollPanesUntilQuiet engine host leafPaneIds
      inputs.nowMonoMs inputs.outputReads inputs.outputRounds).2 :=
    Daemon.pollPanesUntilQuiet_servesText h.idle _ _ _ _
  unfold quietOutput at hquiet
  split at hquiet
  · cases hquiet
    exact ⟨h.idle, rfl⟩
  · split at hquiet
    · cases hquiet
    case h_2 heq =>
      rw [heq] at hpoll
      cases hquiet
      exact ⟨hpoll.idle h.idle, hpoll.paneSize⟩

theorem publish_daemon {round : LiveRound} {leafPaneIds : List String} {output : OutputRound} :
    (loop.publish config inputs round leafPaneIds output).2.daemon = loop.daemon := by
  unfold publish
  dsimp only
  split <;> rfl

/-- What the clients are sent leaves the loop settled. -/
theorem Sized.sent (h : loop.Sized fits) (hsame : SameClients loop after)
    (hdaemon : after.daemon.actor.Idle ∧
      after.daemon.session.paneSize = loop.daemon.session.paneSize) : after.Sized fits :=
  h.kept hdaemon.1 hdaemon.2 (hsame.clients.imp fun _ _ hkept => hkept.viewportsKept)

theorem serveClients_sized {marked : MarkedClients} (hengine : AnswersWithin engine fits)
    (h : loop.Sized fits) (hinputs : inputs.ViewportsOnly fits)
    (hserve : loop.serveClients engine host config inputs = (.ok marked, after)) :
    after.Sized fits ∧ ∃ round drained closing,
      loop.drain engine host inputs = (.ok (round, closing), drained) ∧
      List.Forall₂ (ViewportsKept []) closing.staying marked.all ∧
      ∀ paneId, after.daemon.session.paneSize paneId = loop.daemon.session.paneSize paneId ∨
        SizedBy closing.all after.daemon.session paneId ∨
        SizedBy closing.staying after.daemon.session paneId := by
  have hclients := serveClients_clients hserve
  unfold serveClients at hserve
  split at hserve
  · cases hserve
  case h_2 round closing drained hdrain =>
    obtain ⟨hidle, hsession, hfits, hnamed⟩ := drain_sized h hinputs hdrain
    split at hserve
    · cases hserve
    case h_2 applied settled hsettle =>
      obtain ⟨hsettled, hstaying, hcases⟩ := settle_sized hengine hidle (hsession ▸ h.sizesFit) hfits
        (hsession ▸ h.agreed) hnamed hsettle
      dsimp only at hserve
      split at hserve
      · cases hserve
      case h_2 output sent hfirst =>
        have hsent : SameClients settled (settled.firstOutput engine host config inputs applied).2 :=
          settled.firstOutput_sameClients applied
        rw [hfirst] at hsent
        have hsizes := firstOutput_sized hsettled hfirst
        have hsentSettled := hsettled.sent hsent hsizes
        split at hserve
        · cases hserve
        case h_2 quiet polled hquiet =>
          have hpolled : SameClients sent (sent.quietOutput engine host config inputs applied
              settled.daemon.session.leafPaneIds output).2 := sent.quietOutput_sameClients applied _ output
          rw [hquiet] at hpolled
          have hmore := quietOutput_sized hsentSettled hquiet
          have hpolledSettled := hsentSettled.sent hpolled hmore
          have hpublished : SameClients polled (polled.publish config inputs applied
              settled.daemon.session.leafPaneIds quiet).2 :=
            publish_sameClients _ _ (quietOutput_clients (firstOutput_clients hfirst) hquiet)
          have hdaemon : (polled.publish config inputs applied settled.daemon.session.leafPaneIds
              quiet).2.daemon = polled.daemon := publish_daemon
          rw [hserve] at hpublished hdaemon
          dsimp only at hdaemon
          have hafter := hpolledSettled.sent hpublished ⟨hdaemon ▸ hpolledSettled.idle, hdaemon ▸ rfl⟩
          have hsame : after.daemon.session.paneSize = settled.daemon.session.paneSize := by
            rw [hdaemon, hmore.2, hsizes.2]
          have hkept {clients others : List LiveAttachedClient} (h : List.Forall₂ Unmoved clients others) :
              List.Forall₂ (ViewportsKept []) clients others := h.imp fun _ _ hkept => hkept.viewportsKept
          refine ⟨hafter, round, drained, closing, hdrain, ?_, fun paneId => ?_⟩
          · rw [← hclients]
            exact forall₂_viewportsKept_trans hstaying (forall₂_viewportsKept_trans (hkept hsent.clients)
              (forall₂_viewportsKept_trans (hkept hpolled.clients) (hkept hpublished.clients)))
          · unfold SizedBy at hcases ⊢
            rw [hsame, ← hsession]
            exact hcases paneId

theorem depart_sized {marked : MarkedClients} (hengine : AnswersWithin engine fits)
    (h : loop.Sized fits) (hclients : loop.clients = marked.all)
    (hdepart : loop.depart engine host inputs marked = (.ok (), after)) :
    after.Sized fits ∧ List.Forall₂ (ViewportsKept []) marked.staying after.clients ∧
      ∀ paneId, after.daemon.session.paneSize paneId = loop.daemon.session.paneSize paneId ∨
        SizedBy marked.staying after.daemon.session paneId := by
  have hstaying : ∀ client ∈ marked.staying, ViewportsFit fits client := by
    intro client hmem
    refine h.viewportsFit client ?_
    rw [hclients]
    exact List.map_subset _ List.filter_sublist.subset hmem
  unfold depart at hdepart
  dsimp only at hdepart
  split at hdepart
  · cases hdepart
  case h_2 changed closed hclosing =>
    obtain ⟨hidle, harbitrated⟩ := applyFrontendResizes_arbitrated hengine h.idle h.sizesFit hstaying hclosing
    have hleft := publishInventory_viewportsKept { loop with daemon := closed, clients := marked.staying }
      [] [] (marked.leaving.map LiveAttachedClient.connectionId)
    have hdaemon := publishInventory_daemon { loop with daemon := closed, clients := marked.staying } [] []
      (marked.leaving.map LiveAttachedClient.connectionId)
    split at hdepart
    · cases hdepart
    case h_2 heq =>
      rw [heq] at hleft hdaemon
      cases hdepart
      dsimp only at hleft hdaemon
      have hagreed : Agreed marked.staying closed.session := leave_agreed (hclients ▸ h.agreed) harbitrated
      refine ⟨⟨hdaemon ▸ hidle, ?_, viewportsFit_unmoved hleft hstaying, ?_⟩, hleft, fun paneId => ?_⟩
      · rw [hdaemon]
        exact harbitrated.sizesFit hstaying h.sizesFit
      · exact hagreed.congr (hdaemon ▸ rfl) fun _ => readWriteFrontendResizes_unmoved hleft
      · rw [hdaemon]
        exact harbitrated.cases paneId

/-! ### Rounds -/

/-- The pane has the smallest size that some of the clients that leave in the round had asked for. -/
def SizedByDeparting (engine : TerminalEngine σ) (host : ProcessHost η) (config : LiveConfig)
    (inputs : RoundInputs) (loop after : LiveLoop σ η) (paneId : String) : Prop :=
  ∃ left, left.Sublist (loop.departing engine host config inputs) ∧
    ∃ size, SmallestOf (readWriteFrontendResizes left paneId) size ∧
      after.daemon.session.paneSize paneId = some size

/-- A round leaves the loop settled, and a pane that nobody asks for as it was or as those that left had
it. -/
theorem round_sized (hengine : AnswersWithin engine fits) (h : loop.Sized fits)
    (hinputs : inputs.ViewportsOnly fits)
    (hround : loop.round engine host config inputs = (.ok (), after)) :
    after.Sized fits ∧ ∀ paneId, readWriteFrontendResizes after.clients paneId = [] →
      after.daemon.session.paneSize paneId = loop.daemon.session.paneSize paneId ∨
        SizedByDeparting engine host config inputs loop after paneId := by
  unfold round at hround
  split at hround
  case isFalse => cases hround
  case isTrue hgoes =>
    split at hround
    · cases hround
    case h_2 accepted haccept =>
      obtain ⟨haccepted, hacceptSizes⟩ := acceptArrivals_sized h hinputs.commands haccept
      split at hround
      · cases hround
      case h_2 marked served hserve =>
        obtain ⟨hserved, drainRound, drained, closing, hdrain, hstaying, hserveSizes⟩ :=
          serveClients_sized hengine haccepted hinputs hserve
        obtain ⟨hafter, hkept, hdepartSizes⟩ :=
          depart_sized hengine hserved (serveClients_clients hserve) hround
        have hdeparting : loop.departing engine host config inputs = closing.leaving ++ marked.leaving := by
          unfold departing
          rw [if_pos hgoes, haccept]
          dsimp only
          rw [hdrain, hserve]
        refine ⟨hafter, fun paneId hnobody => ?_⟩
        have hnobodyStays : readWriteFrontendResizes marked.staying paneId = [] :=
          (readWriteFrontendResizes_unmoved hkept).symm.trans hnobody
        have hleaving : (readWriteFrontendResizes closing.staying paneId).Perm
            (readWriteFrontendResizes marked.leaving paneId) := by
          have hmarked := readWriteFrontendResizes_marked marked paneId
          rwa [hnobodyStays, List.append_nil, readWriteFrontendResizes_unmoved hstaying] at hmarked
        have hall : (readWriteFrontendResizes closing.all paneId).Perm
            (readWriteFrontendResizes (closing.leaving ++ marked.leaving) paneId) := by
          rw [readWriteFrontendResizes_append]
          exact (readWriteFrontendResizes_marked closing paneId).trans (hleaving.append_left _)
        rcases hdepartSizes paneId with hsame | ⟨size, hsmallest, -⟩
        case inr =>
          rw [smallest_eq_none.mpr hnobodyStays] at hsmallest
          cases hsmallest
        rcases hserveSizes paneId with hbefore | ⟨size, hsmallest, hsize⟩ | ⟨size, hsmallest, hsize⟩
        · exact .inl (hsame.trans (hbefore.trans (congrFun hacceptSizes paneId)))
        · refine .inr ⟨_, List.Sublist.refl _, size, ?_, hsame.trans hsize⟩
          rw [hdeparting]
          exact (smallest_eq_some.mp hsmallest).perm hall
        · refine .inr ⟨marked.leaving, ?_, size, ?_, hsame.trans hsize⟩
          · rw [hdeparting]
            exact List.sublist_append_right _ _
          · exact (smallest_eq_some.mp hsmallest).perm hleaving

theorem rounds_sized {inputs : List RoundInputs} (hengine : AnswersWithin engine fits)
    (h : loop.Sized fits) (hinputs : ∀ round ∈ inputs, round.ViewportsOnly fits)
    (hrounds : loop.rounds engine host config inputs = (.ok (), after)) : after.Sized fits :=
  rounds_invariant (fun _ _ _ hloop hround hnext => (round_sized hengine hloop hround hnext).1) h
    (.of_forall hinputs) hrounds

end LiveLoop

/-- **Viewports are arbitrated.** After a round every leaf has the smallest size, each way, that the
clients who may write ask for, if one of them does; a pane that none of them asks for keeps its size, or
has the smallest that clients who left in the round had asked for. -/
theorem viewports_arbitrated {config : LiveConfig} {daemon : Daemon σ η} {inputs : List RoundInputs}
    {round : RoundInputs} {before after : LiveLoop σ η} (hengine : AnswersWithin engine fits)
    (hidle : daemon.actor.Idle) (hsizes : SizesFit fits daemon.session)
    (hinputs : ∀ round ∈ inputs, round.ViewportsOnly fits) (hround : round.ViewportsOnly fits)
    (hbefore : (LiveLoop.start daemon).rounds engine host config inputs = (.ok (), before))
    (hafter : before.round engine host config round = (.ok (), after)) :
    (∀ paneId ∈ after.daemon.session.leafPaneIds, readWriteFrontendResizes after.clients paneId ≠ [] →
      ∃ size, SmallestOf (readWriteFrontendResizes after.clients paneId) size ∧
        after.daemon.session.paneSize paneId = some size) ∧
    ∀ paneId, readWriteFrontendResizes after.clients paneId = [] →
      after.daemon.session.paneSize paneId = before.daemon.session.paneSize paneId ∨
        LiveLoop.SizedByDeparting engine host config round before after paneId := by
  have hstart : (LiveLoop.start daemon).Sized fits := ⟨hidle, hsizes, nofun, fun _ _ _ h => nomatch h⟩
  have hsettled := LiveLoop.rounds_sized hengine hstart hinputs hbefore
  obtain ⟨hagreed, hnobody⟩ := LiveLoop.round_sized hengine hsettled hround hafter
  refine ⟨fun paneId hleaf hasked => ?_, hnobody⟩
  obtain ⟨size, hsmallest⟩ := Option.ne_none_iff_exists'.mp (smallest_eq_none.not.mpr hasked)
  refine ⟨size, smallest_eq_some.mp hsmallest, hagreed.agreed paneId size ?_ hsmallest⟩
  rw [paneSize_isSome, Session.pane_isSome_shape]
  rw [Session.leafPaneIds_shape] at hleaf
  obtain ⟨node, hnode, hid⟩ := List.mem_map.mp hleaf
  exact List.any_eq_true.mpr ⟨node, (List.mem_filter.mp hnode).1, by simp [hid]⟩

end

/-- The interim engine answers every resize. -/
theorem interimText_answersWithin : AnswersWithin interimTextTerminalEngine fun _ => True :=
  fun _ _ _ _ _ _ _ _ => rfl

/-- A client that asks for a viewport of the first pane, in a round of its own. -/
def viewportRead (cols rows : UInt32) : ClientReads :=
  ⟨[.ok (.frame (.resize ⟨"pane-1", "actor", cols, rows, .frontendViewport⟩))], 0⟩

/-- Two clients attach, and ask for viewports of which neither is the smaller each way. -/
def viewportRounds : List RoundInputs := [
  plainRound [plainArrival (.attach none plainRequest), plainArrival (.attach none plainRequest)] [],
  { plainRound [] [] with
    reads
      | 0 => some (viewportRead 100 30)
      | 1 => some (viewportRead 90 40)
      | _ => none }]

/-- The second client is gone. -/
def closingRound : RoundInputs :=
  { plainRound [] [] with
    reads
      | 1 => some ⟨[.ok .closed], 0⟩
      | _ => none }

/-- The loop with both clients, and with the first. -/
def bothLoop : LiveLoop InterimAnsiState Unit :=
  (plainLoop.rounds interimTextTerminalEngine .quiet plainConfig viewportRounds).2

def firstLoop : LiveLoop InterimAnsiState Unit :=
  (bothLoop.round interimTextTerminalEngine .quiet plainConfig closingRound).2

theorem viewports_arbitrated_closing :
    (∃ size, SmallestOf (readWriteFrontendResizes firstLoop.clients "pane-1") size ∧
      firstLoop.daemon.session.paneSize "pane-1" = some size) ∧
    bothLoop.daemon.session.paneSize "pane-1" = some (90, 30) ∧
      firstLoop.daemon.session.paneSize "pane-1" = some (100, 30) := by
  have hbefore : plainLoop.rounds interimTextTerminalEngine .quiet plainConfig viewportRounds =
      (.ok (), bothLoop) := by
    unfold bothLoop
    refine LiveLoop.rounds_of_ok ?_
    decide +kernel
  have hok : (bothLoop.round interimTextTerminalEngine .quiet plainConfig closingRound).1 = .ok () := by
    decide +kernel
  have hviewport : ∀ cols rows frame, .ok (.frame frame) ∈ (viewportRead cols rows).frames →
      frame.ViewportWithin fun _ => True := by
    intro cols rows frame hmem
    simp only [viewportRead, List.mem_singleton, Except.ok.injEq, LiveClientRead.frame.injEq] at hmem
    subst hmem
    exact ⟨rfl, trivial, trivial⟩
  have hinputs : ∀ round ∈ viewportRounds, round.ViewportsOnly fun _ => True := by
    intro round hround
    simp only [viewportRounds, List.mem_cons, List.not_mem_nil, or_false] at hround
    rcases hround with rfl | rfl
    · refine ⟨fun arrival harrival command => ?_, fun index clientReads hreads => ?_⟩
      · simp only [plainRound, List.mem_cons, List.not_mem_nil, or_false, or_self] at harrival
        subst harrival
        intro hcommand
        cases hcommand
      · unfold plainRound at hreads
        dsimp only at hreads
        split at hreads <;> cases hreads
    · refine ⟨fun arrival harrival => absurd harrival List.not_mem_nil,
        fun index clientReads hreads => ?_⟩
      dsimp only at hreads
      split at hreads <;> cases hreads
      all_goals exact hviewport _ _
  have hclosing : closingRound.ViewportsOnly fun _ => True := by
    refine ⟨fun arrival harrival => absurd harrival List.not_mem_nil,
      fun index clientReads hreads frame hmem => ?_⟩
    unfold closingRound at hreads
    dsimp only at hreads
    split at hreads <;> cases hreads
    simp at hmem
  have hidle : (Daemon.start interimTextTerminalEngine Session.initial 16 ()).actor.Idle := rfl
  obtain ⟨hasked, -⟩ := viewports_arbitrated interimText_answersWithin hidle
    (fun _ _ _ => ⟨trivial, trivial⟩) hinputs hclosing hbefore (Prod.ext hok rfl)
  refine ⟨hasked "pane-1" ?_ ?_, ?_, ?_⟩
  all_goals decide +kernel

/-- A client asks for a viewport and is gone at once: the pane has the size that nobody asks for. -/
def vanishingRound : RoundInputs :=
  { plainRound [] [] with
    reads
      | 0 => some ⟨(viewportRead 100 30).frames ++ [.ok .closed], 0⟩
      | _ => none }

/-- The loop with one client, and after it asked and left. -/
def oneClientLoop : LiveLoop InterimAnsiState Unit :=
  (plainLoop.rounds interimTextTerminalEngine .quiet plainConfig
    [plainRound [plainArrival (.attach none plainRequest)] []]).2

def vanishedLoop : LiveLoop InterimAnsiState Unit :=
  (oneClientLoop.round interimTextTerminalEngine .quiet plainConfig vanishingRound).2

theorem viewports_not_arbitrated :
    plainLoop.rounds interimTextTerminalEngine .quiet plainConfig
        [plainRound [plainArrival (.attach none plainRequest)] []] = (.ok (), oneClientLoop) ∧
      oneClientLoop.round interimTextTerminalEngine .quiet plainConfig vanishingRound =
        (.ok (), vanishedLoop) ∧
      "pane-1" ∈ oneClientLoop.daemon.session.leafPaneIds ∧
      oneClientLoop.daemon.session.paneResizePolicy "pane-1" ≠ some .manual ∧
      readWriteFrontendResizes vanishedLoop.clients "pane-1" = [] ∧
      oneClientLoop.daemon.session.paneSize "pane-1" = some (80, 24) ∧
      vanishedLoop.daemon.session.paneSize "pane-1" = some (100, 30) := by
  have hattach : (plainLoop.rounds interimTextTerminalEngine .quiet plainConfig
      [plainRound [plainArrival (.attach none plainRequest)] []]).1 = .ok () := by
    decide +kernel
  have hvanish : (oneClientLoop.round interimTextTerminalEngine .quiet plainConfig vanishingRound).1 =
      .ok () := by
    decide +kernel
  refine ⟨Prod.ext hattach rfl, Prod.ext hvanish rfl, ?_⟩
  decide +kernel

end Live

end Nmux
