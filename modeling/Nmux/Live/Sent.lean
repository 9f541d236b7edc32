import Nmux.Live.Loop
import Nmux.Client.Inventory

/-! What the clients of the loop are sent. Nothing the loop does takes a frame back from a client, or
touches the cycles it has had outside of a broadcast; and of the inventory a client is sent nothing but
what the loop publishes of it. -/
namespace Nmux.Live

open Client (InventoryFrame inventoryFrame?)

/-- The client has all it was sent before, and has had as many cycles. -/
structure SentMore (client after : LiveAttachedClient) : Prop where
  queued : client.queued ⊆ after.queued
  completedCycles : after.completedCycles = client.completedCycles

/-- The inventory as the client is sent it. -/
def LiveAttachedClient.inventoryStream (client : LiveAttachedClient) : List InventoryFrame :=
  client.queued.filterMap inventoryFrame?

/-- The client is who it was, and was sent nothing of the inventory. -/
structure InventoryKept (client after : LiveAttachedClient) : Prop where
  connectionId : after.connectionId = client.connectionId
  transport : after.transport = client.transport
  inventorySubscribed : after.inventorySubscribed = client.inventorySubscribed
  inventoryStream : after.inventoryStream = client.inventoryStream

/-- The client was sent more, and nothing of the inventory. -/
structure SentOther (client after : LiveAttachedClient) : Prop extends
  SentMore client after, InventoryKept client after where
  actor : after.actor = client.actor

/-- And it has the viewports it had. -/
structure SentOnly (client after : LiveAttachedClient) : Prop extends SentOther client after where
  frontendResizeConstraints : after.frontendResizeConstraints = client.frontendResizeConstraints

/-- Every client was one of those before, and was sent more. -/
def AllSentMore (clients after : List LiveAttachedClient) : Prop :=
  ∀ client' ∈ after, ∃ client ∈ clients, SentMore client client'

theorem SentMore.refl (client : LiveAttachedClient) : SentMore client client := ⟨fun _ h => h, rfl⟩

theorem SentMore.trans {client middle after : LiveAttachedClient} (first : SentMore client middle)
    (second : SentMore middle after) : SentMore client after :=
  ⟨List.Subset.trans first.queued second.queued, second.completedCycles.trans first.completedCycles⟩

theorem InventoryKept.refl (client : LiveAttachedClient) : InventoryKept client client :=
  ⟨rfl, rfl, rfl, rfl⟩

theorem InventoryKept.trans {client middle after : LiveAttachedClient}
    (first : InventoryKept client middle) (second : InventoryKept middle after) :
    InventoryKept client after where
  connectionId := second.connectionId.trans first.connectionId
  transport := second.transport.trans first.transport
  inventorySubscribed := second.inventorySubscribed.trans first.inventorySubscribed
  inventoryStream := second.inventoryStream.trans first.inventoryStream

theorem SentOther.refl (client : LiveAttachedClient) : SentOther client client :=
  ⟨.refl client, .refl client, rfl⟩

theorem SentOther.trans {client middle after : LiveAttachedClient} (first : SentOther client middle)
    (second : SentOther middle after) : SentOther client after :=
  ⟨first.toSentMore.trans second.toSentMore, first.toInventoryKept.trans second.toInventoryKept,
    second.actor.trans first.actor⟩

theorem SentOnly.refl (client : LiveAttachedClient) : SentOnly client client := ⟨.refl client, rfl⟩

theorem SentOnly.trans {client middle after : LiveAttachedClient} (first : SentOnly client middle)
    (second : SentOnly middle after) : SentOnly client after :=
  ⟨first.toSentOther.trans second.toSentOther,
    second.frontendResizeConstraints.trans first.frontendResizeConstraints⟩

/-- The client is who it was, with the inventory and the viewports it had. -/
structure Unmoved (client after : LiveAttachedClient) : Prop extends InventoryKept client after where
  actor : after.actor = client.actor
  frontendResizeConstraints : after.frontendResizeConstraints = client.frontendResizeConstraints

theorem Unmoved.refl (client : LiveAttachedClient) : Unmoved client client :=
  ⟨.refl client, rfl, rfl⟩

theorem Unmoved.trans {client middle after : LiveAttachedClient} (first : Unmoved client middle)
    (second : Unmoved middle after) : Unmoved client after :=
  ⟨first.toInventoryKept.trans second.toInventoryKept, second.actor.trans first.actor,
    second.frontendResizeConstraints.trans first.frontendResizeConstraints⟩

theorem SentOnly.unmoved {client after : LiveAttachedClient} (h : SentOnly client after) :
    Unmoved client after := ⟨h.toInventoryKept, h.actor, h.frontendResizeConstraints⟩

theorem AllSentMore.refl (clients : List LiveAttachedClient) : AllSentMore clients clients :=
  fun client h => ⟨client, h, .refl client⟩

theorem AllSentMore.of_subset {clients after : List LiveAttachedClient} (h : after ⊆ clients) :
    AllSentMore clients after := fun client hmem => ⟨client, h hmem, .refl client⟩

theorem AllSentMore.trans {clients middle after : List LiveAttachedClient}
    (first : AllSentMore clients middle) (second : AllSentMore middle after) :
    AllSentMore clients after := by
  intro client' hmem
  obtain ⟨sent, hsent, hafter⟩ := second client' hmem
  obtain ⟨client, hclient, hbefore⟩ := first sent hsent
  exact ⟨client, hclient, hbefore.trans hafter⟩

theorem AllSentMore.cons {client client' : LiveAttachedClient} {clients after : List LiveAttachedClient}
    (head : SentMore client client') (rest : AllSentMore clients after) :
    AllSentMore (client :: clients) (client' :: after) := by
  intro sent hmem
  rcases List.mem_cons.mp hmem with rfl | hmem
  · exact ⟨client, List.mem_cons_self, head⟩
  · obtain ⟨before, hbefore, hsent⟩ := rest sent hmem
    exact ⟨before, List.mem_cons_of_mem _ hbefore, hsent⟩

theorem AllSentMore.map {clients : List LiveAttachedClient} {send : LiveAttachedClient → LiveAttachedClient}
    (h : ∀ client, SentMore client (send client)) : AllSentMore clients (clients.map send) := by
  intro sent hmem
  obtain ⟨client, hclient, rfl⟩ := List.mem_map.mp hmem
  exact ⟨client, hclient, h client⟩

theorem AllSentMore.of_other {clients after : List LiveAttachedClient}
    (h : List.Forall₂ SentOther clients after) : AllSentMore clients after := by
  induction h with
  | nil => exact .refl _
  | cons head _ ih => exact ih.cons head.toSentMore

/-! ### One client -/

namespace LiveAttachedClient

variable (client : LiveAttachedClient)

theorem take_sent (frame : ServerFrame) : SentMore client (client.take frame) :=
  ⟨List.subset_append_left _ _, rfl⟩

theorem take_inventoryStream (frame : ServerFrame) :
    (client.take frame).inventoryStream = client.inventoryStream ++ (inventoryFrame? frame).toList := by
  unfold inventoryStream take
  dsimp only
  rw [List.filterMap_append]
  cases h : inventoryFrame? frame <;> simp [h]

theorem queueReliableFrame_sent (frame : ServerFrame) :
    SentMore client (client.queueReliableFrame frame).2 := by
  unfold queueReliableFrame
  split
  · exact ⟨fun _ h => h, rfl⟩
  · exact client.take_sent frame

theorem queueReliableFrame_only {frame : ServerFrame} (h : inventoryFrame? frame = none) :
    SentOnly client (client.queueReliableFrame frame).2 := by
  have hsent := client.queueReliableFrame_sent frame
  unfold queueReliableFrame at hsent ⊢
  split at hsent
  · exact ⟨⟨hsent, ⟨rfl, rfl, rfl, rfl⟩, rfl⟩, rfl⟩
  · refine ⟨⟨hsent, ⟨rfl, rfl, rfl, ?_⟩, rfl⟩, rfl⟩
    rw [take_inventoryStream, h]
    exact List.append_nil _

/-- A frame that is not refused is sent. -/
theorem queueReliableFrame_ok {frame : ServerFrame} {after : LiveAttachedClient}
    (h : client.queueReliableFrame frame = (.ok (), after)) : frame ∈ after.queued := by
  unfold queueReliableFrame at h
  split at h
  · cases h
  · obtain ⟨-, rfl⟩ := Prod.mk.inj h
    exact List.mem_append_right _ List.mem_cons_self

theorem changedSurfaceFrame_other {session : Session} {paneId : String} {current : UInt64}
    {frame : ServerFrame} (h : client.changedSurfaceFrame session paneId current = some frame) :
    inventoryFrame? frame = none := by
  unfold changedSurfaceFrame at h
  split at h
  · obtain ⟨surface, -, rfl⟩ := Option.map_eq_some_iff.mp h
    rfl
  · split at h
    · cases h
    · obtain ⟨bundle, -, rfl⟩ := Option.map_eq_some_iff.mp h
      rfl

theorem skipSurface_only (paneId : String) (current : UInt64) :
    SentOnly client (client.skipSurface paneId current) := by
  unfold skipSurface
  split <;> exact ⟨⟨⟨fun _ h => h, rfl⟩, ⟨rfl, rfl, rfl, rfl⟩, rfl⟩, rfl⟩

theorem signalChangedSurfaceFrames_only (session : Session) (paneIds : List String) :
    SentOnly client (signalChangedSurfaceFrames session paneIds client).2 := by
  induction paneIds generalizing client with
  | nil => exact .refl client
  | cons paneId rest ih =>
    unfold signalChangedSurfaceFrames
    split
    · exact ih client
    case h_2 current _ =>
      split
      · exact (client.skipSurface_only paneId current).trans (ih _)
      case h_2 frame hframe =>
        have hsent := client.queueReliableFrame_only (client.changedSurfaceFrame_other hframe)
        split
        case h_1 heq => rwa [heq] at hsent
        case h_2 heq =>
          rw [heq] at hsent
          refine SentOnly.trans ?_ (ih _)
          exact ⟨⟨⟨hsent.queued, hsent.completedCycles⟩, ⟨hsent.connectionId, hsent.transport,
            hsent.inventorySubscribed, hsent.inventoryStream⟩, hsent.actor⟩,
            hsent.frontendResizeConstraints⟩

theorem writeChanges_only (session : Session) (changedWorkspace : Bool) (paneIds : List String) :
    SentOnly client (client.writeChanges session changedWorkspace paneIds).2 := by
  unfold writeChanges
  split
  · have hsent : SentOnly client (client.queueReliableFrame
        (.workspace (session.workspaceTreeFrame "local-client" client.seq))).2 :=
      client.queueReliableFrame_only rfl
    split
    case h_1 heq => rwa [heq] at hsent
    case h_2 heq =>
      rw [heq] at hsent
      exact hsent.trans (signalChangedSurfaceFrames_only _ session paneIds)
  · exact client.signalChangedSurfaceFrames_only session paneIds

theorem writePresence_only (actor : Nmux.Actor) : SentOnly client (client.writePresence actor) :=
  client.queueReliableFrame_only rfl

theorem writePresences_only (actors : List Nmux.Actor) :
    SentOnly client (actors.foldl writePresence client) := by
  induction actors generalizing client with
  | nil => exact .refl client
  | cons actor rest ih => exact (client.writePresence_only actor).trans (ih _)

theorem writeClientInventorySnapshot_sent (version : Nat) (clients : List ClientConnectionSummary) :
    SentMore client (client.writeClientInventorySnapshot version clients).2 := by
  unfold writeClientInventorySnapshot
  split
  · exact client.queueReliableFrame_sent _
  · exact .refl client

end LiveAttachedClient

/-! ### All clients -/

theorem writeToSubscribers_sent (frame : ServerFrame) (clients : List LiveAttachedClient) :
    AllSentMore clients (writeToSubscribers frame clients).2 := by
  induction clients with
  | nil => exact .refl _
  | cons client rest ih =>
    unfold writeToSubscribers
    have hsent := client.queueReliableFrame_sent frame
    split
    · split
      case h_1 heq =>
        rw [heq] at hsent
        split
        · exact ih.cons hsent
        · exact (AllSentMore.refl rest).cons hsent
      case h_2 heq =>
        rw [heq] at hsent
        exact ih.cons hsent
    · exact ih.cons (.refl client)

theorem LiveLoop.publishInventory_sent {σ η : Type} (loop : LiveLoop σ η)
    (joined updated : List ClientConnectionSummary) (leftConnectionIds : List String) :
    AllSentMore loop.clients (loop.publishInventory joined updated leftConnectionIds).2.clients := by
  unfold publishInventory
  split
  · exact .refl _
  · show AllSentMore loop.clients (writeClientInventoryPatch _ _ _ _ _ _).2
    unfold writeClientInventoryPatch
    split
    · exact .refl _
    · exact writeToSubscribers_sent _ _

@[simp] theorem LiveLoop.publishInventory_daemon {σ η : Type} (loop : LiveLoop σ η)
    (joined updated : List ClientConnectionSummary) (leftConnectionIds : List String) :
    (loop.publishInventory joined updated leftConnectionIds).2.daemon = loop.daemon := by
  unfold publishInventory
  split <;> rfl

@[simp] theorem LiveLoop.join_daemon {σ η : Type} (loop : LiveLoop σ η) (client : LiveAttachedClient) :
    (loop.join client).2.daemon = loop.daemon := by
  unfold join
  dsimp only
  split
  all_goals
    rename_i heq
    have hdaemon := congrArg (fun result => result.2.daemon) heq
    rw [publishInventory_daemon] at hdaemon
    exact hdaemon.symm

/-! ### Drains -/

@[simp] theorem MarkedClients.all_unmarked (clients : List LiveAttachedClient) :
    (MarkedClients.unmarked clients).all = clients := by
  rw [unmarked, all, List.map_map]
  exact List.map_id clients

section
variable {σ η : Type} {engine : TerminalEngine σ} {host : ProcessHost η}
  (client : LiveAttachedClient) (daemon : Daemon σ η)

theorem answered_only (after : FrameResult) {answer : Except ServeError Unit × LiveAttachedClient}
    (h : SentOnly client answer.2) : SentOnly client (answered after answer daemon).2.1 := by
  obtain ⟨error | _, answering⟩ := answer <;> exact h

theorem forwardLiveInput_only (input : InputSummary) (nowMonoMs : UInt64) :
    SentOnly client (forwardLiveInput engine host client daemon input nowMonoMs).2.1 := by
  unfold forwardLiveInput
  dsimp only
  split
  · exact client.queueReliableFrame_only rfl
  split
  · exact client.queueReliableFrame_only rfl
  split
  · exact client.queueReliableFrame_only rfl
  split
  · exact .refl client
  split
  · exact .refl client
  · exact client.queueReliableFrame_only rfl

theorem drainFrame_other (drain : ClientDrain) (nowMonoMs : UInt64) (frame : LiveClientFrame) :
    SentOther client (drainFrame engine host client daemon drain nowMonoMs frame).2.1 := by
  have hseen : SentOther client { client with lastSeenMonoMs := nowMonoMs } :=
    ⟨⟨fun _ h => h, rfl⟩, ⟨rfl, rfl, rfl, rfl⟩, rfl⟩
  have hanswer (after : FrameResult) (frame : ServerFrame) (hframe : inventoryFrame? frame = none) :
      SentOther client (answered after
        ({ client with lastSeenMonoMs := nowMonoMs }.queueReliableFrame frame) daemon).2.1 :=
    hseen.trans (answered_only _ daemon after (LiveAttachedClient.queueReliableFrame_only _ hframe)).toSentOther
  cases frame with
  | resize resize =>
    show SentOther client (drainResize engine host client daemon drain resize nowMonoMs).2.1
    unfold drainResize
    dsimp only
    split
    · exact hanswer _ _ rfl
    split
    · exact hanswer _ _ rfl
    split
    · exact hseen
    split
    · exact ⟨⟨fun _ h => h, rfl⟩, ⟨rfl, rfl, rfl, rfl⟩, rfl⟩
    split
    · exact hseen.trans (answered_only _ _ _ (LiveAttachedClient.queueReliableFrame_only _ rfl)).toSentOther
    · split <;> exact hseen
  | scrollback fetch =>
    show SentOther client (drainScrollback client daemon drain fetch nowMonoMs).2.1
    unfold drainScrollback
    dsimp only
    split
    · exact hanswer _ _ rfl
    split
    · exact hanswer _ _ rfl
    · exact hanswer _ _ rfl
  | input input =>
    show SentOther client (drainInput engine host client daemon drain input nowMonoMs).2.1
    have hinput : SentOther client
        { client with lastSeenMonoMs := nowMonoMs, lastInputMonoMs := some nowMonoMs } :=
      ⟨⟨fun _ h => h, rfl⟩, ⟨rfl, rfl, rfl, rfl⟩, rfl⟩
    unfold drainInput
    dsimp only
    split
    · exact hinput.trans (answered_only _ daemon _ (LiveAttachedClient.queueReliableFrame_only _ rfl)).toSentOther
    · have hforward : SentOther client (forwardLiveInput engine host _ daemon input nowMonoMs).2.1 :=
        hinput.trans (forwardLiveInput_only _ daemon input nowMonoMs).toSentOther
      split
      case h_1 heq => rwa [heq] at hforward
      case h_2 heq => rwa [heq] at hforward
  | ping ping => exact hanswer _ _ rfl

theorem drainLiveClientFrames_other (nowMonoMs : UInt64) (drain : ClientDrain)
    (reads : List (Except ServeError LiveClientRead)) :
    SentOther client (drainLiveClientFrames engine host nowMonoMs client daemon drain reads).2.1 := by
  induction reads generalizing client daemon drain with
  | nil => exact .refl client
  | cons read rest ih =>
    match read with
    | .error error => exact .refl client
    | .ok .closed => exact .refl client
    | .ok (.frame frame) =>
      have hframe : SentOther client (drainFrame engine host client daemon drain nowMonoMs frame).2.1 :=
        drainFrame_other client daemon drain nowMonoMs frame
      unfold drainLiveClientFrames
      split
      case h_1 heq => rwa [heq] at hframe
      case h_2 heq => rwa [heq] at hframe
      case h_3 heq =>
        rw [heq] at hframe
        exact hframe.trans (ih _ _ _)

/-- The clients that are drained are those there were, in order. -/
theorem drainReadableClients_other (reads : Nat → Option ClientReads) (index : Nat)
    (clients : List LiveAttachedClient) (round : LiveRound) :
    List.Forall₂ SentOther clients
      (drainReadableClients engine host reads index clients daemon round).2.1.all := by
  induction clients generalizing index daemon round with
  | nil => exact .nil
  | cons client rest ih =>
    unfold drainReadableClients
    split
    · exact .cons (.refl client) (ih daemon (index + 1) round)
    case h_2 clientReads _ =>
      have hdrain : SentOther client (drainLiveClientFrames engine host clientReads.nowMonoMs client daemon
          .none clientReads.frames).2.1 := drainLiveClientFrames_other client daemon _ _ _
      dsimp only
      split
      · refine .cons hdrain ?_
        show List.Forall₂ SentOther rest (MarkedClients.unmarked rest).all
        rw [MarkedClients.all_unmarked]
        exact List.forall₂_same.mpr fun client _ => .refl client
      · exact .cons hdrain (ih _ (index + 1) _)

/-! ### Rounds -/

namespace LiveLoop

variable {config : LiveConfig} {inputs : RoundInputs} {loop after : LiveLoop σ η}

theorem drain_clients {round : LiveRound} {marked : MarkedClients}
    (h : loop.drain engine host inputs = (.ok (round, marked), after)) :
    after.clients = marked.all := by
  unfold drain at h
  split at h <;> cases h
  rfl

/-- The clients are who they were, in order, with the inventory and the viewports they had. -/
structure SameClients (loop after : LiveLoop σ η) : Prop where
  clients : List.Forall₂ Unmoved loop.clients after.clients
  inventoryVersion : after.inventoryVersion = loop.inventoryVersion
  nextConnectionId : after.nextConnectionId = loop.nextConnectionId

theorem SameClients.of_clients (hclients : after.clients = loop.clients)
    (hversion : after.inventoryVersion = loop.inventoryVersion)
    (hnext : after.nextConnectionId = loop.nextConnectionId) : SameClients loop after :=
  ⟨hclients ▸ List.forall₂_same.mpr fun client _ => .refl client, hversion, hnext⟩

theorem reportHostError_sameClients (loop : LiveLoop σ η) (error : HostError) :
    SameClients loop (loop.reportHostError error) := by
  refine ⟨?_, rfl, rfl⟩
  exact List.forall₂_map_right_iff.mpr (List.forall₂_same.mpr fun client _ =>
    (client.queueReliableFrame_only rfl).unmoved)

/-- A broadcast sends no inventory, and leaves the clients in their order. -/
theorem broadcast_unmoved (session : Session) (changedWorkspace : Bool) (paneIds : List String)
    (complete : LiveAttachedClient → LiveAttachedClient × Bool)
    (hcomplete : ∀ client, Unmoved client (complete client).1) (marked : MarkedClients) :
    List.Forall₂ Unmoved marked.all
      (broadcast session changedWorkspace paneIds complete marked).2.all := by
  induction marked with
  | nil => exact .nil
  | cons head rest ih =>
    obtain ⟨client, leaves⟩ := head
    have hsent := (client.writeChanges_only session changedWorkspace paneIds).unmoved
    unfold broadcast
    split
    case h_1 heq =>
      rw [heq] at hsent
      split
      · exact .cons hsent ih
      · exact .cons hsent (List.forall₂_same.mpr fun client _ => .refl client)
    case h_2 heq =>
      rw [heq] at hsent
      exact .cons (hsent.trans (hcomplete _)) ih

theorem completeCycle_unmoved (config : LiveConfig) (happened hostOutput : Bool)
    (client : LiveAttachedClient) :
    Unmoved client (client.completeCycle config happened hostOutput).1 := by
  unfold LiveAttachedClient.completeCycle
  dsimp only
  split
  · exact ⟨⟨rfl, rfl, rfl, rfl⟩, rfl, rfl⟩
  · exact .refl client

theorem firstOutput_sameClients (loop : LiveLoop σ η) (round : LiveRound) :
    SameClients loop (loop.firstOutput engine host config inputs round).2 := by
  unfold firstOutput
  dsimp only
  split
  · split
    case h_1 daemon _ =>
      have hreport := reportHostError_sameClients { loop with daemon }
      exact ⟨(hreport _).clients, rfl, rfl⟩
    · exact .of_clients rfl rfl rfl
    case h_3 daemon _ =>
      split
      · exact .of_clients rfl rfl rfl
      · have hkept := broadcast_unmoved daemon.session round.changedWorkspace
          loop.daemon.session.leafPaneIds (·, false) (fun client => .refl client) (.unmarked loop.clients)
        rw [MarkedClients.all_unmarked] at hkept
        split
        case h_1 heq =>
          rw [heq] at hkept
          exact ⟨hkept, rfl, rfl⟩
        case h_2 heq =>
          rw [heq] at hkept
          exact ⟨hkept, rfl, rfl⟩
  · exact .of_clients rfl rfl rfl

theorem firstOutput_clients {round : LiveRound} {output : OutputRound}
    (h : loop.firstOutput engine host config inputs round = (.ok output, after)) :
    after.clients = output.clients.all := by
  unfold firstOutput at h
  dsimp only at h
  split at h
  · split at h
    · cases h
    · cases h
      exact (MarkedClients.all_unmarked _).symm
    · split at h
      · cases h
        exact (MarkedClients.all_unmarked _).symm
      · split at h <;> cases h
        rfl
  · cases h
    exact (MarkedClients.all_unmarked _).symm

theorem quietOutput_sameClients (loop : LiveLoop σ η) (round : LiveRound) (leafPaneIds : List String)
    (output : OutputRound) :
    SameClients loop (loop.quietOutput engine host config inputs round leafPaneIds output).2 := by
  unfold quietOutput
  split
  · exact .of_clients rfl rfl rfl
  · split
    case h_1 daemon _ =>
      have hreport := reportHostError_sameClients { loop with daemon }
      exact ⟨(hreport _).clients, rfl, rfl⟩
    · exact .of_clients rfl rfl rfl

theorem quietOutput_clients {round : LiveRound} {leafPaneIds : List String} {output quiet : OutputRound}
    (hclients : loop.clients = output.clients.all)
    (h : loop.quietOutput engine host config inputs round leafPaneIds output = (.ok quiet, after)) :
    after.clients = quiet.clients.all := by
  unfold quietOutput at h
  split at h
  · cases h
    exact hclients
  · split at h <;> cases h
    exact hclients

theorem publish_sameClients (round : LiveRound) (leafPaneIds : List String) {output : OutputRound}
    (hclients : loop.clients = output.clients.all) :
    SameClients loop (loop.publish config inputs round leafPaneIds output).2 := by
  have hkept (happened : Bool) := broadcast_unmoved loop.daemon.session output.changedWorkspace
    leafPaneIds _ (completeCycle_unmoved config happened inputs.hostOutput) output.clients
  rw [← hclients] at hkept
  have hsent := hkept (round.hadInput || output.outputChanged || output.changedWorkspace)
  unfold publish
  dsimp only
  split
  case h_1 heq =>
    rw [heq] at hsent
    exact ⟨hsent, rfl, rfl⟩
  case h_2 heq =>
    rw [heq] at hsent
    exact ⟨hsent, rfl, rfl⟩

theorem publish_clients {round : LiveRound} {leafPaneIds : List String} {output : OutputRound}
    {marked : MarkedClients}
    (h : loop.publish config inputs round leafPaneIds output = (.ok marked, after)) :
    after.clients = marked.all := by
  unfold publish at h
  dsimp only at h
  split at h <;> cases h
  rfl

theorem serveClients_clients {marked : MarkedClients}
    (h : loop.serveClients engine host config inputs = (.ok marked, after)) :
    after.clients = marked.all := by
  unfold serveClients at h
  split at h
  · cases h
  · split at h
    · cases h
    · dsimp only at h
      split at h
      · cases h
      · split at h
        · cases h
        · exact publish_clients h

end LiveLoop

end

end Nmux.Live
