import Nmux.Live.Sent

/-! The inventory of attached clients as its subscribers are sent it. A client that joins is sent a
snapshot, and every change after that is a patch of the version before; so a subscriber that reads its
stream in order never refuses a patch, and after a round knows the clients there are. -/
namespace Nmux.Live

open Client (InventoryFrame inventoryFrame? InStep Chained ClientInventoryCache)

/-- The client takes every frame, and if it subscribed it is in step with the inventory. -/
structure Replicates (version : Nat) (connectionIds : List String) (client : LiveAttachedClient) :
    Prop where
  takes : ∀ n, client.transport.refuses n = none
  inStep : client.inventorySubscribed = true → InStep version connectionIds client.inventoryStream

namespace Replicates

variable {version : Nat} {connectionIds : List String} {client after : LiveAttachedClient}

theorem kept (h : Replicates version connectionIds client) (hkept : InventoryKept client after) :
    Replicates version connectionIds after where
  takes n := by
    rw [hkept.transport]
    exact h.takes n
  inStep hsubscribed := by
    rw [hkept.inventoryStream]
    exact h.inStep (hkept.inventorySubscribed ▸ hsubscribed)

theorem congr {others : List String} (h : Replicates version connectionIds client)
    (hids : ∀ id, id ∈ others ↔ id ∈ connectionIds) : Replicates version others client :=
  ⟨h.takes, fun hsubscribed => (h.inStep hsubscribed).congr hids⟩

theorem queue (h : Replicates version connectionIds client) (frame : ServerFrame) :
    client.queueReliableFrame frame = (.ok (), client.take frame) := by
  unfold LiveAttachedClient.queueReliableFrame
  rw [h.takes]

end Replicates

/-- What a subscriber is sent. -/
def LiveAttachedClient.takeSubscribed (frame : ServerFrame) (client : LiveAttachedClient) :
    LiveAttachedClient :=
  if client.inventorySubscribed then client.take frame else client

@[simp] theorem LiveAttachedClient.takeSubscribed_connectionId (frame : ServerFrame)
    (client : LiveAttachedClient) :
    (client.takeSubscribed frame).connectionId = client.connectionId := by
  unfold takeSubscribed
  split <;> rfl

theorem writeToSubscribers_takes {version : Nat} {connectionIds : List String} (frame : ServerFrame)
    {clients : List LiveAttachedClient}
    (h : ∀ client ∈ clients, Replicates version connectionIds client) :
    writeToSubscribers frame clients = (.ok (), clients.map (·.takeSubscribed frame)) := by
  induction clients with
  | nil => rfl
  | cons client rest ih =>
    have hrest := ih fun other hmem => h other (List.mem_cons_of_mem _ hmem)
    unfold writeToSubscribers
    rw [(h client List.mem_cons_self).queue, hrest, List.map_cons]
    unfold LiveAttachedClient.takeSubscribed
    cases client.inventorySubscribed <;> rfl

/-! ### Lists of clients -/

theorem connectionIds_kept {clients after : List LiveAttachedClient}
    (h : List.Forall₂ InventoryKept clients after) :
    after.map LiveAttachedClient.connectionId = clients.map LiveAttachedClient.connectionId := by
  induction h with
  | nil => rfl
  | cons head _ ih => rw [List.map_cons, List.map_cons, head.connectionId, ih]

theorem exists_kept {clients after : List LiveAttachedClient}
    (h : List.Forall₂ InventoryKept clients after) {client : LiveAttachedClient}
    (hmem : client ∈ after) : ∃ before ∈ clients, InventoryKept before client := by
  induction h with
  | nil => cases hmem
  | cons head _ ih =>
    rcases List.mem_cons.mp hmem with rfl | hmem
    · exact ⟨_, List.mem_cons_self, head⟩
    · obtain ⟨before, hbefore, hkept⟩ := ih hmem
      exact ⟨before, List.mem_cons_of_mem _ hbefore, hkept⟩

namespace LiveLoop

variable {σ η : Type} {loop : LiveLoop σ η}

/-- A change that is published takes every subscriber to the next version, and to the clients that
remain. -/
theorem publishInventory_replicates (loop : LiveLoop σ η)
    (joined updated : List ClientConnectionSummary) (leftConnectionIds : List String)
    {connectionIds remaining : List String}
    (hids : ∀ id, id ∈ remaining ↔ id ∈ connectionIds ∧ id ∉ leftConnectionIds ∨
      id ∈ joined.map ClientConnectionSummary.connectionId ∨
      id ∈ updated.map ClientConnectionSummary.connectionId)
    (h : ∀ client ∈ loop.clients, Replicates loop.inventoryVersion connectionIds client) :
    ∃ published, loop.publishInventory joined updated leftConnectionIds = (.ok (), published) ∧
      published.clients.map LiveAttachedClient.connectionId =
        loop.clients.map LiveAttachedClient.connectionId ∧
      published.nextConnectionId = loop.nextConnectionId ∧
      ∀ client ∈ published.clients, Replicates published.inventoryVersion remaining client := by
  unfold publishInventory
  by_cases hnone : (joined.isEmpty && updated.isEmpty && leftConnectionIds.isEmpty) = true
  · rw [if_pos hnone]
    refine ⟨loop, rfl, rfl, rfl, fun client hmem => (h client hmem).congr fun id => ?_⟩
    simp only [Bool.and_eq_true, List.isEmpty_iff] at hnone
    rw [hids, hnone.1.1, hnone.1.2, hnone.2]
    simp
  rw [if_neg hnone]
  unfold writeClientInventoryPatch
  rw [if_neg hnone, writeToSubscribers_takes _ h]
  refine ⟨_, rfl, ?_, rfl, fun client hmem => ?_⟩
  · dsimp only
    rw [List.map_map]
    exact List.map_congr_left fun client _ => client.takeSubscribed_connectionId _
  obtain ⟨before, hbefore, rfl⟩ := List.mem_map.mp hmem
  have hreplicates := h before hbefore
  unfold LiveAttachedClient.takeSubscribed
  split
  case isTrue hsubscribed =>
    refine ⟨hreplicates.takes, fun _ => ?_⟩
    rw [LiveAttachedClient.take_inventoryStream]
    exact (hreplicates.inStep hsubscribed).patch hids
  case isFalse hunsubscribed =>
    exact ⟨hreplicates.takes, fun hsubscribed => absurd hsubscribed hunsubscribed⟩

/-! ### The loop -/

/-- The clients have names of their own, and each is in step with the inventory of all of them. -/
structure Inventoried (loop : LiveLoop σ η) : Prop where
  nodup : (loop.clients.map LiveAttachedClient.connectionId).Nodup
  named : ∀ id ∈ loop.clients.map LiveAttachedClient.connectionId,
    ∃ n < loop.nextConnectionId, id = "conn-" ++ toString n
  replicates : ∀ client ∈ loop.clients,
    Replicates loop.inventoryVersion (loop.clients.map LiveAttachedClient.connectionId) client

/-- Nothing that becomes of the clients but what they are sent otherwise changes who is in step. -/
theorem Inventoried.kept {after : LiveLoop σ η} (h : loop.Inventoried)
    (hkept : List.Forall₂ InventoryKept loop.clients after.clients)
    (hversion : after.inventoryVersion = loop.inventoryVersion)
    (hnext : after.nextConnectionId = loop.nextConnectionId) : after.Inventoried := by
  have hids : after.clients.map LiveAttachedClient.connectionId =
      loop.clients.map LiveAttachedClient.connectionId := connectionIds_kept hkept
  refine ⟨hids ▸ h.nodup, hids ▸ hnext ▸ h.named, fun client hmem => ?_⟩
  obtain ⟨before, hbefore, hclient⟩ := exists_kept hkept hmem
  rw [hversion, hids]
  exact (h.replicates before hbefore).kept hclient

/-- A client is sent the whole inventory, if it subscribed. -/
theorem writeSnapshot_replicates (version : Nat) {client : LiveAttachedClient}
    (clients : List ClientConnectionSummary) (htakes : ∀ n, client.transport.refuses n = none)
    (hstream : client.inventoryStream = []) :
    ∃ sent, client.writeClientInventorySnapshot version clients = (.ok (), sent) ∧
      sent.connectionId = client.connectionId ∧
      Replicates version (clients.map ClientConnectionSummary.connectionId) sent := by
  unfold LiveAttachedClient.writeClientInventorySnapshot
  split
  case isTrue =>
    unfold LiveAttachedClient.queueReliableFrame
    rw [htakes]
    refine ⟨_, rfl, rfl, htakes, fun _ => ?_⟩
    rw [LiveAttachedClient.take_inventoryStream, hstream]
    exact .start clients
  case isFalse hunsubscribed =>
    exact ⟨client, rfl, rfl, htakes, fun hsubscribed => absurd hsubscribed hunsubscribed⟩

/-- A client that joins is in step at once, and the others learn of it. -/
theorem join_inventoried {client : LiveAttachedClient} (h : loop.Inventoried)
    (hid : client.connectionId = "conn-" ++ toString loop.nextConnectionId)
    (htakes : ∀ n, client.transport.refuses n = none) (hstream : client.inventoryStream = []) :
    ∃ joined, loop.join client = (.ok (), joined) ∧ joined.Inventoried := by
  have hshown : List.Forall₂ InventoryKept loop.clients
      (loop.clients.map fun existing => existing.writePresence client.actor) :=
    List.forall₂_map_right_iff.mpr
      (List.forall₂_same.mpr fun existing _ => (existing.writePresence_only client.actor).toInventoryKept)
  have hnew : client.connectionId ∉ loop.clients.map LiveAttachedClient.connectionId := by
    intro hmem
    obtain ⟨n, hn, hname⟩ := h.named _ hmem
    rw [hid] at hname
    exact hn.ne' (numbered_injective "conn-" hname)
  have hothers : ∀ shown ∈ loop.clients.map fun existing => existing.writePresence client.actor,
      Replicates loop.inventoryVersion (loop.clients.map LiveAttachedClient.connectionId) shown := by
    intro shown hmem
    obtain ⟨before, hbefore, hkept⟩ := exists_kept hshown hmem
    exact (h.replicates before hbefore).kept hkept
  have hremaining : ∀ id,
      id ∈ loop.clients.map LiveAttachedClient.connectionId ++ [client.connectionId] ↔
        id ∈ loop.clients.map LiveAttachedClient.connectionId ∧ id ∉ [] ∨
          id ∈ [client.inventoryEntry].map ClientConnectionSummary.connectionId ∨
          id ∈ ([] : List ClientConnectionSummary).map ClientConnectionSummary.connectionId := by
    simp [LiveAttachedClient.inventoryEntry]
  obtain ⟨published, hpublished, hids, hnext, hreplicates⟩ := publishInventory_replicates
    { loop with
      acceptedClients := loop.acceptedClients + 1
      nextConnectionId := loop.nextConnectionId + 1
      clients := loop.clients.map fun existing => existing.writePresence client.actor }
    [client.inventoryEntry] [] [] hremaining hothers
  unfold join
  dsimp only
  rw [hpublished]
  dsimp only at hids hnext ⊢
  rw [connectionIds_kept hshown] at hids
  have hadded := client.writePresences_only (loop.clients.map LiveAttachedClient.actor)
  obtain ⟨sent, hsent, hsame, hsnapshot⟩ := writeSnapshot_replicates published.inventoryVersion
    ((published.clients ++ [(loop.clients.map LiveAttachedClient.actor).foldl
      LiveAttachedClient.writePresence client]).map LiveAttachedClient.inventoryEntry)
    (fun n => hadded.transport ▸ htakes n) (hadded.inventoryStream.trans hstream)
  rw [hsent]
  have hentries : published.clients.map
      (ClientConnectionSummary.connectionId ∘ LiveAttachedClient.inventoryEntry) =
        loop.clients.map LiveAttachedClient.connectionId := hids
  have hall : (published.clients ++ [sent]).map LiveAttachedClient.connectionId =
      loop.clients.map LiveAttachedClient.connectionId ++ [client.connectionId] := by
    rw [List.map_append, hids, List.map_singleton, hsame, hadded.connectionId]
  refine ⟨_, rfl, ?_, ?_, ?_⟩
  · dsimp only
    rw [hall]
    exact List.nodup_append.mpr ⟨h.nodup, List.nodup_singleton _, fun id hid' other hother hsame' =>
      hnew (List.mem_singleton.mp hother ▸ hsame' ▸ hid')⟩
  · dsimp only
    rw [hall, hnext]
    intro id hmem
    rcases List.mem_append.mp hmem with hmem | hmem
    · obtain ⟨n, hn, hname⟩ := h.named id hmem
      exact ⟨n, Nat.lt_succ_of_lt hn, hname⟩
    · exact ⟨_, Nat.lt_succ_self _, (List.mem_singleton.mp hmem).trans hid⟩
  · dsimp only
    rw [hall]
    intro joined hmem
    rcases List.mem_append.mp hmem with hmem | hmem
    · exact hreplicates joined hmem
    · obtain rfl := List.mem_singleton.mp hmem
      refine hsnapshot.congr fun id => ?_
      rw [List.map_map, List.map_append, hentries]
      show _ ↔ id ∈ _ ++ [LiveAttachedClient.connectionId _]
      rw [hadded.connectionId]

end LiveLoop

/-! ### Accepting -/

/-- Nothing that is queued for the client is refused, nor written to it if it attaches. -/
structure Arrival.Accepts (arrival : Arrival) : Prop where
  sends : ∀ n, arrival.sends n = none
  writes : ∀ targetSessionId request, arrival.initial = .ok (.attach targetSessionId request) →
    ∀ n, arrival.writes n = none

section
variable {σ η : Type} {engine : TerminalEngine σ} {host : ProcessHost η}

/-- An attached client has the name it is given, and was sent nothing of the inventory yet. -/
structure FreshClient (connectionId : String) (client : LiveAttachedClient) : Prop where
  connectionId : client.connectionId = connectionId
  takes : ∀ n, client.transport.refuses n = none
  inventoryStream : client.inventoryStream = []

theorem liveAttachInitialFrames_other (session : Session) (request : AttachRequest) (paneId : String) :
    (liveAttachInitialFrames session request paneId).filterMap inventoryFrame? = [] := by
  unfold liveAttachInitialFrames
  dsimp only
  rw [List.filterMap_append]
  cases (request.surfaceResponse session paneId).bind fun response =>
    LiveAttachedClient.surfaceResponseFrame session paneId response 4 <;> rfl

theorem ClientStream.write_other (stream : ClientStream) {frame : ServerFrame}
    (hframe : inventoryFrame? frame = none) :
    (stream.write frame).2.written.filterMap inventoryFrame? =
      stream.written.filterMap inventoryFrame? := by
  unfold write
  split
  · rfl
  · show (stream.written ++ [frame]).filterMap inventoryFrame? = _
    rw [List.filterMap_append, List.filterMap_cons, hframe]
    exact List.append_nil _

theorem ClientStream.writeTargetNotFoundError_other (stream : ClientStream) (session : Session)
    (focusedPaneId : Option String) :
    (stream.writeTargetNotFoundError session focusedPaneId).2.written.filterMap inventoryFrame? =
      stream.written.filterMap inventoryFrame? := by
  unfold writeTargetNotFoundError
  split
  · exact stream.write_other rfl
  · unfold writeActivePaneNotFoundError
    split <;> exact stream.write_other rfl

theorem Arrival.legacyClient_fresh {arrival : Arrival} (hwrites : ∀ n, arrival.writes n = none)
    (request : AttachRequest) (connectionId : String) (actor : Nmux.Actor) {stream : ClientStream}
    (hstream : stream.written.filterMap inventoryFrame? = []) :
    FreshClient connectionId (arrival.legacyClient request connectionId actor stream) where
  connectionId := rfl
  takes n := by
    show (arrival.writes n).map ServeError.wire = none
    rw [hwrites]
    rfl
  inventoryStream := hstream

theorem attachLiveClient_fresh {arrival : Arrival} {request : AttachRequest}
    {connectionId paneId : String} {leafPaneIds : List String} {daemon reached : Daemon σ η}
    {client : LiveAttachedClient} (hsends : ∀ n, arrival.sends n = none)
    (hwrites : ∀ n, arrival.writes n = none)
    (h : attachLiveClient engine host arrival request connectionId paneId leafPaneIds daemon =
      (.ok (.attached client), reached)) : FreshClient connectionId client := by
  unfold attachLiveClient at h
  dsimp only at h
  split at h
  case h_1 error _ _ =>
    have hstream : ((ClientStream.fresh arrival.writes).writeHostOutputError (hostErrorPaneId error)
        error).2.written.filterMap inventoryFrame? = [] := ClientStream.write_other _ rfl
    split at h
    · cases h
    case h_2 stream hwritten =>
      cases h
      refine arrival.legacyClient_fresh hwrites _ _ _ ?_
      rwa [show _ = stream from congrArg Prod.snd hwritten] at hstream
  · split at h
    · cases h
    case h_2 stream hwritten =>
      cases h
      refine ⟨rfl, fun n => ?_, ?_⟩
      · show (arrival.sends n).map liveClientOutputError = none
        rw [hsends]
        rfl
      · show stream.written.filterMap inventoryFrame? = []
        rw [ClientStream.writeAll_ok hwritten]
        exact liveAttachInitialFrames_other _ _ _

theorem acceptLiveClient_fresh {arrival : Arrival} {connectionId : String} {daemon reached : Daemon σ η}
    {client : LiveAttachedClient} (haccepts : arrival.Accepts)
    (h : acceptLiveClient engine host arrival connectionId daemon = (.ok (.attached client), reached)) :
    FreshClient connectionId client := by
  unfold acceptLiveClient at h
  dsimp only at h
  split at h
  · cases h
  · split at h <;> cases h
  · split at h <;> cases h
  case h_4 targetSessionId request hinitial =>
    have hwrites := haccepts.writes _ _ hinitial
    split at h
    case h_1 target _ =>
      have hwritten := congrArg Prod.fst h
      cases hrejected : ((ClientStream.fresh arrival.writes).writeProtocolError .sessionNotFound
        ("session not found: " ++ target) none 0).1 <;> simp [hrejected, Except.map] at hwritten
    · split at h
      · exact attachLiveClient_fresh haccepts.sends hwrites h
      case h_2 session _ =>
        have hstream := (ClientStream.fresh arrival.writes).writeTargetNotFoundError_other session
          request.focusedPaneId
        split at h
        · cases h
        case h_2 stream hwritten =>
          cases h
          refine arrival.legacyClient_fresh hwrites _ _ _ ?_
          rwa [show _ = stream from congrArg Prod.snd hwritten] at hstream

namespace LiveLoop

variable {config : LiveConfig} {inputs : RoundInputs} {loop after : LiveLoop σ η}

/-- Only the clients matter. -/
theorem Inventoried.of_clients (h : loop.Inventoried)
    (hclients : after.clients = loop.clients) (hversion : after.inventoryVersion = loop.inventoryVersion)
    (hnext : after.nextConnectionId = loop.nextConnectionId) : after.Inventoried :=
  h.kept (hclients ▸ List.forall₂_same.mpr fun client _ => .refl client) hversion hnext

theorem acceptArrival_inventoried {arrival : Arrival} (h : loop.Inventoried) (haccepts : arrival.Accepts) :
    (loop.acceptArrival engine host arrival).2.Inventoried := by
  unfold acceptArrival
  split
  · exact h.of_clients rfl rfl rfl
  · exact h.of_clients rfl rfl rfl
  · exact h.of_clients rfl rfl rfl
  case h_4 client daemon haccept =>
    have hfresh := acceptLiveClient_fresh haccepts haccept
    have hdaemon : { loop with daemon }.Inventoried := h.of_clients rfl rfl rfl
    obtain ⟨joined, hjoin, hjoined⟩ := join_inventoried hdaemon hfresh.connectionId hfresh.takes
      hfresh.inventoryStream
    rw [hjoin]
    exact hjoined

theorem acceptArrivals_inventoried {arrivals : List Arrival} (h : loop.Inventoried)
    (haccepts : ∀ arrival ∈ arrivals, arrival.Accepts) :
    (loop.acceptArrivals engine host config arrivals).2.Inventoried := by
  induction arrivals generalizing loop with
  | nil => exact h
  | cons arrival rest ih =>
    have hfirst : (loop.acceptArrival engine host arrival).2.Inventoried :=
      acceptArrival_inventoried h (haccepts arrival List.mem_cons_self)
    unfold acceptArrivals
    split
    · split
      case h_1 heq => rwa [heq] at hfirst
      case h_2 heq =>
        rw [heq] at hfirst
        exact ih hfirst fun arrival hmem => haccepts arrival (List.mem_cons_of_mem _ hmem)
    · exact h

/-! ### Rounds -/

theorem forall_kept {clients after : List LiveAttachedClient} (h : List.Forall₂ SentOther clients after) :
    List.Forall₂ InventoryKept clients after := h.imp fun _ _ hsent => hsent.toInventoryKept

/-- What is read of the clients is no inventory. -/
theorem drain_inventoried (h : loop.Inventoried) : (loop.drain engine host inputs).2.Inventoried := by
  have hdrained : List.Forall₂ SentOther loop.clients (drainReadableClients engine host inputs.reads 0
      loop.clients loop.daemon .none).2.1.all := drainReadableClients_other _ _ _ _ _
  unfold drain
  split
  case h_1 heq =>
    rw [heq] at hdrained
    exact h.kept (forall_kept hdrained) rfl rfl
  case h_2 heq =>
    rw [heq] at hdrained
    exact h.kept (forall_kept hdrained) rfl rfl

/-- Who stays has a name that nobody who leaves has. -/
theorem mem_staying {marked : MarkedClients}
    (hnodup : (marked.all.map LiveAttachedClient.connectionId).Nodup) (id : String) :
    id ∈ marked.staying.map LiveAttachedClient.connectionId ↔
      id ∈ marked.all.map LiveAttachedClient.connectionId ∧
        id ∉ marked.leaving.map LiveAttachedClient.connectionId := by
  rw [MarkedClients.all, List.map_map] at hnodup
  have hinjective := List.inj_on_of_nodup_map hnodup
  simp only [MarkedClients.staying, MarkedClients.leaving, MarkedClients.all, List.map_map, List.mem_map,
    List.mem_filter, Function.comp_apply]
  constructor
  · rintro ⟨client, ⟨hmem, hstays⟩, rfl⟩
    refine ⟨⟨client, hmem, rfl⟩, ?_⟩
    rintro ⟨other, ⟨hother, hleaves⟩, hsame⟩
    rw [hinjective hother hmem hsame] at hleaves
    simp [hleaves] at hstays
  · rintro ⟨⟨client, hmem, rfl⟩, hstays⟩
    refine ⟨client, ⟨hmem, ?_⟩, rfl⟩
    cases hleaves : client.2 with
    | false => rfl
    | true => exact absurd ⟨client, ⟨hmem, hleaves⟩, rfl⟩ hstays

/-- What is published of the clients that remain brings the loop to them. -/
theorem Inventoried.publish {joined updated : List ClientConnectionSummary}
    {leftConnectionIds : List String} (h : loop.Inventoried)
    {clients : List LiveAttachedClient} (hsublist : clients.Sublist loop.clients)
    (hids : ∀ id, id ∈ clients.map LiveAttachedClient.connectionId ↔
      id ∈ loop.clients.map LiveAttachedClient.connectionId ∧ id ∉ leftConnectionIds ∨
        id ∈ joined.map ClientConnectionSummary.connectionId ∨
        id ∈ updated.map ClientConnectionSummary.connectionId) :
    ∃ published, { loop with clients }.publishInventory joined updated leftConnectionIds =
      (.ok (), published) ∧ published.Inventoried := by
  obtain ⟨published, hpublished, hsame, hnext, hreplicates⟩ := publishInventory_replicates
    { loop with clients } joined updated leftConnectionIds hids
    fun client hmem => h.replicates client (hsublist.subset hmem)
  refine ⟨published, hpublished, ?_, ?_, hsame ▸ hreplicates⟩
  · rw [hsame]
    exact h.nodup.sublist (hsublist.map _)
  · rw [hsame, hnext]
    exact fun id hmem => h.named id ((hsublist.map _).subset hmem)

/-- Clients leave, and the others are told. -/
theorem leave_inventoried {marked : MarkedClients} (h : loop.Inventoried)
    (hclients : loop.clients = marked.all) :
    ∃ left, { loop with clients := marked.staying }.publishInventory [] []
        (marked.leaving.map LiveAttachedClient.connectionId) = (.ok (), left) ∧ left.Inventoried := by
  refine h.publish ?_ fun id => ?_
  · rw [hclients]
    exact List.filter_sublist.map _
  · rw [mem_staying (hclients ▸ h.nodup), hclients]
    simp

/-- Clients that the loop has are told of again, and nobody is missed. -/
theorem update_inventoried (updates : List ClientConnectionSummary) (h : loop.Inventoried) :
    ∃ updated, loop.publishInventory [] (updates.filter fun updated =>
        loop.clients.any (·.connectionId == updated.connectionId)) [] = (.ok (), updated) ∧
      updated.Inventoried := by
  refine h.publish (List.Sublist.refl loop.clients) fun id => ⟨fun hmem => .inl ⟨hmem, List.not_mem_nil⟩, ?_⟩
  rintro (⟨hmem, -⟩ | hmem | hmem)
  · exact hmem
  · cases hmem
  · obtain ⟨update, hupdate, rfl⟩ := List.mem_map.mp hmem
    obtain ⟨client, hclient, hsame⟩ := List.any_eq_true.mp (List.mem_filter.mp hupdate).2
    exact List.mem_map.mpr ⟨client, hclient, beq_iff_eq.mp hsame⟩

theorem settle_inventoried {round : LiveRound} {marked : MarkedClients} (h : loop.Inventoried)
    (hclients : loop.clients = marked.all) :
    (loop.settle engine host inputs round marked).2.Inventoried := by
  unfold settle
  split
  · exact h.of_clients rfl rfl rfl
  case h_2 daemon _ =>
    have hdaemon : { loop with daemon }.Inventoried := h.of_clients rfl rfl rfl
    obtain ⟨left, hleave, hleft⟩ := leave_inventoried hdaemon hclients
    rw [hleave]
    dsimp only
    split
    · exact hleft.of_clients rfl rfl rfl
    case h_2 closed _ =>
      have hclosed : { left with daemon := closed }.Inventoried := hleft.of_clients rfl rfl rfl
      obtain ⟨updated, hupdate, hupdated⟩ := update_inventoried round.inventoryUpdates hclosed
      dsimp only at hupdate
      rw [hupdate]
      exact hupdated

/-- What is sent after the drains is no inventory. -/
theorem Inventoried.sameClients (h : loop.Inventoried) (hsame : SameClients loop after) :
    after.Inventoried :=
  h.kept (hsame.clients.imp fun _ _ hkept => hkept.toInventoryKept) hsame.inventoryVersion
    hsame.nextConnectionId

theorem serveClients_inventoried (h : loop.Inventoried) :
    (loop.serveClients engine host config inputs).2.Inventoried := by
  have hdrain : (loop.drain engine host inputs).2.Inventoried := drain_inventoried h
  unfold serveClients
  split
  case h_1 heq => rwa [heq] at hdrain
  case h_2 round marked drained hdrained =>
    rw [hdrained] at hdrain
    have hsettle : (drained.settle engine host inputs round marked).2.Inventoried :=
      settle_inventoried hdrain (drain_clients hdrained)
    split
    case h_1 heq => rwa [heq] at hsettle
    case h_2 settled loop heq =>
      rw [heq] at hsettle
      have hfirst : (loop.firstOutput engine host config inputs settled).2.Inventoried :=
        hsettle.sameClients (loop.firstOutput_sameClients settled)
      dsimp only
      split
      case h_1 heq => rwa [heq] at hfirst
      case h_2 output sent hsent =>
        rw [hsent] at hfirst
        have hquiet : (sent.quietOutput engine host config inputs settled loop.daemon.session.leafPaneIds
            output).2.Inventoried := hfirst.sameClients (sent.quietOutput_sameClients settled _ output)
        split
        case h_1 heq => rwa [heq] at hquiet
        case h_2 heq =>
          rw [heq] at hquiet
          exact hquiet.sameClients (publish_sameClients _ _
            (quietOutput_clients (firstOutput_clients hsent) heq))

end LiveLoop

/-! ### Streams -/

/-- A subscriber reads its stream, and every patch of it is of the version before. -/
def ReadsInventory (client : LiveAttachedClient) : Prop :=
  client.inventorySubscribed = true → Chained client.inventoryStream ∧
    ∃ cache, ClientInventoryCache.empty.applyAll client.inventoryStream = .ok cache

theorem Replicates.reads {version : Nat} {connectionIds : List String} {client : LiveAttachedClient}
    (h : Replicates version connectionIds client) : ReadsInventory client := by
  intro hsubscribed
  obtain ⟨cache, hread, -⟩ := (h.inStep hsubscribed).read
  exact ⟨(h.inStep hsubscribed).chained, cache, hread⟩

namespace LiveLoop

section
variable (engine host)

/-- The clients that leave in a round, with all they were sent. -/
def departing (config : LiveConfig) (inputs : RoundInputs) (loop : LiveLoop σ η) :
    List LiveAttachedClient :=
  if config.connectionLimit.acceptsMore loop.acceptedClients || !loop.clients.isEmpty then
    match loop.acceptArrivals engine host config inputs.arrivals with
    | (.error _, _) => []
    | (.ok _, loop) =>
      (match loop.drain engine host inputs with
        | (.error _, _) => []
        | (.ok (_, marked), _) => marked.leaving) ++
      (match loop.serveClients engine host config inputs with
        | (.error _, _) => []
        | (.ok marked, _) => marked.leaving)
  else []

/-- The clients that leave in the rounds, and those there are in the end. -/
def everAttached (config : LiveConfig) : List RoundInputs → LiveLoop σ η → List LiveAttachedClient
  | [], loop => loop.clients
  | inputs :: rest, loop => loop.departing engine host config inputs ++
    match loop.round engine host config inputs with
    | (.error _, loop) => loop.clients
    | (.ok _, loop) => everAttached config rest loop

end

variable {config : LiveConfig} {inputs : RoundInputs} {loop after : LiveLoop σ η}

theorem Inventoried.reads (h : loop.Inventoried) : ∀ client ∈ loop.clients, ReadsInventory client :=
  fun client hmem => (h.replicates client hmem).reads

/-- Those that leave are among those there are. -/
theorem Inventoried.reads_leaving (h : loop.Inventoried) {marked : MarkedClients}
    (hclients : loop.clients = marked.all) : ∀ client ∈ marked.leaving, ReadsInventory client := by
  intro client hmem
  refine h.reads client ?_
  rw [hclients]
  exact List.map_subset _ List.filter_sublist.subset hmem

theorem departing_reads (h : loop.Inventoried) (haccepts : ∀ arrival ∈ inputs.arrivals, arrival.Accepts) :
    ∀ client ∈ loop.departing engine host config inputs, ReadsInventory client := by
  have haccepted : (loop.acceptArrivals engine host config inputs.arrivals).2.Inventoried :=
    acceptArrivals_inventoried h haccepts
  unfold departing
  split
  · split
    · nofun
    case h_2 accepted heq =>
      rw [heq] at haccepted
      intro client hmem
      rcases List.mem_append.mp hmem with hmem | hmem
      · have hdrain : (accepted.drain engine host inputs).2.Inventoried := drain_inventoried haccepted
        split at hmem
        · cases hmem
        case h_2 heq =>
          rw [heq] at hdrain
          exact hdrain.reads_leaving (drain_clients heq) client hmem
      · have hserve : (accepted.serveClients engine host config inputs).2.Inventoried :=
          serveClients_inventoried haccepted
        split at hmem
        · cases hmem
        case h_2 heq =>
          rw [heq] at hserve
          exact hserve.reads_leaving (serveClients_clients heq) client hmem
  · nofun

/-- A departure that is cut short by the host has told nobody yet, and the streams are as they were. -/
theorem depart_reads {marked : MarkedClients} (h : loop.Inventoried)
    (hclients : loop.clients = marked.all) :
    ∀ client ∈ (loop.depart engine host inputs marked).2.clients, ReadsInventory client := by
  unfold depart
  dsimp only
  split
  · intro client hmem
    refine h.reads client ?_
    rw [hclients]
    exact List.map_subset _ List.filter_sublist.subset hmem
  case h_2 daemon _ =>
    have hdaemon : { loop with daemon }.Inventoried := h.of_clients rfl rfl rfl
    obtain ⟨left, hleave, hleft⟩ := leave_inventoried hdaemon hclients
    rw [hleave]
    exact hleft.reads

theorem depart_inventoried {marked : MarkedClients} (h : loop.Inventoried)
    (hclients : loop.clients = marked.all)
    (hdepart : loop.depart engine host inputs marked = (.ok (), after)) : after.Inventoried := by
  unfold depart at hdepart
  dsimp only at hdepart
  split at hdepart
  · cases hdepart
  case h_2 daemon _ =>
    have hdaemon : { loop with daemon }.Inventoried := h.of_clients rfl rfl rfl
    obtain ⟨left, hleave, hleft⟩ := leave_inventoried hdaemon hclients
    rw [hleave] at hdepart
    cases hdepart
    exact hleft

theorem round_reads (h : loop.Inventoried) (haccepts : ∀ arrival ∈ inputs.arrivals, arrival.Accepts) :
    ∀ client ∈ (loop.round engine host config inputs).2.clients, ReadsInventory client := by
  have haccepted : (loop.acceptArrivals engine host config inputs.arrivals).2.Inventoried :=
    acceptArrivals_inventoried h haccepts
  unfold round
  split
  · split
    case h_1 heq =>
      rw [heq] at haccepted
      exact haccepted.reads
    case h_2 accepted heq =>
      rw [heq] at haccepted
      have hserve : (accepted.serveClients engine host config inputs).2.Inventoried :=
        serveClients_inventoried haccepted
      split
      case h_1 heq =>
        rw [heq] at hserve
        exact hserve.reads
      case h_2 heq =>
        rw [heq] at hserve
        exact depart_reads hserve (serveClients_clients heq)
  · exact h.reads

theorem round_inventoried (h : loop.Inventoried)
    (haccepts : ∀ arrival ∈ inputs.arrivals, arrival.Accepts)
    (hround : loop.round engine host config inputs = (.ok (), after)) : after.Inventoried := by
  have haccepted : (loop.acceptArrivals engine host config inputs.arrivals).2.Inventoried :=
    acceptArrivals_inventoried h haccepts
  unfold round at hround
  split at hround
  · split at hround
    · cases hround
    case h_2 accepted heq =>
      rw [heq] at haccepted
      have hserve : (accepted.serveClients engine host config inputs).2.Inventoried :=
        serveClients_inventoried haccepted
      split at hround
      · cases hround
      case h_2 heq =>
        rw [heq] at hserve
        exact depart_inventoried hserve (serveClients_clients heq) hround
  · cases hround

theorem everAttached_reads {inputs : List RoundInputs} (h : loop.Inventoried)
    (haccepts : ∀ round ∈ inputs, ∀ arrival ∈ round.arrivals, arrival.Accepts) :
    ∀ client ∈ loop.everAttached engine host config inputs, ReadsInventory client := by
  induction inputs generalizing loop with
  | nil => exact h.reads
  | cons inputs rest ih =>
    obtain ⟨hfirst, hrest⟩ := List.forall_mem_cons.mp haccepts
    have hclients : ∀ client ∈ (loop.round engine host config inputs).2.clients, ReadsInventory client :=
      round_reads h hfirst
    unfold everAttached
    intro client hmem
    rcases List.mem_append.mp hmem with hmem | hmem
    · exact departing_reads h hfirst client hmem
    · split at hmem
      case h_1 heq =>
        rw [heq] at hclients
        exact hclients client hmem
      case h_2 heq => exact ih (round_inventoried h hfirst heq) hrest client hmem

theorem rounds_inventoried {inputs : List RoundInputs} (h : loop.Inventoried)
    (haccepts : ∀ round ∈ inputs, ∀ arrival ∈ round.arrivals, arrival.Accepts)
    (hrounds : loop.rounds engine host config inputs = (.ok (), after)) : after.Inventoried :=
  rounds_invariant (fun _ _ _ hloop hround hnext => round_inventoried hloop hround hnext) h
    (.of_forall haccepts) hrounds

end LiveLoop

/-- **Replicas of the inventory agree.** Whatever the clients do, each subscriber, also one that left,
was sent a stream it reads, in which every patch is of the version before; and after every round a
subscriber that reads its stream knows exactly the clients that are attached. -/
theorem client_inventories_agree (config : LiveConfig) (daemon : Daemon σ η) (inputs : List RoundInputs)
    (haccepts : ∀ round ∈ inputs, ∀ arrival ∈ round.arrivals, arrival.Accepts) :
    (∀ client ∈ (LiveLoop.start daemon).everAttached engine host config inputs,
      client.inventorySubscribed = true → Chained client.inventoryStream ∧
        ∃ cache, ClientInventoryCache.empty.applyAll client.inventoryStream = .ok cache) ∧
    ∀ after, (LiveLoop.start daemon).rounds engine host config inputs = (.ok (), after) →
      ∀ client ∈ after.clients, client.inventorySubscribed = true →
        ∃ cache, ClientInventoryCache.empty.applyAll client.inventoryStream = .ok cache ∧
          cache.connectionIds.Perm (after.clients.map LiveAttachedClient.connectionId) := by
  have hstart : (LiveLoop.start daemon).Inventoried :=
    ⟨List.nodup_nil, nofun, nofun⟩
  refine ⟨LiveLoop.everAttached_reads hstart haccepts, fun after hrounds client hmem hsubscribed => ?_⟩
  have hafter := LiveLoop.rounds_inventoried hstart haccepts hrounds
  obtain ⟨cache, hread, -, hids⟩ := ((hafter.replicates client hmem).inStep hsubscribed).read
  exact ⟨cache, hread, (List.perm_ext_iff_of_nodup cache.clients.keys_nodup hafter.nodup).mpr hids⟩

end

/-- A client that subscribes to the inventory. -/
def subscriber : Arrival :=
  plainArrival (.attach none { plainRequest with subscribeClientInventory := true })

/-- Two clients subscribe in one round. In the next the first says something and the second is gone. -/
def subscriberRounds : List RoundInputs := [
  plainRound [subscriber, subscriber] [],
  { plainRound [subscriber] [] with
    reads
      | 0 => some ⟨[.ok (.frame (.ping ⟨"actor", 1⟩))], 5⟩
      | 1 => some ⟨[.ok .closed], 5⟩
      | _ => none }]

/-- The loop after the second round, with its first and its third client. -/
def subscribedLoop : LiveLoop InterimAnsiState Unit :=
  (plainLoop.rounds interimTextTerminalEngine .quiet plainConfig subscriberRounds).2

theorem client_inventories_agree_subscribers :
    (∀ client ∈ plainLoop.everAttached interimTextTerminalEngine .quiet plainConfig subscriberRounds,
      client.inventorySubscribed = true → Chained client.inventoryStream ∧
        ∃ cache, ClientInventoryCache.empty.applyAll client.inventoryStream = .ok cache) ∧
    ∀ client ∈ subscribedLoop.clients, client.inventorySubscribed = true →
      ∃ cache, ClientInventoryCache.empty.applyAll client.inventoryStream = .ok cache ∧
        cache.connectionIds.Perm ["conn-1", "conn-3"] := by
  have haccepts : ∀ round ∈ subscriberRounds, ∀ arrival ∈ round.arrivals, arrival.Accepts := by
    intro round hround arrival harrival
    have hsubscriber : arrival = subscriber := by
      simp only [subscriberRounds, plainRound, List.mem_cons, List.not_mem_nil, or_false] at hround
      rcases hround with rfl | rfl
      · simpa using harrival
      · simpa using harrival
    subst hsubscriber
    exact ⟨fun _ => rfl, fun _ _ _ _ => rfl⟩
  have hrounds : plainLoop.rounds interimTextTerminalEngine .quiet plainConfig subscriberRounds =
      (.ok (), subscribedLoop) := by
    unfold subscribedLoop
    refine LiveLoop.rounds_of_ok ?_
    decide +kernel
  have hids : subscribedLoop.clients.map LiveAttachedClient.connectionId = ["conn-1", "conn-3"] := by
    decide +kernel
  obtain ⟨hever, hafter⟩ := client_inventories_agree plainConfig
    (.start interimTextTerminalEngine .initial 16 ()) subscriberRounds haccepts
  exact ⟨hever, hids ▸ hafter subscribedLoop hrounds⟩

end Nmux.Live
