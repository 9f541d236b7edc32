import Nmux.Live.Rounds
import Nmux.Live.Watched

/-! The panes that the loop calls the host for. Containers have no process. As long as the clients name
none of them, and no control command changes what panes there are, every call the loop makes on a
running pane is for a pane that is a leaf: the frames it serves at once, the viewports it keeps and
applies later, also for clients that are gone, and all its polls. -/
namespace Nmux.Live

open Daemon (ServesPanes PaneAllowed PollAllowed)

/-- A call for a pane that was a leaf when it was made. -/
def LeafCall {η : Type} (call : HostCall η) : Prop := call.paneId ∈ call.leafPaneIds

/-- The frame names no container, and input is for a pane there is. -/
def LiveClientFrame.NamesLeaves (session : Session) : LiveClientFrame → Prop
  | .resize intent => (session.surfaceVersion intent.paneId).isSome = true →
    intent.paneId ∈ session.leafPaneIds
  | .input typed => typed.paneId ∈ session.leafPaneIds
  | _ => True

/-- So do all frames that clients have to be read in a round, which finds no control command. -/
structure RoundInputs.NamesLeaves (session : Session) (inputs : RoundInputs) : Prop where
  commands : ∀ arrival ∈ inputs.arrivals, ∀ command, arrival.initial ≠ .ok (.control command)
  frames : ∀ index clientReads, inputs.reads index = some clientReads →
    ∀ frame, .ok (.frame frame) ∈ clientReads.frames → frame.NamesLeaves session

/-- The viewports the client has are for leaves. -/
def ViewportsOn (leafPaneIds : List String) (client : LiveAttachedClient) : Prop :=
  ∀ paneId, (client.frontendResizeConstraints.get? paneId).isSome = true → paneId ∈ leafPaneIds

theorem ViewportsOn.of_eq {leafPaneIds : List String} {client after : LiveAttachedClient}
    (h : ViewportsOn leafPaneIds client)
    (hviewports : after.frontendResizeConstraints = client.frontendResizeConstraints) :
    ViewportsOn leafPaneIds after := fun paneId hsome => h paneId (hviewports ▸ hsome)

theorem ViewportsOn.empty {leafPaneIds : List String} {client : LiveAttachedClient}
    (hviewports : client.frontendResizeConstraints = .empty) : ViewportsOn leafPaneIds client := by
  intro paneId hsome
  rw [hviewports] at hsome
  cases hsome

theorem ViewportsOn.kept {leafPaneIds : List String} {clients after : List LiveAttachedClient}
    (h : ∀ client ∈ clients, ViewportsOn leafPaneIds client)
    (hkept : List.Forall₂ (fun client after => after.frontendResizeConstraints =
      client.frontendResizeConstraints) clients after) :
    ∀ client ∈ after, ViewportsOn leafPaneIds client := by
  induction hkept with
  | nil => exact h
  | cons head _ ih =>
    obtain ⟨hfirst, hrest⟩ := List.forall_mem_cons.mp h
    exact List.forall_mem_cons.mpr ⟨hfirst.of_eq head, ih hrest⟩

theorem ViewportsOn.told {leafPaneIds : List String} {clients after : List LiveAttachedClient}
    (h : ∀ client ∈ clients, ViewportsOn leafPaneIds client) (htold : List.Forall₂ Told clients after) :
    ∀ client ∈ after, ViewportsOn leafPaneIds client :=
  .kept h (htold.imp fun _ _ told => told.viewports)

theorem ViewportsOn.unmoved {leafPaneIds : List String} {clients after : List LiveAttachedClient}
    (h : ∀ client ∈ clients, ViewportsOn leafPaneIds client)
    (hunmoved : List.Forall₂ Unmoved clients after) :
    ∀ client ∈ after, ViewportsOn leafPaneIds client :=
  .kept h (hunmoved.imp fun _ _ unmoved => unmoved.frontendResizeConstraints)

section
variable {σ η : Type} {engine : TerminalEngine σ} {host : ProcessHost η} {daemon reached : Daemon σ η}
  {client : LiveAttachedClient}

/-- The server adds to the calls only what is allowed. -/
theorem serves_calls {okEvent : Session → SessionEvent → Prop} {okCall : HostCall η → Prop}
    (h : Daemon.Serves engine okEvent okCall daemon reached) (hcalls : ∀ call ∈ daemon.calls, okCall call) :
    ∀ call ∈ reached.calls, okCall call := by
  induction h with
  | refl => exact hcalls
  | event _ _ _ ih => exact ih
  | host _ calls _ ok ih =>
    intro call hmem
    rcases List.mem_append.mp hmem with hmem | hmem
    · exact ih call hmem
    · exact ok call hmem
  | engine _ _ _ _ ih => exact ih

theorem leavesPolled_leafCall (host : ProcessHost η) : LeavesPolled host LeafCall :=
  fun _ _ hmem => ⟨fun _ => hmem, fun _ _ => hmem⟩

theorem paneAllowed_leafCall {paneId : String} {leafPaneIds : List String} (hmem : paneId ∈ leafPaneIds) :
    PaneAllowed host LeafCall paneId leafPaneIds :=
  ⟨fun _ _ _ => hmem, fun _ _ => hmem⟩

/-- Viewports of leaves may be applied. -/
theorem viewportsAllowed_leafCall {clients : List LiveAttachedClient} {session : Session}
    (h : ∀ client ∈ clients, ViewportsOn session.leafPaneIds client) (paneIds : List String) :
    ViewportsAllowed host LeafCall clients session paneIds := by
  intro paneId _ size hsmallest
  refine .inr (paneAllowed_leafCall ?_)
  obtain ⟨width, hwidth, -⟩ := List.mem_map.mp (smallest_eq_some.mp hsmallest).cols_mem
  obtain ⟨client, hclient, -, hget⟩ := mem_readWriteFrontendResizes.mp hwidth
  exact h client hclient paneId (by rw [hget]; rfl)

/-- The daemon has these panes, and has only been called for leaves. -/
structure OnLeaves (panes : List (Bool × String)) (daemon : Daemon σ η) : Prop where
  idle : daemon.actor.Idle
  panes : daemon.session.shape.panes = panes
  calls : ∀ call ∈ daemon.calls, LeafCall call

/-- The names of the panes that are leaves. -/
def leafNames (panes : List (Bool × String)) : List String := (panes.filter (·.1)).map (·.2)

namespace OnLeaves

variable {panes : List (Bool × String)}

theorem leafPaneIds (h : OnLeaves panes daemon) : daemon.session.leafPaneIds = leafNames panes := by
  rw [Session.leafPaneIds_shape, h.panes]
  rfl

theorem serves (h : OnLeaves panes daemon) (hserves : ServesPanes engine LeafCall daemon reached) :
    OnLeaves panes reached where
  idle := hserves.idle h.idle
  panes := by rw [hserves.shape, h.panes]
  calls := serves_calls hserves h.calls

/-- What a frame may name depends on the panes alone. -/
theorem namesLeaves {session : Session} (h : OnLeaves session.shape.panes daemon)
    {frame : LiveClientFrame} (hframe : frame.NamesLeaves session) :
    frame.NamesLeaves daemon.session := by
  have hleaves : daemon.session.leafPaneIds = session.leafPaneIds := by
    rw [h.leafPaneIds, Session.leafPaneIds_shape]
    rfl
  cases frame with
  | resize resize =>
    intro hsome
    rw [hleaves]
    exact hframe (by rw [Session.surfaceVersion_isSome, ← h.panes, ← Session.surfaceVersion_isSome, hsome])
  | input input =>
    show input.paneId ∈ daemon.session.leafPaneIds
    rw [hleaves]
    exact hframe
  | scrollback => trivial
  | ping => trivial

end OnLeaves

/-! ### Frames -/

theorem frameAllowed_leafCall {frame : LiveClientFrame} (hframe : frame.NamesLeaves daemon.session) :
    FrameAllowed host LeafCall client daemon frame := by
  cases frame with
  | resize resize => exact fun _ hpane _ _ => paneAllowed_leafCall (hframe hpane)
  | input input => exact fun _ _ _ _ _ => hframe
  | scrollback => trivial
  | ping => trivial

/-- After a frame the client's viewports are for leaves, and so is the input that was seen. -/
theorem drainFrame_viewportsOn {drain : ClientDrain} {nowMonoMs : UInt64} {frame : LiveClientFrame}
    (hframe : frame.NamesLeaves daemon.session)
    (hviewports : ViewportsOn daemon.session.leafPaneIds client) :
    ViewportsOn daemon.session.leafPaneIds
        (drainFrame engine host client daemon drain nowMonoMs frame).2.1 ∧
      ∀ next, (drainFrame engine host client daemon drain nowMonoMs frame).1 = .next next →
        ∀ paneId ∈ next.inputPaneIds, paneId ∈ drain.inputPaneIds ∨
          paneId ∈ daemon.session.leafPaneIds := by
  have hanswered (sent : LiveAttachedClient) (hsent : ViewportsOn daemon.session.leafPaneIds sent)
      (after : FrameResult) (frame : ServerFrame) (reached : Daemon σ η) :
      ViewportsOn daemon.session.leafPaneIds
        (answered after (sent.queueReliableFrame frame) reached).2.1 := by
    have htold := sent.queueReliableFrame_told frame
    generalize sent.queueReliableFrame frame = answer at htold ⊢
    obtain ⟨error | _, answering⟩ := answer <;> exact hsent.of_eq htold.viewports
  have hnext (result : FrameResult) (hresult : result = .closed ∨ result = .next drain)
      (answer : Except ServeError Unit × LiveAttachedClient) (reached : Daemon σ η) :
      ∀ next, (answered result answer reached).1 = .next next → ∀ paneId ∈ next.inputPaneIds,
        paneId ∈ drain.inputPaneIds ∨ paneId ∈ daemon.session.leafPaneIds := by
    intro next heq paneId hmem
    obtain ⟨error | _, answering⟩ := answer
    · cases heq
    · rcases hresult with rfl | rfl <;> cases heq
      exact .inl hmem
  have hseen : ViewportsOn daemon.session.leafPaneIds { client with lastSeenMonoMs := nowMonoMs } :=
    hviewports
  cases frame with
  | resize resize =>
    unfold drainFrame drainResize
    dsimp only
    split
    · exact ⟨hanswered _ hseen _ _ _, hnext _ (.inl rfl) _ _⟩
    split
    · exact ⟨hanswered _ hseen _ _ _, hnext _ (.inl rfl) _ _⟩
    case isFalse hpane =>
      have hleaf := hframe (by simpa [Option.isSome_iff_ne_none] using hpane)
      split
      · exact ⟨hseen, fun next heq paneId hmem => by cases heq; exact .inl hmem⟩
      split
      · refine ⟨fun paneId hsome => ?_, fun next heq paneId hmem => by cases heq; exact .inl hmem⟩
        rw [Lib.OrderedMap.get?_insert] at hsome
        split at hsome
        case isTrue heq => exact heq ▸ hleaf
        case isFalse => exact hviewports paneId hsome
      split
      · exact ⟨hanswered _ hseen _ _ _, hnext _ (.inl rfl) _ _⟩
      split
      · exact ⟨hseen, fun next heq => by cases heq⟩
      · exact ⟨hseen, fun next heq paneId hmem => by cases heq; exact .inl hmem⟩
  | scrollback fetch =>
    unfold drainFrame drainScrollback
    dsimp only
    split
    · exact ⟨hanswered _ hseen _ _ _, hnext _ (.inr rfl) _ _⟩
    split
    · exact ⟨hanswered _ hseen _ _ _, hnext _ (.inl rfl) _ _⟩
    · exact ⟨hanswered _ hseen _ _ _, hnext _ (.inr rfl) _ _⟩
  | input input =>
    obtain ⟨-, hsame, -⟩ : NoViewport client drain _
        (drainInput engine host client daemon drain input nowMonoMs).2.1 :=
      drainInput_noViewport input nowMonoMs
    refine ⟨hviewports.of_eq hsame, fun next heq paneId hmem => ?_⟩
    unfold drainFrame drainInput at heq
    dsimp only at heq
    split at heq
    · exact hnext _ (.inl rfl) _ _ next heq paneId hmem
    · split at heq <;> cases heq
      rcases List.mem_append.mp hmem with hmem | hmem
      · exact .inl hmem
      · exact .inr (List.mem_singleton.mp hmem ▸ hframe)
  | ping ping => exact ⟨hanswered _ hseen _ _ _, hnext _ (.inr rfl) _ _⟩

/-- The frames of a client that name leaves are allowed to the end, and leave its viewports and what it
wrote to on leaves. -/
theorem drainLiveClientFrames_onLeaves {session : Session} {drain : ClientDrain} {nowMonoMs : UInt64}
    {reads : List (Except ServeError LiveClientRead)} (h : OnLeaves session.shape.panes daemon)
    (hframes : ∀ frame, .ok (.frame frame) ∈ reads → frame.NamesLeaves session)
    (hviewports : ViewportsOn session.leafPaneIds client)
    (hdrain : ∀ paneId ∈ drain.inputPaneIds, paneId ∈ session.leafPaneIds) :
    FramesAllowed engine host (FrameAllowed host LeafCall) nowMonoMs client daemon drain reads ∧
      ViewportsOn session.leafPaneIds
        (drainLiveClientFrames engine host nowMonoMs client daemon drain reads).2.1 ∧
      ∀ drained closes, (drainLiveClientFrames engine host nowMonoMs client daemon drain reads).1 =
        .ok (.open drained closes) → ∀ paneId ∈ drained.inputPaneIds, paneId ∈ session.leafPaneIds := by
  induction reads generalizing client daemon drain with
  | nil =>
    refine ⟨trivial, hviewports, fun drained closes heq => ?_⟩
    cases heq
    exact hdrain
  | cons read rest ih =>
    obtain error | frame | _ := read
    · exact ⟨trivial, hviewports, fun drained closes heq => by cases heq⟩
    · have hleaves : daemon.session.leafPaneIds = session.leafPaneIds := by
        rw [h.leafPaneIds, Session.leafPaneIds_shape]
        rfl
      have hframe := h.namesLeaves (hframes frame List.mem_cons_self)
      have hallowed : FrameAllowed host LeafCall client daemon frame := frameAllowed_leafCall hframe
      have hserved : OnLeaves session.shape.panes
          (drainFrame engine host client daemon drain nowMonoMs frame).2.2 :=
        h.serves (drainFrame_servesPanes h.idle client drain nowMonoMs hallowed)
      obtain ⟨hkept, hseen⟩ : ViewportsOn daemon.session.leafPaneIds
          (drainFrame engine host client daemon drain nowMonoMs frame).2.1 ∧ _ :=
        drainFrame_viewportsOn hframe (hleaves.symm ▸ hviewports)
      rw [hleaves] at hkept
      have hrest (next : ClientDrain) (after : LiveAttachedClient) (reached : Daemon σ η)
          (heq : drainFrame engine host client daemon drain nowMonoMs frame =
            (.next next, after, reached)) :=
        @ih reached after next (by rw [heq] at hserved; exact hserved)
          (fun frame hmem => hframes frame (List.mem_cons_of_mem _ hmem))
          (by rw [heq] at hkept; exact hkept) fun paneId hmem => by
            rcases hseen next (congrArg Prod.fst heq) paneId hmem with hold | hnew
            · exact hdrain paneId hold
            · exact hleaves ▸ hnew
      refine ⟨⟨hallowed, fun next after reached heq => (hrest next after reached heq).1⟩, ?_⟩
      unfold drainLiveClientFrames
      split
      case h_1 heq =>
        rw [heq] at hkept
        exact ⟨hkept, fun drained closes heq => by cases heq⟩
      case h_2 heq =>
        rw [heq] at hkept
        exact ⟨hkept, fun drained closes heq => by cases heq⟩
      case h_3 heq => exact (hrest _ _ _ heq).2
    · refine ⟨trivial, hviewports, fun drained closes heq => ?_⟩
      cases heq
      exact hdrain

theorem drained_inputPaneIds {leafPaneIds : List String} {round after : LiveRound}
    {status : Except ServeError ClientDrainStatus} {leaves : Bool}
    (hround : ∀ paneId ∈ round.inputPaneIds, paneId ∈ leafPaneIds)
    (hopen : ∀ drain closes, status = .ok (.open drain closes) →
      ∀ paneId ∈ drain.inputPaneIds, paneId ∈ leafPaneIds)
    (hdrained : round.drained client status = .ok (after, leaves)) :
    ∀ paneId ∈ after.inputPaneIds, paneId ∈ leafPaneIds := by
  obtain error | ⟨drain, closes⟩ | _ := status
  · dsimp only [LiveRound.drained] at hdrained
    split at hdrained <;> cases hdrained
    exact hround
  · cases hdrained
    intro paneId hmem
    rcases List.mem_append.mp hmem with hmem | hmem
    · exact hround paneId hmem
    · exact hopen _ _ rfl paneId hmem
  · cases hdrained
    exact hround

/-- So of all clients that are read. -/
theorem drainReadableClients_onLeaves {session : Session} {reads : Nat → Option ClientReads} {index : Nat}
    {clients : List LiveAttachedClient} {round : LiveRound} (h : OnLeaves session.shape.panes daemon)
    (hframes : ∀ index clientReads, reads index = some clientReads →
      ∀ frame, .ok (.frame frame) ∈ clientReads.frames → frame.NamesLeaves session)
    (hviewports : ∀ client ∈ clients, ViewportsOn session.leafPaneIds client)
    (hround : ∀ paneId ∈ round.inputPaneIds, paneId ∈ session.leafPaneIds) :
    DrainsAllowed engine host (fun client daemon clientReads => FramesAllowed engine host
        (FrameAllowed host LeafCall) clientReads.nowMonoMs client daemon .none clientReads.frames) reads
        index clients daemon ∧
      ∀ drained marked reached, drainReadableClients engine host reads index clients daemon round =
          (.ok drained, marked, reached) →
        (∀ client ∈ marked.all, ViewportsOn session.leafPaneIds client) ∧
          ∀ paneId ∈ drained.inputPaneIds, paneId ∈ session.leafPaneIds := by
  induction clients generalizing index daemon round with
  | nil =>
    refine ⟨trivial, fun drained marked reached heq => ?_⟩
    cases heq
    exact ⟨hviewports, hround⟩
  | cons client rest ih =>
    obtain ⟨hclient, hothers⟩ := List.forall_mem_cons.mp hviewports
    have hnothing : ∀ paneId ∈ ClientDrain.none.inputPaneIds, paneId ∈ session.leafPaneIds :=
      fun _ hmem => absurd hmem List.not_mem_nil
    unfold DrainsAllowed
    refine ⟨?_, fun drained marked reached heq => ?_⟩
    · split
      case h_1 => exact (ih h hothers hround).1
      case h_2 clientReads hsome =>
        obtain ⟨hallowed, -, -⟩ : FramesAllowed engine host (FrameAllowed host LeafCall)
            clientReads.nowMonoMs client daemon .none clientReads.frames ∧ _ :=
          drainLiveClientFrames_onLeaves h (hframes _ _ hsome) hclient hnothing
        exact ⟨hallowed, (ih (h.serves (drainLiveClientFrames_servesPanes h.idle hallowed)) hothers
          hround).1⟩
    · rcases drainReadableClients_cons heq with ⟨-, others, rfl, hrest⟩ |
        ⟨clientReads, middle, leaves, others, hsome, hdrained, rfl, hrest⟩
      · obtain ⟨hkept, hseen⟩ := (ih h hothers hround).2 _ _ _ hrest
        exact ⟨List.forall_mem_cons.mpr ⟨hclient, hkept⟩, hseen⟩
      · obtain ⟨hallowed, hafter, hopen⟩ : FramesAllowed engine host (FrameAllowed host LeafCall)
            clientReads.nowMonoMs client daemon .none clientReads.frames ∧ _ :=
          drainLiveClientFrames_onLeaves h (hframes _ _ hsome) hclient hnothing
        have hmiddle : ∀ paneId ∈ middle.inputPaneIds, paneId ∈ session.leafPaneIds :=
          drained_inputPaneIds hround hopen hdrained
        obtain ⟨hkept, hseen⟩ := (ih (h.serves (drainLiveClientFrames_servesPanes h.idle hallowed)) hothers
          hmiddle).2 _ _ _ hrest
        exact ⟨List.forall_mem_cons.mpr ⟨hafter, hkept⟩, hseen⟩

/-! ### Connections -/

/-- A connection that is no control command is served with polls of leaves, and a client it attaches has
no viewport. -/
theorem acceptLiveClient_onLeaves {panes : List (Bool × String)} {arrival : Arrival}
    {connectionId : String} (h : OnLeaves panes daemon)
    (hcommand : ∀ command, arrival.initial ≠ .ok (.control command)) :
    OnLeaves panes (acceptLiveClient engine host arrival connectionId daemon).2 := by
  have hpolled (daemon : Daemon σ η) (h : OnLeaves panes daemon) (leafPaneIds : List String)
      (hleaves : leafPaneIds = daemon.session.leafPaneIds) (nowMonoMs : UInt64) : OnLeaves panes
      (daemon.pollPanesUntilQuiet engine host leafPaneIds nowMonoMs arrival.reads arrival.rounds).2 :=
    h.serves (Daemon.pollPanesUntilQuiet_servesPanes h.idle _ _ _ fun paneId hmem =>
      leavesPolled_leafCall host paneId _ (hleaves ▸ hmem))
  unfold acceptLiveClient
  dsimp only
  split
  · exact h
  case h_2 hcontrol => exact absurd hcontrol (hcommand _)
  case h_3 probe _ =>
    have hprobe : OnLeaves panes (serveHealthProbe engine host (.fresh arrival.writes) probe daemon
        arrival.reads arrival.rounds).2.2 := by
      have hpoll := hpolled daemon h _ rfl 0
      unfold serveHealthProbe
      split
      · exact h
      split
      all_goals
        rename_i heq
        rw [heq] at hpoll
      · exact hpoll
      · split <;> exact ⟨hpoll.idle, hpoll.panes, hpoll.calls⟩
    split
    all_goals
      rename_i heq
      rw [heq] at hprobe
      exact hprobe
  case h_4 targetSessionId request _ =>
    split
    · exact h
    · have hnodes : (request.targetPaneId daemon.session).1.nodes = daemon.session.nodes := by
        rcases targetPaneId_session request daemon.session with hsame | ⟨tabId, hswitch⟩
        · rw [hsame]
        · rw [hswitch, Session.switchTab_nodes]
      have htarget : OnLeaves panes (daemon.setSession (request.targetPaneId daemon.session).1) := by
        refine ⟨h.idle, ?_, h.calls⟩
        rw [← h.panes, ← Session.nodes_shape, ← Session.nodes_shape]
        exact congrArg (List.map PaneNode.shape) hnodes
      split
      case h_1 session paneId heq =>
        rw [heq] at htarget
        have hpoll := hpolled _ htarget daemon.session.leafPaneIds
          (h.leafPaneIds.trans htarget.leafPaneIds.symm) arrival.nowMonoMs
        unfold attachLiveClient
        dsimp only
        split
        all_goals
          rename_i heq
          rw [heq] at hpoll
          split <;> exact hpoll
      case h_2 session heq =>
        rw [heq] at htarget
        split <;> exact htarget

namespace LiveLoop

variable {config : LiveConfig} {inputs : RoundInputs} {loop after : LiveLoop σ η} {session : Session}

/-- The loop has the panes of the session, was only called for leaves, and keeps viewports of leaves. -/
structure OnLeaves (session : Session) (loop : LiveLoop σ η) : Prop where
  daemon : Live.OnLeaves session.shape.panes loop.daemon
  viewports : ∀ client ∈ loop.clients, ViewportsOn session.leafPaneIds client

theorem OnLeaves.acceptArrival {arrival : Arrival} (h : loop.OnLeaves session)
    (hcommand : ∀ command, arrival.initial ≠ .ok (.control command)) :
    Live.OnLeaves session.shape.panes (loop.acceptArrival engine host arrival).2.daemon ∧
      ∀ next, loop.acceptArrival engine host arrival = (.ok (), next) → next.OnLeaves session := by
  have haccept : Live.OnLeaves session.shape.panes (acceptLiveClient engine host arrival
      ("conn-" ++ toString loop.nextConnectionId) loop.daemon).2 :=
    acceptLiveClient_onLeaves h.daemon hcommand
  unfold LiveLoop.acceptArrival
  split
  case h_1 heq =>
    rw [heq] at haccept
    exact ⟨haccept, fun next hnext => by cases hnext⟩
  case h_2 heq =>
    rw [heq] at haccept
    exact ⟨haccept, fun next hnext => by cases hnext⟩
  case h_3 heq =>
    rw [heq] at haccept
    refine ⟨haccept, fun next hnext => ?_⟩
    cases hnext
    exact ⟨haccept, h.viewports⟩
  case h_4 client reached heq =>
    rw [heq] at haccept
    obtain ⟨-, -, -, -, hclient⟩ := acceptLiveClient_attached heq
    have hdaemon := join_daemon { loop with daemon := reached } client
    split
    case h_1 hjoin =>
      rw [hjoin] at hdaemon
      exact ⟨hdaemon ▸ haccept, fun next hnext => by cases hnext⟩
    case h_2 hjoin =>
      rw [hjoin] at hdaemon
      refine ⟨hdaemon ▸ haccept, fun next hnext => ?_⟩
      cases hnext
      obtain ⟨others, joined, hclients, hothers, hjoined, -⟩ := join_ok hjoin
      refine ⟨hdaemon ▸ haccept, fun sent hmem => ?_⟩
      rw [hclients] at hmem
      rcases List.mem_append.mp hmem with hmem | hmem
      · exact ViewportsOn.told h.viewports hothers sent hmem
      · obtain rfl := List.mem_singleton.mp hmem
        exact .empty (hjoined.viewports.trans hclient)

theorem OnLeaves.acceptArrivals {arrivals : List Arrival} (h : loop.OnLeaves session)
    (hcommands : ∀ arrival ∈ arrivals, ∀ command, arrival.initial ≠ .ok (.control command)) :
    Live.OnLeaves session.shape.panes (loop.acceptArrivals engine host config arrivals).2.daemon ∧
      ∀ next, loop.acceptArrivals engine host config arrivals = (.ok (), next) →
        next.OnLeaves session := by
  have hdone (loop : LiveLoop σ η) (h : loop.OnLeaves session) :
      Live.OnLeaves session.shape.panes loop.daemon ∧
        ∀ next, ((.ok (), loop) : Except LiveExit Unit × LiveLoop σ η) = (.ok (), next) →
          next.OnLeaves session := by
    refine ⟨h.daemon, fun next hnext => ?_⟩
    cases hnext
    exact h
  induction arrivals generalizing loop with
  | nil => exact hdone loop h
  | cons arrival rest ih =>
    obtain ⟨hfirst, hrest⟩ := List.forall_mem_cons.mp hcommands
    obtain ⟨hdaemon, hjoined⟩ := h.acceptArrival hfirst
    unfold LiveLoop.acceptArrivals
    split
    · split
      case h_1 heq =>
        rw [heq] at hdaemon
        exact ⟨hdaemon, fun next hnext => by cases hnext⟩
      case h_2 heq => exact ih (hjoined _ heq) hrest
    · exact hdone loop h

/-! ### Rounds -/

theorem viewports_staying {leafPaneIds : List String} {marked : MarkedClients}
    (h : ∀ client ∈ marked.all, ViewportsOn leafPaneIds client) :
    ∀ client ∈ marked.staying, ViewportsOn leafPaneIds client := by
  intro client hmem
  obtain ⟨entry, hentry, rfl⟩ := List.mem_map.mp hmem
  exact h _ (List.mem_map_of_mem (List.mem_filter.mp hentry).1)

/-- What is drained, sized and polled of a round may be, and its clients keep to leaves once drained. -/
theorem OnLeaves.clientsAllowed (h : loop.OnLeaves session) (hinputs : inputs.NamesLeaves session) :
    loop.ClientsAllowed engine host LeafCall inputs ∧
      ∀ round marked drained, loop.drain engine host inputs = (.ok (round, marked), drained) →
        ∀ client ∈ marked.all, ViewportsOn session.leafPaneIds client := by
  have hleaves : loop.daemon.session.leafPaneIds = session.leafPaneIds := by
    rw [h.daemon.leafPaneIds, Session.leafPaneIds_shape]
    rfl
  have hnothing : ∀ paneId ∈ LiveRound.none.inputPaneIds, paneId ∈ session.leafPaneIds :=
    fun _ hmem => absurd hmem List.not_mem_nil
  obtain ⟨hdrains, hdrained⟩ : DrainsAllowed engine host (fun client daemon clientReads => FramesAllowed
      engine host (FrameAllowed host LeafCall) clientReads.nowMonoMs client daemon .none
      clientReads.frames) inputs.reads 0 loop.clients loop.daemon ∧ _ :=
    drainReadableClients_onLeaves h.daemon hinputs.frames h.viewports hnothing
  have hmarked (round : LiveRound) (marked : MarkedClients) (drained : LiveLoop σ η)
      (heq : loop.drain engine host inputs = (.ok (round, marked), drained)) :
      Live.OnLeaves session.shape.panes drained.daemon ∧
        (∀ client ∈ marked.all, ViewportsOn session.leafPaneIds client) ∧
        ∀ paneId ∈ round.inputPaneIds, paneId ∈ session.leafPaneIds := by
    have hserves := drain_servesPanes h.daemon.idle hdrains
    rw [heq] at hserves
    obtain ⟨reached, hread, -⟩ := drain_ok heq
    exact ⟨h.daemon.serves hserves, hdrained _ _ _ hread⟩
  refine ⟨⟨hdrains, fun round marked drained heq => ?_, fun round marked drained heq paneId hmem => ?_⟩,
    fun round marked drained heq => (hmarked round marked drained heq).2.1⟩
  · obtain ⟨hdaemon, hclients, -⟩ := hmarked round marked drained heq
    have hsame : drained.daemon.session.leafPaneIds = session.leafPaneIds := by
      rw [hdaemon.leafPaneIds, Session.leafPaneIds_shape]
      rfl
    have hfirst : ViewportsAllowed host LeafCall marked.all drained.daemon.session
        (sortDedup round.frontendResizePaneIds) := viewportsAllowed_leafCall (hsame ▸ hclients) _
    have hsized : ServesPanes engine LeafCall drained.daemon _ :=
      applyFrontendResizes_servesPanes inputs.nowMonoMs hdaemon.idle hfirst
    refine ⟨hfirst, viewportsAllowed_leafCall ?_ _⟩
    rw [hsized.leafPaneIds, hsame]
    exact viewports_staying hclients
  · obtain ⟨-, -, hinput⟩ := hmarked round marked drained heq
    exact leavesPolled_leafCall host paneId _ (hleaves.symm ▸ hinput paneId hmem)

/-- From its drains to its broadcast a round calls for leaves, and its clients keep to them. -/
theorem OnLeaves.serveClients (h : loop.OnLeaves session) (hinputs : inputs.NamesLeaves session) :
    Live.OnLeaves session.shape.panes (loop.serveClients engine host config inputs).2.daemon ∧
      ∀ marked served, loop.serveClients engine host config inputs = (.ok marked, served) →
        ∀ client ∈ marked.all, ViewportsOn session.leafPaneIds client := by
  obtain ⟨hallowed, hdrained⟩ : loop.ClientsAllowed engine host LeafCall inputs ∧ _ :=
    h.clientsAllowed hinputs
  refine ⟨h.daemon.serves (serveClients_servesPanes h.daemon.idle (leavesPolled_leafCall host) hallowed),
    fun marked served heq => ?_⟩
  obtain ⟨round, drained, drainedLoop, settled, settledLoop, output, outputLoop, quiet, quietLoop, hdrain,
    hsettle, hfirst, hquiet, hpublish⟩ := serveClients_ok heq
  obtain ⟨_, _, sent, _, _, -, hsent, -, hafter, -⟩ := settle_ok hsettle
  have hstaying := viewports_staying (hdrained _ _ _ hdrain)
  have hsettled := ViewportsOn.told (ViewportsOn.told hstaying hsent.clients) hafter.clients
  have hfirstSame : SameClients settledLoop
      (settledLoop.firstOutput engine host config inputs settled).2 := firstOutput_sameClients _ _
  rw [hfirst] at hfirstSame
  have hquietSame : SameClients outputLoop (outputLoop.quietOutput engine host config inputs settled
      settledLoop.daemon.session.leafPaneIds output).2 := quietOutput_sameClients _ _ _ _
  rw [hquiet] at hquietSame
  have hpublishSame : SameClients quietLoop (quietLoop.publish config inputs settled
      settledLoop.daemon.session.leafPaneIds quiet).2 :=
    publish_sameClients settled _ (quietOutput_clients (firstOutput_clients hfirst) hquiet)
  rw [hpublish] at hpublishSame
  rw [← publish_clients hpublish]
  exact .unmoved (.unmoved (.unmoved hsettled hfirstSame.clients) hquietSame.clients) hpublishSame.clients

theorem OnLeaves.depart {marked : MarkedClients} (h : Live.OnLeaves session.shape.panes loop.daemon)
    (hmarked : ∀ client ∈ marked.all, ViewportsOn session.leafPaneIds client) :
    Live.OnLeaves session.shape.panes (loop.depart engine host inputs marked).2.daemon ∧
      ∀ next, loop.depart engine host inputs marked = (.ok (), next) → next.OnLeaves session := by
  have hleaves : loop.daemon.session.leafPaneIds = session.leafPaneIds := by
    rw [h.leafPaneIds, Session.leafPaneIds_shape]
    rfl
  have hstaying := viewports_staying hmarked
  have hdepart : Live.OnLeaves session.shape.panes (loop.depart engine host inputs marked).2.daemon :=
    h.serves (depart_servesPanes h.idle (viewportsAllowed_leafCall (hleaves ▸ hstaying) _))
  refine ⟨hdepart, fun next hnext => ?_⟩
  obtain ⟨_, _, -, htold⟩ := depart_ok hnext
  rw [hnext] at hdepart
  exact ⟨hdepart, ViewportsOn.told hstaying htold.clients⟩

theorem OnLeaves.round (h : loop.OnLeaves session) (hinputs : inputs.NamesLeaves session) :
    Live.OnLeaves session.shape.panes (loop.round engine host config inputs).2.daemon ∧
      ∀ next, loop.round engine host config inputs = (.ok (), next) → next.OnLeaves session := by
  unfold LiveLoop.round
  split
  case isFalse => exact ⟨h.daemon, fun next hnext => by cases hnext⟩
  case isTrue =>
    obtain ⟨haccepted, hjoined⟩ : Live.OnLeaves session.shape.panes
        (loop.acceptArrivals engine host config inputs.arrivals).2.daemon ∧ _ :=
      h.acceptArrivals hinputs.commands
    split
    case h_1 heq =>
      rw [heq] at haccepted
      exact ⟨haccepted, fun next hnext => by cases hnext⟩
    case h_2 accepted heq =>
      obtain ⟨hserved, hmarked⟩ : Live.OnLeaves session.shape.panes
          (accepted.serveClients engine host config inputs).2.daemon ∧ _ :=
        (hjoined _ heq).serveClients hinputs
      split
      case h_1 heq =>
        rw [heq] at hserved
        exact ⟨hserved, fun next hnext => by cases hnext⟩
      case h_2 heq =>
        rw [heq] at hserved
        exact OnLeaves.depart hserved (hmarked _ _ heq)

end LiveLoop

end

/-- A client asks for a viewport of the first pane and types into it, and is gone. -/
def leafRounds : List RoundInputs := [
  plainRound [plainArrival (.attach none plainRequest)] [],
  { plainRound [] [] with
    reads
      | 0 => some ⟨(viewportRead 100 30).frames ++
          [.ok (.frame (.input ⟨"pane-1", "actor", 1, "", [97], none, none, 0, none, false, false⟩))], 0⟩
      | _ => none
    outputReads := 1 },
  closingRound]

end Nmux.Live
