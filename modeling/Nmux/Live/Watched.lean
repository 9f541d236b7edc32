import Nmux.Live.Observers
import Nmux.Live.Arbitration

/-! Two runs of the loop side by side. They find the same connections, the same of the host and the same
sent by the clients that may write; in what the other clients send, and in when these leave, they may
differ. Every phase of a round takes loops that are the same but for such clients to loops that are. -/
namespace Nmux.Live

open Lib (Aligned)

section
variable {σ η : Type} {engine : TerminalEngine σ} {host : ProcessHost η}

/-! ### The marked -/

theorem AlignedMarked.all {marked otherMarked : MarkedClients} (h : AlignedMarked marked otherMarked) :
    Aligned Observes SameWriter marked.all otherMarked.all :=
  h.map (fun _ hskip => ⟨hskip, hskip⟩) fun _ _ hsame => hsame.client

theorem AlignedMarked.staying {marked otherMarked : MarkedClients}
    (h : AlignedMarked marked otherMarked) :
    Aligned Observes SameWriter marked.staying otherMarked.staying := by
  have hfiltered : AlignedMarked (marked.filter (!·.2)) (otherMarked.filter (!·.2)) :=
    h.filter fun _ _ hsame => by rw [hsame.leaves]
  exact hfiltered.all

theorem AlignedMarked.leaving {marked otherMarked : MarkedClients}
    (h : AlignedMarked marked otherMarked) :
    Aligned Observes SameWriter marked.leaving otherMarked.leaving := by
  have hfiltered : AlignedMarked (marked.filter (·.2)) (otherMarked.filter (·.2)) :=
    h.filter fun _ _ hsame => hsame.leaves
  exact hfiltered.all

theorem AlignedMarked.unmarked {clients others : List LiveAttachedClient}
    (h : Aligned Observes SameWriter clients others) :
    AlignedMarked (.unmarked clients) (.unmarked others) :=
  h.map (fun _ hskip => ⟨hskip, hskip⟩) fun _ _ hsame => ⟨hsame, rfl⟩

section
variable {clients others : List LiveAttachedClient}

/-- Viewports of observers do not count. -/
theorem frontendResizeKeys_aligned (h : Aligned Observes SameWriter clients others) :
    frontendResizeKeys clients = frontendResizeKeys others := by
  refine h.flatMap_eq (fun client hobserves => ?_) fun client other hsame => ?_
  · rw [hobserves.viewports]
    rfl
  · rw [hsame.viewports]

theorem readWriteFrontendResizes_aligned (h : Aligned Observes SameWriter clients others)
    (paneId : String) :
    readWriteFrontendResizes clients paneId = readWriteFrontendResizes others paneId := by
  unfold readWriteFrontendResizes
  rw [List.filterMap_filter, List.filterMap_filter]
  refine h.filterMap_eq (fun client hobserves => ?_) fun client other hsame => ?_
  · exact if_neg (by rw [hobserves.readOnly]; decide)
  · rw [hsame.actor, hsame.viewports]

theorem applyFrontendResizes_aligned (h : Aligned Observes SameWriter clients others)
    (sessionMonoMs : UInt64) (daemon : Daemon σ η) (paneIds : List String) :
    applyFrontendResizes engine host clients sessionMonoMs daemon paneIds =
      applyFrontendResizes engine host others sessionMonoMs daemon paneIds := by
  have hsmallest (paneId : String) : smallestReadWriteFrontendResize clients paneId =
      smallestReadWriteFrontendResize others paneId := by
    unfold smallestReadWriteFrontendResize
    rw [readWriteFrontendResizes_aligned h]
  induction paneIds generalizing daemon with
  | nil => rfl
  | cons paneId rest ih =>
    unfold applyFrontendResizes applyConcurrentFrontendResize
    simp only [hsmallest, ih]

end

/-! ### The loop side by side -/

/-- Two rounds find the same connections, the same of the host and the same clock. -/
structure RoundInputs.Agrees (inputs other : RoundInputs) : Prop where
  arrivals : inputs.arrivals = other.arrivals
  hostOutput : inputs.hostOutput = other.hostOutput
  nowMonoMs : inputs.nowMonoMs = other.nowMonoMs
  outputReads : inputs.outputReads = other.outputReads
  outputRounds : inputs.outputRounds = other.outputRounds

namespace LiveLoop

/-- Two loops that are the same but for their observers. -/
structure Same (loop other : LiveLoop σ η) : Prop where
  daemon : loop.daemon = other.daemon
  nextConnectionId : loop.nextConnectionId = other.nextConnectionId
  acceptedClients : loop.acceptedClients = other.acceptedClients
  clients : Aligned Observes SameWriter loop.clients other.clients

/-- A loop after it has told its clients something. -/
structure Telling (loop after : LiveLoop σ η) : Prop where
  daemon : after.daemon = loop.daemon
  nextConnectionId : after.nextConnectionId = loop.nextConnectionId
  acceptedClients : after.acceptedClients = loop.acceptedClients
  clients : List.Forall₂ Told loop.clients after.clients

theorem publishInventory_telling (loop : LiveLoop σ η) (joined updated : List ClientConnectionSummary)
    (leftConnectionIds : List String) :
    Telling loop (loop.publishInventory joined updated leftConnectionIds).2 := by
  unfold publishInventory
  split
  · exact ⟨rfl, rfl, rfl, forall₂_told_refl _⟩
  · refine ⟨rfl, rfl, rfl, ?_⟩
    show List.Forall₂ Told loop.clients (writeClientInventoryPatch _ _ _ _ _ _).2
    unfold writeClientInventoryPatch
    split
    · exact forall₂_told_refl _
    · exact writeToSubscribers_told _ _

theorem Same.telling {loop other after otherAfter : LiveLoop σ η} (h : Same loop other)
    (htold : Telling loop after) (hother : Telling other otherAfter) : Same after otherAfter where
  daemon := by rw [htold.daemon, hother.daemon, h.daemon]
  nextConnectionId := by rw [htold.nextConnectionId, hother.nextConnectionId, h.nextConnectionId]
  acceptedClients := by rw [htold.acceptedClients, hother.acceptedClients, h.acceptedClients]
  clients := aligned_told h.clients htold.clients hother.clients

theorem Telling.trans {loop middle after : LiveLoop σ η} (first : Telling loop middle)
    (second : Telling middle after) : Telling loop after where
  daemon := second.daemon.trans first.daemon
  nextConnectionId := second.nextConnectionId.trans first.nextConnectionId
  acceptedClients := second.acceptedClients.trans first.acceptedClients
  clients := forall₂_told_trans first.clients second.clients

variable {config : LiveConfig} {inputs otherInputs : RoundInputs} {loop other after otherAfter : LiveLoop σ η}

/-! ### Viewports side by side -/

/-- Viewports that are settled were applied twice: for all, and once more for who stays. -/
theorem settle_ok {round settled : LiveRound} {marked : MarkedClients}
    (h : loop.settle engine host inputs round marked = (.ok settled, after)) :
    ∃ changed applied sent more reached,
      applyFrontendResizes engine host marked.all inputs.nowMonoMs loop.daemon
        (sortDedup round.frontendResizePaneIds) = (.ok changed, applied) ∧
      Telling { loop with daemon := applied, clients := marked.staying } sent ∧
      applyFrontendResizes engine host sent.clients inputs.nowMonoMs sent.daemon
        (frontendResizeKeys marked.leaving) = (.ok more, reached) ∧
      Telling { sent with daemon := reached } after ∧
      settled = { round with changedWorkspace := round.changedWorkspace || changed || more } := by
  unfold settle at h
  split at h
  · cases h
  case h_2 changed applied happlied =>
    have htold := publishInventory_telling { loop with daemon := applied, clients := marked.staying } [] []
      (marked.leaving.map LiveAttachedClient.connectionId)
    split at h
    · cases h
    case h_2 sent heq =>
      rw [heq] at htold
      split at h
      · cases h
      case h_2 more reached hmore =>
        have hupdated := publishInventory_telling { sent with daemon := reached } []
          (round.inventoryUpdates.filter fun updated =>
            sent.clients.any (·.connectionId == updated.connectionId)) []
        split at h
        · cases h
        case h_2 heq =>
          cases h
          rw [heq] at hupdated
          exact ⟨changed, applied, sent, more, reached, happlied, htold, hmore, hupdated, rfl⟩

theorem Same.settle {round settled otherSettled : LiveRound} {marked otherMarked : MarkedClients}
    (h : Same loop other) (hmarked : AlignedMarked marked otherMarked)
    (hnow : inputs.nowMonoMs = otherInputs.nowMonoMs)
    (hsettle : loop.settle engine host inputs round marked = (.ok settled, after))
    (hother : other.settle engine host otherInputs round otherMarked = (.ok otherSettled, otherAfter)) :
    settled = otherSettled ∧ Same after otherAfter := by
  obtain ⟨changed, applied, sent, more, reached, hchanged, hsent, hmore, hafter, rfl⟩ := settle_ok hsettle
  obtain ⟨changed', applied', sent', more', reached', hchanged', hsent', hmore', hafter', rfl⟩ :=
    settle_ok hother
  rw [← applyFrontendResizes_aligned hmarked.all, ← h.daemon, ← hnow, hchanged, Prod.mk.injEq,
    Except.ok.injEq] at hchanged'
  obtain ⟨rfl, rfl⟩ := hchanged'
  have hstaying : Same { loop with daemon := applied, clients := marked.staying }
      { other with daemon := applied, clients := otherMarked.staying } :=
    ⟨rfl, h.nextConnectionId, h.acceptedClients, hmarked.staying⟩
  have hsame := hstaying.telling hsent hsent'
  rw [← applyFrontendResizes_aligned hsame.clients, ← hsame.daemon, ← hnow,
    ← frontendResizeKeys_aligned hmarked.leaving, hmore, Prod.mk.injEq, Except.ok.injEq] at hmore'
  obtain ⟨rfl, rfl⟩ := hmore'
  have hreached : Same { sent with daemon := reached } { sent' with daemon := reached } :=
    ⟨rfl, hsame.nextConnectionId, hsame.acceptedClients, hsame.clients⟩
  exact ⟨rfl, hreached.telling hafter hafter'⟩

theorem depart_ok {marked : MarkedClients} (h : loop.depart engine host inputs marked = (.ok (), after)) :
    ∃ more reached, applyFrontendResizes engine host marked.staying inputs.nowMonoMs loop.daemon
        (frontendResizeKeys marked.leaving) = (.ok more, reached) ∧
      Telling { loop with daemon := reached, clients := marked.staying } after := by
  unfold depart at h
  dsimp only at h
  split at h
  · cases h
  case h_2 more reached hmore =>
    have htold := publishInventory_telling { loop with daemon := reached, clients := marked.staying } [] []
      (marked.leaving.map LiveAttachedClient.connectionId)
    split at h
    · cases h
    case h_2 heq =>
      cases h
      rw [heq] at htold
      exact ⟨more, reached, hmore, htold⟩

theorem Same.depart {marked otherMarked : MarkedClients} (h : Same loop other)
    (hmarked : AlignedMarked marked otherMarked) (hnow : inputs.nowMonoMs = otherInputs.nowMonoMs)
    (hdepart : loop.depart engine host inputs marked = (.ok (), after))
    (hother : other.depart engine host otherInputs otherMarked = (.ok (), otherAfter)) :
    Same after otherAfter := by
  obtain ⟨more, reached, hmore, hafter⟩ := depart_ok hdepart
  obtain ⟨more', reached', hmore', hafter'⟩ := depart_ok hother
  rw [← applyFrontendResizes_aligned hmarked.staying, ← h.daemon, ← hnow,
    ← frontendResizeKeys_aligned hmarked.leaving, hmore, Prod.mk.injEq] at hmore'
  obtain ⟨-, rfl⟩ := hmore'
  have hstaying : Same { loop with daemon := reached, clients := marked.staying }
      { other with daemon := reached, clients := otherMarked.staying } :=
    ⟨rfl, h.nextConnectionId, h.acceptedClients, hmarked.staying⟩
  exact hstaying.telling hafter hafter'

/-! ### Output side by side -/

/-- What a broadcast makes of one client: it is told the changes and completed, or it refused them and
leaves. -/
def Broadcasted (complete : LiveAttachedClient → LiveAttachedClient × Bool)
    (before after : LiveAttachedClient × Bool) : Prop :=
  ∃ sent, Told before.1 sent ∧
    (after = ((complete sent).1, before.2 || (complete sent).2) ∨
      after = (sent, true) ∧ ∃ n, before.1.transport.refuses n ≠ none)

theorem broadcast_ok {session : Session} {changedWorkspace : Bool} {paneIds : List String}
    {complete : LiveAttachedClient → LiveAttachedClient × Bool} {marked sent : MarkedClients}
    (h : broadcast session changedWorkspace paneIds complete marked = (.ok (), sent)) :
    List.Forall₂ (Broadcasted complete) marked sent := by
  induction marked generalizing sent with
  | nil =>
    cases h
    exact .nil
  | cons first rest ih =>
    obtain ⟨client, leaves⟩ := first
    have htold := LiveAttachedClient.writeChanges_told session changedWorkspace paneIds client
    unfold broadcast at h
    split at h
    case h_1 heq =>
      split at h
      · obtain ⟨hresult, hsent⟩ := Prod.mk.inj h
        rw [heq] at htold
        subst hsent
        refine .cons ⟨_, htold, .inr ⟨rfl, ?_⟩⟩ (ih (Prod.ext hresult rfl))
        by_contra htakes
        have hwritten := LiveAttachedClient.writeChanges_taken session changedWorkspace paneIds
          fun n => not_not.mp (not_exists.mp htakes n)
        rw [heq] at hwritten
        cases hwritten
      · cases h
    case h_2 heq =>
      obtain ⟨hresult, hsent⟩ := Prod.mk.inj h
      rw [heq] at htold
      subst hsent
      exact .cons ⟨_, htold, .inl rfl⟩ (ih (Prod.ext hresult rfl))

/-- A broadcast that completes writers alike leaves the clients side by side. -/
theorem broadcast_aligned {session : Session} {changedWorkspace : Bool} {paneIds : List String}
    {complete : LiveAttachedClient → LiveAttachedClient × Bool}
    {marked otherMarked sent otherSent : MarkedClients} (h : AlignedMarked marked otherMarked)
    (hobserves : ∀ client, Observes client → Observes (complete client).1)
    (hsame : ∀ client other, SameWriter client other → SameMarked (complete client) (complete other))
    (hbroadcast : broadcast session changedWorkspace paneIds complete marked = (.ok (), sent))
    (hother : broadcast session changedWorkspace paneIds complete otherMarked = (.ok (), otherSent)) :
    AlignedMarked sent otherSent := by
  have hskip (before after : LiveAttachedClient × Bool) (h : Observes before.1)
      (hafter : Broadcasted complete before after) : Observes after.1 := by
    obtain ⟨sent, htold, rfl | ⟨rfl, -⟩⟩ := hafter
    · exact hobserves _ (h.told htold)
    · exact h.told htold
  refine h.forall₂ (broadcast_ok hbroadcast) (broadcast_ok hother) hskip hskip ?_
  rintro before otherBefore _ _ ⟨hclient, hleaves⟩ ⟨sent, htold, rfl | ⟨-, n, hrefuses⟩⟩
    ⟨otherSent, hotherTold, rfl | ⟨-, n', hrefuses'⟩⟩
  · obtain ⟨hcompleted, hdone⟩ := hsame _ _ (hclient.told htold hotherTold)
    exact ⟨hcompleted, by rw [hleaves, hdone]⟩
  · exact absurd (hclient.otherTakes n') hrefuses'
  · exact absurd (hclient.takes n) hrefuses
  · exact absurd (hclient.takes n) hrefuses

theorem completeCycle_observes {client : LiveAttachedClient} (happened hostOutput : Bool)
    (h : Observes client) : Observes (client.completeCycle config happened hostOutput).1 := by
  unfold LiveAttachedClient.completeCycle
  dsimp only
  split
  · exact ⟨h.readOnly, h.viewports⟩
  · exact h

theorem completeCycle_same {client other : LiveAttachedClient} (happened hostOutput : Bool)
    (h : SameWriter client other) :
    SameMarked (client.completeCycle config happened hostOutput)
      (other.completeCycle config happened hostOutput) := by
  have hmode : client.actor.mode = other.actor.mode := congrArg Actor.mode h.actor
  unfold LiveAttachedClient.completeCycle
  dsimp only
  rw [hmode]
  split
  · refine ⟨⟨h.mayWrite, h.inventoryEntry, h.viewports, ?_, h.takes, h.otherTakes⟩, ?_⟩
    · show min (client.completedCycles + 1) usizeMax = _
      rw [h.completedCycles]
    · show decide (config.cyclesPerClient ≤ min (client.completedCycles + 1) usizeMax) = _
      rw [h.completedCycles]
  · exact ⟨h, by rw [h.completedCycles]⟩

/-- Two outputs that are the same but for the observers. -/
structure SameOutput (output otherOutput : OutputRound) : Prop where
  clients : AlignedMarked output.clients otherOutput.clients
  changedWorkspace : output.changedWorkspace = otherOutput.changedWorkspace
  outputChanged : output.outputChanged = otherOutput.outputChanged

theorem Same.firstOutput {round : LiveRound} {output otherOutput : OutputRound} (h : Same loop other)
    (hinputs : inputs.Agrees otherInputs)
    (hfirst : loop.firstOutput engine host config inputs round = (.ok output, after))
    (hother : other.firstOutput engine host config otherInputs round = (.ok otherOutput, otherAfter)) :
    SameOutput output otherOutput ∧ Same after otherAfter := by
  have hunmarked := AlignedMarked.unmarked h.clients
  unfold LiveLoop.firstOutput at hfirst hother
  dsimp only at hfirst hother
  rw [← h.daemon, ← hinputs.hostOutput, ← hinputs.nowMonoMs, ← hinputs.outputReads] at hother
  split at hfirst
  case isFalse hquiet =>
    rw [if_neg hquiet] at hother
    cases hfirst
    cases hother
    exact ⟨⟨hunmarked, rfl, rfl⟩, h⟩
  case isTrue hloud =>
    rw [if_pos hloud] at hother
    split at hfirst
    case h_1 => cases hfirst
    case h_2 reached hpoll =>
      rw [hpoll] at hother
      cases hfirst
      cases hother
      exact ⟨⟨hunmarked, rfl, rfl⟩, ⟨rfl, h.nextConnectionId, h.acceptedClients, h.clients⟩⟩
    case h_3 reached hpoll =>
      rw [hpoll] at hother
      dsimp only at hother
      split at hfirst
      case isTrue hheld =>
        rw [if_pos hheld] at hother
        cases hfirst
        cases hother
        exact ⟨⟨hunmarked, rfl, rfl⟩, ⟨rfl, h.nextConnectionId, h.acceptedClients, h.clients⟩⟩
      case isFalse hheld =>
        rw [if_neg hheld] at hother
        split at hfirst
        · cases hfirst
        case h_2 sent hsent =>
          split at hother
          · cases hother
          case h_2 otherSent hotherSent =>
            cases hfirst
            cases hother
            have hbroadcast := broadcast_aligned hunmarked (fun _ hobserves => hobserves)
              (fun _ _ hsame => ⟨hsame, rfl⟩) hsent hotherSent
            exact ⟨⟨hbroadcast, rfl, rfl⟩,
              ⟨rfl, h.nextConnectionId, h.acceptedClients, hbroadcast.all⟩⟩

theorem Same.quietOutput {round : LiveRound} {leafPaneIds : List String}
    {output otherOutput quiet otherQuiet : OutputRound} (h : Same loop other)
    (hinputs : inputs.Agrees otherInputs) (houtput : SameOutput output otherOutput)
    (hquiet : loop.quietOutput engine host config inputs round leafPaneIds output = (.ok quiet, after))
    (hother : other.quietOutput engine host config otherInputs round leafPaneIds otherOutput =
      (.ok otherQuiet, otherAfter)) : SameOutput quiet otherQuiet ∧ Same after otherAfter := by
  unfold LiveLoop.quietOutput at hquiet hother
  rw [← h.daemon, ← hinputs.nowMonoMs, ← hinputs.outputReads, ← hinputs.outputRounds] at hother
  split at hquiet
  case isTrue hnotifies =>
    rw [if_pos hnotifies] at hother
    cases hquiet
    cases hother
    exact ⟨houtput, h⟩
  case isFalse hnotifies =>
    rw [if_neg hnotifies] at hother
    split at hquiet
    case h_1 => cases hquiet
    case h_2 changed reached hpoll =>
      rw [hpoll] at hother
      cases hquiet
      cases hother
      exact ⟨⟨houtput.clients, houtput.changedWorkspace, by rw [houtput.outputChanged]⟩,
        ⟨rfl, h.nextConnectionId, h.acceptedClients, h.clients⟩⟩

theorem Same.publish {round : LiveRound} {leafPaneIds : List String} {output otherOutput : OutputRound}
    {marked otherMarked : MarkedClients} (h : Same loop other) (hinputs : inputs.Agrees otherInputs)
    (houtput : SameOutput output otherOutput)
    (hpublish : loop.publish config inputs round leafPaneIds output = (.ok marked, after))
    (hother : other.publish config otherInputs round leafPaneIds otherOutput =
      (.ok otherMarked, otherAfter)) : AlignedMarked marked otherMarked ∧ Same after otherAfter := by
  unfold LiveLoop.publish at hpublish hother
  dsimp only at hpublish hother
  rw [← h.daemon, ← hinputs.hostOutput, ← houtput.changedWorkspace, ← houtput.outputChanged] at hother
  split at hpublish
  · cases hpublish
  case h_2 sent hsent =>
    split at hother
    · cases hother
    case h_2 otherSent hotherSent =>
      cases hpublish
      cases hother
      have hbroadcast := broadcast_aligned houtput.clients
        (fun _ hobserves => completeCycle_observes _ _ hobserves)
        (fun _ _ hsame => completeCycle_same _ _ hsame) hsent hotherSent
      exact ⟨hbroadcast, ⟨rfl, h.nextConnectionId, h.acceptedClients, hbroadcast.all⟩⟩

theorem drain_ok {round : LiveRound} {marked : MarkedClients}
    (h : loop.drain engine host inputs = (.ok (round, marked), after)) :
    ∃ reached, drainReadableClients engine host inputs.reads 0 loop.clients loop.daemon .none =
        (.ok round, marked, reached) ∧
      after = { loop with daemon := reached, clients := marked.all } := by
  unfold drain at h
  split at h
  · cases h
  case h_2 reached hdrain =>
    cases h
    exact ⟨reached, hdrain, rfl⟩

theorem Same.drain {round otherRound : LiveRound} {marked otherMarked : MarkedClients}
    (h : Same loop other)
    (hreads : writerReads inputs.reads 0 loop.clients = writerReads otherInputs.reads 0 other.clients)
    (hdrain : loop.drain engine host inputs = (.ok (round, marked), after))
    (hother : other.drain engine host otherInputs = (.ok (otherRound, otherMarked), otherAfter)) :
    round = otherRound ∧ AlignedMarked marked otherMarked ∧ Same after otherAfter := by
  obtain ⟨reached, hdrained, rfl⟩ := drain_ok hdrain
  obtain ⟨otherReached, hotherDrained, rfl⟩ := drain_ok hother
  rw [← h.daemon] at hotherDrained
  obtain ⟨hround, rfl, hmarked⟩ :=
    drainReadableClients_aligned h.clients hreads hdrained hotherDrained
  exact ⟨hround, hmarked, ⟨rfl, h.nextConnectionId, h.acceptedClients, hmarked.all⟩⟩

/-- A round that gets to its broadcast went through its phases. -/
theorem serveClients_ok {marked : MarkedClients}
    (h : loop.serveClients engine host config inputs = (.ok marked, after)) :
    ∃ round drained drainedLoop settled settledLoop output outputLoop quiet quietLoop,
      loop.drain engine host inputs = (.ok (round, drained), drainedLoop) ∧
      drainedLoop.settle engine host inputs round drained = (.ok settled, settledLoop) ∧
      settledLoop.firstOutput engine host config inputs settled = (.ok output, outputLoop) ∧
      outputLoop.quietOutput engine host config inputs settled settledLoop.daemon.session.leafPaneIds
        output = (.ok quiet, quietLoop) ∧
      quietLoop.publish config inputs settled settledLoop.daemon.session.leafPaneIds quiet =
        (.ok marked, after) := by
  unfold serveClients at h
  split at h
  · cases h
  case h_2 hdrain =>
    split at h
    · cases h
    case h_2 hsettle =>
      dsimp only at h
      split at h
      · cases h
      case h_2 hfirst =>
        split at h
        · cases h
        case h_2 hquiet =>
          exact ⟨_, _, _, _, _, _, _, _, _, hdrain, hsettle, hfirst, hquiet, h⟩

/-- A round from its drains to its broadcast, side by side. -/
theorem Same.serveClients {marked otherMarked : MarkedClients} (h : Same loop other)
    (hinputs : inputs.Agrees otherInputs)
    (hreads : writerReads inputs.reads 0 loop.clients = writerReads otherInputs.reads 0 other.clients)
    (hserve : loop.serveClients engine host config inputs = (.ok marked, after))
    (hother : other.serveClients engine host config otherInputs = (.ok otherMarked, otherAfter)) :
    AlignedMarked marked otherMarked ∧ Same after otherAfter := by
  obtain ⟨round, drained, drainedLoop, settled, settledLoop, output, outputLoop, quiet, quietLoop, hdrain,
    hsettle, hfirst, hquiet, hpublish⟩ := serveClients_ok hserve
  obtain ⟨round', drained', drainedLoop', settled', settledLoop', output', outputLoop', quiet', quietLoop',
    hdrain', hsettle', hfirst', hquiet', hpublish'⟩ := serveClients_ok hother
  obtain ⟨rfl, hmarked, hdrained⟩ := h.drain hreads hdrain hdrain'
  obtain ⟨rfl, hsettled⟩ := hdrained.settle hmarked hinputs.nowMonoMs hsettle hsettle'
  obtain ⟨houtput, hfirst⟩ := hsettled.firstOutput hinputs hfirst hfirst'
  rw [← hsettled.daemon] at hquiet' hpublish'
  obtain ⟨hquieted, hquiet⟩ := hfirst.quietOutput hinputs houtput hquiet hquiet'
  exact hquiet.publish hinputs hquieted hpublish hpublish'

/-! ### Connections side by side -/

/-- A client that joins is told of the others, and they of it. -/
theorem join_ok {client : LiveAttachedClient} (h : loop.join client = (.ok (), after)) :
    ∃ others joined, after.clients = others ++ [joined] ∧ List.Forall₂ Told loop.clients others ∧
      Told client joined ∧ after.daemon = loop.daemon ∧
      after.nextConnectionId = loop.nextConnectionId + 1 ∧
      after.acceptedClients = loop.acceptedClients + 1 := by
  have hshown : List.Forall₂ Told loop.clients
      (loop.clients.map fun existing => existing.writePresence client.actor) :=
    List.forall₂_map_right_iff.mpr (List.forall₂_same.mpr fun existing _ =>
      existing.queueReliableFrame_told _)
  have hpublished := publishInventory_telling
    { loop with
      acceptedClients := loop.acceptedClients + 1
      nextConnectionId := loop.nextConnectionId + 1
      clients := loop.clients.map fun existing => existing.writePresence client.actor }
    [client.inventoryEntry] [] []
  unfold join at h
  dsimp only at h
  split at h
  · cases h
  case h_2 published heq =>
    rw [heq] at hpublished
    obtain ⟨-, hafter⟩ := Prod.mk.inj h
    subst hafter
    exact ⟨published.clients, _, rfl, forall₂_told_trans hshown hpublished.clients,
      (LiveAttachedClient.writePresences_told _ client).trans
        (LiveAttachedClient.writeClientInventorySnapshot_told _ _ _),
      hpublished.daemon, hpublished.nextConnectionId, hpublished.acceptedClients⟩

theorem Same.join {client : LiveAttachedClient} (h : Same loop other)
    (hclient : Observes client ∨ SameWriter client client)
    (hjoin : loop.join client = (.ok (), after)) (hother : other.join client = (.ok (), otherAfter)) :
    Same after otherAfter := by
  obtain ⟨others, joined, hclients, hothers, hjoined, hdaemon, hnext, haccepted⟩ := join_ok hjoin
  obtain ⟨others', joined', hclients', hothers', hjoined', hdaemon', hnext', haccepted'⟩ := join_ok hother
  refine ⟨by rw [hdaemon, hdaemon', h.daemon], by rw [hnext, hnext', h.nextConnectionId],
    by rw [haccepted, haccepted', h.acceptedClients], ?_⟩
  rw [hclients, hclients']
  refine (aligned_told h.clients hothers hothers').append ?_
  rcases hclient with hobserves | hsame
  · exact .left (hobserves.told hjoined) (.right (hobserves.told hjoined') .nil)
  · exact .both (hsame.told hjoined hjoined') .nil

end LiveLoop

/-- If the connection attaches a client that may write, that client takes all it is sent. -/
def Arrival.WritersAccept (arrival : Arrival) : Prop :=
  ∀ targetSessionId request, arrival.initial = .ok (.attach targetSessionId request) →
    request.mode = .readWrite → arrival.Accepts

/-- A client that is attached comes with its request, and without viewports. -/
theorem attachLiveClient_attached {arrival : Arrival} {request : AttachRequest}
    {connectionId paneId : String} {leafPaneIds : List String} {daemon reached : Daemon σ η}
    {client : LiveAttachedClient}
    (h : attachLiveClient engine host arrival request connectionId paneId leafPaneIds daemon =
      (.ok (.attached client), reached)) :
    client.actor.mode = request.mode ∧ client.frontendResizeConstraints = .empty := by
  unfold attachLiveClient at h
  dsimp only at h
  split at h
  · split at h <;> cases h
    exact ⟨rfl, rfl⟩
  · split at h <;> cases h
    exact ⟨rfl, rfl⟩

theorem acceptLiveClient_attached {arrival : Arrival} {connectionId : String} {daemon reached : Daemon σ η}
    {client : LiveAttachedClient}
    (h : acceptLiveClient engine host arrival connectionId daemon = (.ok (.attached client), reached)) :
    ∃ targetSessionId request, arrival.initial = .ok (.attach targetSessionId request) ∧
      client.actor.mode = request.mode ∧ client.frontendResizeConstraints = .empty := by
  unfold acceptLiveClient at h
  dsimp only at h
  split at h
  · cases h
  · split at h <;> cases h
  · split at h <;> cases h
  case h_4 targetSessionId request hinitial =>
    refine ⟨targetSessionId, request, hinitial, ?_⟩
    split at h
    case h_1 target _ =>
      have hwritten := congrArg Prod.fst h
      cases hrejected : ((ClientStream.fresh arrival.writes).writeProtocolError .sessionNotFound
        ("session not found: " ++ target) none 0).1 <;> simp [hrejected, Except.map] at hwritten
    · split at h
      · exact attachLiveClient_attached h
      · split at h <;> cases h
        exact ⟨rfl, rfl⟩

/-- An attached client observes, or it may write and takes all it is sent. -/
theorem acceptLiveClient_aligned {arrival : Arrival} {connectionId : String} {daemon reached : Daemon σ η}
    {client : LiveAttachedClient} (hwriters : arrival.WritersAccept)
    (h : acceptLiveClient engine host arrival connectionId daemon = (.ok (.attached client), reached)) :
    Observes client ∨ SameWriter client client := by
  obtain ⟨targetSessionId, request, hinitial, hmode, hviewports⟩ := acceptLiveClient_attached h
  cases hallowed : Session.inputAllowed client.actor with
  | false => exact .inl ⟨hallowed, hviewports⟩
  | true =>
    have hwrites : request.mode = .readWrite := by
      rw [← hmode]
      simpa [Session.inputAllowed] using hallowed
    have htakes := (acceptLiveClient_fresh (hwriters _ _ hinitial hwrites) h).takes
    exact .inr ⟨hallowed, rfl, rfl, rfl, htakes, htakes⟩

namespace LiveLoop

variable {config : LiveConfig} {inputs otherInputs : RoundInputs} {loop other after otherAfter : LiveLoop σ η}

theorem Same.acceptArrival {arrival : Arrival} (h : Same loop other) (hwriters : arrival.WritersAccept)
    (haccept : loop.acceptArrival engine host arrival = (.ok (), after))
    (hother : other.acceptArrival engine host arrival = (.ok (), otherAfter)) : Same after otherAfter := by
  unfold LiveLoop.acceptArrival at haccept hother
  rw [← h.daemon, ← h.nextConnectionId] at hother
  split at haccept
  · cases haccept
  · cases haccept
  case h_3 heq =>
    rw [heq] at hother
    cases haccept
    cases hother
    exact ⟨rfl, rfl, congrArg (· + 1) h.acceptedClients, h.clients⟩
  case h_4 client reached heq =>
    rw [heq] at hother
    dsimp only at hother
    have hattached : Same { loop with daemon := reached }
        { other with daemon := reached, nextConnectionId := loop.nextConnectionId } :=
      ⟨rfl, rfl, h.acceptedClients, h.clients⟩
    split at haccept
    · cases haccept
    case h_2 hjoin =>
      split at hother
      · cases hother
      case h_2 hotherJoin =>
        cases haccept
        cases hother
        exact hattached.join (acceptLiveClient_aligned hwriters heq) hjoin hotherJoin

theorem Same.acceptArrivals {arrivals : List Arrival} (h : Same loop other)
    (hwriters : ∀ arrival ∈ arrivals, arrival.WritersAccept)
    (haccept : loop.acceptArrivals engine host config arrivals = (.ok (), after))
    (hother : other.acceptArrivals engine host config arrivals = (.ok (), otherAfter)) :
    Same after otherAfter := by
  induction arrivals generalizing loop other with
  | nil =>
    cases haccept
    cases hother
    exact h
  | cons arrival rest ih =>
    obtain ⟨hfirst, hrest⟩ := List.forall_mem_cons.mp hwriters
    unfold LiveLoop.acceptArrivals at haccept hother
    rw [← h.acceptedClients] at hother
    split at haccept
    case isFalse hfull =>
      rw [if_neg hfull] at hother
      cases haccept
      cases hother
      exact h
    case isTrue hmore =>
      rw [if_pos hmore] at hother
      split at haccept
      · cases haccept
      case h_2 hjoined =>
        split at hother
        · cases hother
        case h_2 hotherJoined =>
          exact ih (h.acceptArrival hfirst hjoined hotherJoined) hrest haccept hother

/-! ### Runs side by side -/

/-- Two rounds that differ at most in what clients that may not write have to be read. -/
structure SameButObservers (engine : TerminalEngine σ) (host : ProcessHost η) (config : LiveConfig)
    (loop : LiveLoop σ η) (inputs : RoundInputs) (other : LiveLoop σ η) (otherInputs : RoundInputs) :
    Prop where
  agrees : inputs.Agrees otherInputs
  reads : writerReads inputs.reads 0
      (loop.acceptArrivals engine host config inputs.arrivals).2.clients =
    writerReads otherInputs.reads 0
      (other.acceptArrivals engine host config otherInputs.arrivals).2.clients
  writersAccept : ∀ arrival ∈ inputs.arrivals, arrival.WritersAccept

/-- Rounds of two runs, as far as both get, that differ at most in what observers send. -/
def RunSameButObservers (engine : TerminalEngine σ) (host : ProcessHost η) (config : LiveConfig) :
    List (RoundInputs × RoundInputs) → LiveLoop σ η → LiveLoop σ η → Prop
  | [], _, _ => True
  | (inputs, otherInputs) :: rest, loop, other =>
    SameButObservers engine host config loop inputs other otherInputs ∧
      ∀ after otherAfter, loop.round engine host config inputs = (.ok (), after) →
        other.round engine host config otherInputs = (.ok (), otherAfter) →
        RunSameButObservers engine host config rest after otherAfter

theorem round_ok (h : loop.round engine host config inputs = (.ok (), after)) :
    ∃ accepted marked served,
      loop.acceptArrivals engine host config inputs.arrivals = (.ok (), accepted) ∧
      accepted.serveClients engine host config inputs = (.ok marked, served) ∧
      served.depart engine host inputs marked = (.ok (), after) := by
  unfold round at h
  split at h
  case isFalse => cases h
  case isTrue =>
    split at h
    · cases h
    case h_2 haccept =>
      split at h
      · cases h
      case h_2 hserve => exact ⟨_, _, _, haccept, hserve, h⟩

/-- Rounds that differ at most in what observers send keep the loops the same. -/
theorem Same.round (h : Same loop other)
    (hrounds : SameButObservers engine host config loop inputs other otherInputs)
    (hround : loop.round engine host config inputs = (.ok (), after))
    (hother : other.round engine host config otherInputs = (.ok (), otherAfter)) :
    Same after otherAfter := by
  obtain ⟨hagrees, hreads, hwriters⟩ := hrounds
  obtain ⟨accepted, marked, served, haccept, hserve, hdepart⟩ := round_ok hround
  obtain ⟨accepted', marked', served', haccept', hserve', hdepart'⟩ := round_ok hother
  rw [haccept, haccept'] at hreads
  rw [← hagrees.arrivals] at haccept'
  obtain ⟨hmarked, hserved⟩ := (h.acceptArrivals hwriters haccept haccept').serveClients hagrees hreads
    hserve hserve'
  exact hserved.depart hmarked hagrees.nowMonoMs hdepart hdepart'

theorem rounds_cons {rest : List RoundInputs}
    (h : loop.rounds engine host config (inputs :: rest) = (.ok (), after)) :
    ∃ next, loop.round engine host config inputs = (.ok (), next) ∧
      next.rounds engine host config rest = (.ok (), after) := by
  unfold rounds at h
  split at h
  · cases h
  case h_2 next hround => exact ⟨next, hround, h⟩

/-- Runs that differ at most in what observers send keep the loops the same. -/
theorem Same.rounds {pairs : List (RoundInputs × RoundInputs)} (h : Same loop other)
    (hpairs : RunSameButObservers engine host config pairs loop other)
    (hrun : loop.rounds engine host config (pairs.map Prod.fst) = (.ok (), after))
    (hother : other.rounds engine host config (pairs.map Prod.snd) = (.ok (), otherAfter)) :
    Same after otherAfter := by
  induction pairs generalizing loop other with
  | nil =>
    cases hrun
    cases hother
    exact h
  | cons pair rest ih =>
    obtain ⟨inputs, otherInputs⟩ := pair
    obtain ⟨hfirst, hrest⟩ := hpairs
    obtain ⟨next, hround, hrun⟩ := rounds_cons hrun
    obtain ⟨otherNext, hotherRound, hother⟩ := rounds_cons hother
    exact ih (h.round hfirst hround hotherRound) (hrest _ _ hround hotherRound) hrun hother

/-- What is seen of the clients that may write. -/
def writers (loop : LiveLoop σ η) : List ClientConnectionSummary :=
  loop.clients.filterMap fun client =>
    if Session.inputAllowed client.actor then some client.inventoryEntry else none

/-- **Who only watches changes nothing.** Two runs of the loop find the same connections, the same of
the host, and the same sent by the clients that may write, who take whatever they are sent. Whatever the
other clients send in either, and whenever they leave, the daemons come out the same after as many
rounds, with all that was called on the host, and the same clients that may write are attached. -/
theorem observers_change_nothing {pairs : List (RoundInputs × RoundInputs)} {daemon : Daemon σ η}
    (h : RunSameButObservers engine host config pairs (.start daemon) (.start daemon))
    (hrun : (start daemon).rounds engine host config (pairs.map Prod.fst) = (.ok (), after))
    (hother : (start daemon).rounds engine host config (pairs.map Prod.snd) = (.ok (), otherAfter)) :
    after.daemon = otherAfter.daemon ∧ after.writers = otherAfter.writers := by
  have hstart : Same (start daemon) (start daemon) := ⟨rfl, rfl, rfl, .nil⟩
  have hsame := hstart.rounds h hrun hother
  refine ⟨hsame.daemon, hsame.clients.filterMap_eq (fun client hobserves => ?_) ?_⟩
  · exact if_neg (by rw [hobserves.readOnly]; decide)
  · intro client other hwriter
    rw [hwriter.actor, hwriter.inventoryEntry]

end LiveLoop

end

deriving instance DecidableEq for ClientReads

/-- A client that may write and one that may not attach. The first asks for a viewport; in one run the
second asks for one too, which is refused, and in the other it says nothing. -/
def watchedRounds : List (RoundInputs × RoundInputs) :=
  let attach := plainRound [plainArrival (.attach none plainRequest),
    plainArrival (.attach none { plainRequest with mode := .readOnly })] []
  [(attach, attach),
    ({ plainRound [] [] with
      reads
        | 0 => some (viewportRead 100 30)
        | 1 => some (viewportRead 10 3)
        | _ => none },
    { plainRound [] [] with
      reads
        | 0 => some (viewportRead 100 30)
        | _ => none })]

/-- The loop after either run. -/
def intrudedLoop : LiveLoop InterimAnsiState Unit :=
  (plainLoop.rounds interimTextTerminalEngine .quiet plainConfig (watchedRounds.map Prod.fst)).2

def watchedLoop : LiveLoop InterimAnsiState Unit :=
  (plainLoop.rounds interimTextTerminalEngine .quiet plainConfig (watchedRounds.map Prod.snd)).2

theorem observers_change_nothing_intruded :
    (intrudedLoop.daemon = watchedLoop.daemon ∧ intrudedLoop.writers = watchedLoop.writers) ∧
      intrudedLoop.clients.map LiveAttachedClient.connectionId = ["conn-1"] ∧
      watchedLoop.clients.map LiveAttachedClient.connectionId = ["conn-1", "conn-2"] ∧
      watchedLoop.daemon.session.paneSize "pane-1" = some (100, 30) := by
  have hintruded : plainLoop.rounds interimTextTerminalEngine .quiet plainConfig
      (watchedRounds.map Prod.fst) = (.ok (), intrudedLoop) := by
    unfold intrudedLoop
    refine LiveLoop.rounds_of_ok ?_
    decide +kernel
  have hwatched : plainLoop.rounds interimTextTerminalEngine .quiet plainConfig
      (watchedRounds.map Prod.snd) = (.ok (), watchedLoop) := by
    unfold watchedLoop
    refine LiveLoop.rounds_of_ok ?_
    decide +kernel
  refine ⟨LiveLoop.observers_change_nothing ?_ hintruded hwatched, ?_⟩
  case refine_2 => decide +kernel
  refine ⟨⟨⟨rfl, rfl, rfl, rfl, rfl⟩, by decide +kernel, fun arrival harrival => ?_⟩,
    fun after otherAfter hround hother => ⟨⟨⟨rfl, rfl, rfl, rfl, rfl⟩, ?_,
      fun _ harrival => absurd harrival List.not_mem_nil⟩, fun _ _ _ _ => trivial⟩⟩
  · simp only [plainRound, List.mem_cons, List.not_mem_nil, or_false] at harrival
    rcases harrival with rfl | rfl
    all_goals exact fun _ _ _ _ => ⟨fun _ => rfl, fun _ _ _ _ => rfl⟩
  · rw [← show _ = after from congrArg Prod.snd hround,
      ← show _ = otherAfter from congrArg Prod.snd hother]
    decide +kernel

end Nmux.Live
