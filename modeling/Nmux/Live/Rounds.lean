import Nmux.Live.Arbitration

/-! What a round does to the daemon. Its connections are accepted first; all it does after that reaches
the session by events of panes, and calls the host as the frames that are drained, the viewports and the
polls do. -/
namespace Nmux.Live

open Daemon (ServesPanes PaneAllowed PollAllowed)

variable {σ η : Type} {engine : TerminalEngine σ} {host : ProcessHost η} {okCall : HostCall η → Prop}
  {loop : LiveLoop σ η} {config : LiveConfig} {inputs : RoundInputs}

/-- Panes may be polled while they are leaves. -/
def LeavesPolled (host : ProcessHost η) (okCall : HostCall η → Prop) : Prop :=
  ∀ paneId leafPaneIds, paneId ∈ leafPaneIds → PollAllowed host okCall paneId leafPaneIds

/-- The viewports of a list of panes may be applied. -/
def ViewportsAllowed (host : ProcessHost η) (okCall : HostCall η → Prop)
    (clients : List LiveAttachedClient) (session : Session) (paneIds : List String) : Prop :=
  ∀ paneId ∈ paneIds, ViewportAllowed host okCall clients session paneId

theorem ViewportAllowed.congr {clients others : List LiveAttachedClient} {session : Session}
    {paneId : String} (h : ViewportAllowed host okCall clients session paneId)
    (hkept : List.Forall₂ (ViewportsKept []) clients others) :
    ViewportAllowed host okCall others session paneId := by
  intro size hsmallest
  refine h size ?_
  rw [← hsmallest]
  exact (smallest_congr (.of_eq (readWriteFrontendResizes_unmoved hkept))).symm

namespace LiveLoop

theorem drain_servesPanes (hidle : loop.daemon.actor.Idle)
    (ok : DrainsAllowed engine host (fun client daemon clientReads => FramesAllowed engine host
      (FrameAllowed host okCall) clientReads.nowMonoMs client daemon .none clientReads.frames) inputs.reads 0
      loop.clients loop.daemon) :
    ServesPanes engine okCall loop.daemon (loop.drain engine host inputs).2.daemon := by
  have hdrains : ServesPanes engine okCall loop.daemon (drainReadableClients engine host inputs.reads 0
      loop.clients loop.daemon .none).2.2 := drainReadableClients_servesPanes hidle .none ok
  unfold drain
  split
  case h_1 heq => rwa [heq] at hdrains
  case h_2 heq => rwa [heq] at hdrains

/-- What the viewports of a round ask for may be done, for all clients and then for those that stay. -/
structure SettleAllowed (engine : TerminalEngine σ) (host : ProcessHost η) (okCall : HostCall η → Prop)
    (inputs : RoundInputs) (round : LiveRound) (marked : MarkedClients) (loop : LiveLoop σ η) : Prop where
  first : ViewportsAllowed host okCall marked.all loop.daemon.session (sortDedup round.frontendResizePaneIds)
  second : ViewportsAllowed host okCall marked.staying
    (applyFrontendResizes engine host marked.all inputs.nowMonoMs loop.daemon
      (sortDedup round.frontendResizePaneIds)).2.session (frontendResizeKeys marked.leaving)

theorem settle_servesPanes {round : LiveRound} {marked : MarkedClients} (hidle : loop.daemon.actor.Idle)
    (ok : SettleAllowed engine host okCall inputs round marked loop) :
    ServesPanes engine okCall loop.daemon (loop.settle engine host inputs round marked).2.daemon := by
  have hfirst : ServesPanes engine okCall loop.daemon (applyFrontendResizes engine host marked.all
      inputs.nowMonoMs loop.daemon (sortDedup round.frontendResizePaneIds)).2 :=
    applyFrontendResizes_servesPanes inputs.nowMonoMs hidle ok.first
  have hsecond := ok.second
  unfold settle
  split
  case h_1 heq => rwa [heq] at hfirst
  case h_2 changed resized heq =>
    rw [heq] at hfirst hsecond
    have hleft := publishInventory_viewportsKept { loop with daemon := resized, clients := marked.staying }
      [] [] (marked.leaving.map LiveAttachedClient.connectionId)
    have hdaemon := publishInventory_daemon { loop with daemon := resized, clients := marked.staying } [] []
      (marked.leaving.map LiveAttachedClient.connectionId)
    split
    case h_1 heq => rw [heq] at hdaemon; rwa [hdaemon]
    case h_2 left heq =>
      rw [heq] at hleft hdaemon
      dsimp only at hleft hdaemon
      have hclosing : ServesPanes engine okCall resized (applyFrontendResizes engine host left.clients
          inputs.nowMonoMs resized (frontendResizeKeys marked.leaving)).2 :=
        applyFrontendResizes_servesPanes inputs.nowMonoMs (hfirst.idle hidle) fun paneId hmem =>
          (hsecond paneId hmem).congr hleft
      rw [hdaemon]
      split
      case h_1 heq => rw [heq] at hclosing; exact hfirst.trans hclosing
      case h_2 more closed heq =>
        rw [heq] at hclosing
        have hsame := publishInventory_daemon { left with daemon := closed } []
          (round.inventoryUpdates.filter fun updated =>
            left.clients.any (·.connectionId == updated.connectionId)) []
        split
        all_goals
          rename_i heq
          rw [heq] at hsame
          dsimp only at hsame
          rw [hsame]
          exact hfirst.trans hclosing

theorem firstOutput_servesPanes {round : LiveRound} (hidle : loop.daemon.actor.Idle)
    (ok : ∀ paneId ∈ loop.daemon.session.leafPaneIds ++ round.inputPaneIds,
      PollAllowed host okCall paneId loop.daemon.session.leafPaneIds) :
    ServesPanes engine okCall loop.daemon (loop.firstOutput engine host config inputs round).2.daemon := by
  have hpoll : ServesPanes engine okCall loop.daemon (loop.daemon.pollPanesOnce engine host
      loop.daemon.session.leafPaneIds round.inputPaneIds inputs.nowMonoMs inputs.outputReads).2 :=
    Daemon.pollPanesOnce_servesPanes hidle _ _ _ ok
  unfold firstOutput
  dsimp only
  split
  · split
    case h_1 heq => rwa [heq] at hpoll
    case h_2 heq => rwa [heq] at hpoll
    case h_3 heq =>
      rw [heq] at hpoll
      split
      · exact hpoll
      · split <;> exact hpoll
  · exact .refl _

theorem quietOutput_servesPanes {round : LiveRound} {leafPaneIds : List String} {output : OutputRound}
    (hidle : loop.daemon.actor.Idle)
    (ok : ∀ paneId ∈ leafPaneIds, PollAllowed host okCall paneId loop.daemon.session.leafPaneIds) :
    ServesPanes engine okCall loop.daemon
      (loop.quietOutput engine host config inputs round leafPaneIds output).2.daemon := by
  have hpoll : ServesPanes engine okCall loop.daemon (loop.daemon.pollPanesUntilQuiet engine host
      leafPaneIds inputs.nowMonoMs inputs.outputReads inputs.outputRounds).2 :=
    Daemon.pollPanesUntilQuiet_servesPanes hidle _ _ _ ok
  unfold quietOutput
  split
  · exact .refl _
  · split
    case h_1 heq => rwa [heq] at hpoll
    case h_2 heq => rwa [heq] at hpoll

/-- The conditions on a round after its accepts: what is drained, sized and polled may be. -/
structure ClientsAllowed (engine : TerminalEngine σ) (host : ProcessHost η) (okCall : HostCall η → Prop)
    (inputs : RoundInputs) (loop : LiveLoop σ η) : Prop where
  drains : DrainsAllowed engine host (fun client daemon clientReads => FramesAllowed engine host
    (FrameAllowed host okCall) clientReads.nowMonoMs client daemon .none clientReads.frames) inputs.reads 0
    loop.clients loop.daemon
  settles : ∀ round marked after, loop.drain engine host inputs = (.ok (round, marked), after) →
    SettleAllowed engine host okCall inputs round marked after
  inputs : ∀ round marked after, loop.drain engine host inputs = (.ok (round, marked), after) →
    ∀ paneId ∈ round.inputPaneIds, PollAllowed host okCall paneId loop.daemon.session.leafPaneIds

theorem ServesPanes.polled {daemon reached : Daemon σ η} (h : ServesPanes engine okCall daemon reached)
    (hleaves : LeavesPolled host okCall) {paneId : String} (hmem : paneId ∈ daemon.session.leafPaneIds) :
    PollAllowed host okCall paneId reached.session.leafPaneIds :=
  hleaves paneId _ (h.leafPaneIds ▸ hmem)

theorem settle_inputPaneIds {round settled : LiveRound} {marked : MarkedClients} {after : LiveLoop σ η}
    (h : loop.settle engine host inputs round marked = (.ok settled, after)) :
    settled.inputPaneIds = round.inputPaneIds := by
  unfold settle at h
  repeat' split at h
  all_goals cases h
  rfl

theorem serveClients_servesPanes (hidle : loop.daemon.actor.Idle) (hleaves : LeavesPolled host okCall)
    (ok : loop.ClientsAllowed engine host okCall inputs) :
    ServesPanes engine okCall loop.daemon (loop.serveClients engine host config inputs).2.daemon := by
  have hdrain := drain_servesPanes hidle ok.drains
  unfold serveClients
  split
  case h_1 heq => rwa [heq] at hdrain
  case h_2 round marked drained hdrained =>
    rw [hdrained] at hdrain
    dsimp only at hdrain
    have hsettle := settle_servesPanes (hdrain.idle hidle) (ok.settles _ _ _ hdrained)
    split
    case h_1 heq => rw [heq] at hsettle; exact hdrain.trans hsettle
    case h_2 settled after heq =>
      rw [heq] at hsettle
      have hsettled : ServesPanes engine okCall loop.daemon after.daemon := hdrain.trans hsettle
      have hids := settle_inputPaneIds heq
      have hfirst : ServesPanes engine okCall after.daemon
          (after.firstOutput engine host config inputs settled).2.daemon := by
        refine firstOutput_servesPanes (hsettled.idle hidle) fun paneId hmem => ?_
        rcases List.mem_append.mp hmem with hmem | hmem
        · exact hleaves _ _ hmem
        · rw [hids] at hmem
          rw [hsettled.leafPaneIds]
          exact ok.inputs _ _ _ hdrained paneId hmem
      dsimp only
      split
      case h_1 heq => rw [heq] at hfirst; exact hsettled.trans hfirst
      case h_2 output polled heq =>
        rw [heq] at hfirst
        have hquiet : ServesPanes engine okCall polled.daemon (polled.quietOutput engine host config
            inputs settled after.daemon.session.leafPaneIds output).2.daemon :=
          quietOutput_servesPanes ((hsettled.trans hfirst).idle hidle) fun paneId hmem =>
            ServesPanes.polled hfirst hleaves hmem
        split
        case h_1 heq => rw [heq] at hquiet; exact (hsettled.trans hfirst).trans hquiet
        case h_2 heq =>
          rw [heq] at hquiet
          rw [publish_daemon]
          exact (hsettled.trans hfirst).trans hquiet

theorem depart_servesPanes {marked : MarkedClients} (hidle : loop.daemon.actor.Idle)
    (ok : ViewportsAllowed host okCall marked.staying loop.daemon.session (frontendResizeKeys marked.leaving)) :
    ServesPanes engine okCall loop.daemon (loop.depart engine host inputs marked).2.daemon := by
  have hresize : ServesPanes engine okCall loop.daemon (applyFrontendResizes engine host marked.staying
      inputs.nowMonoMs loop.daemon (frontendResizeKeys marked.leaving)).2 :=
    applyFrontendResizes_servesPanes inputs.nowMonoMs hidle ok
  unfold depart
  dsimp only
  split
  case h_1 heq => rwa [heq] at hresize
  case h_2 changed closed heq =>
    rw [heq] at hresize
    have hdaemon := publishInventory_daemon { loop with daemon := closed, clients := marked.staying } [] []
      (marked.leaving.map LiveAttachedClient.connectionId)
    split
    all_goals
      rename_i heq
      rw [heq] at hdaemon
      dsimp only at hdaemon
      rwa [hdaemon]

/-! ### Connections -/

/-- A condition on the connections that are accepted, as far as the loop gets. -/
def ArrivalsAllowed (engine : TerminalEngine σ) (host : ProcessHost η)
    (ok : Daemon σ η → Arrival → Prop) (config : LiveConfig) :
    List Arrival → LiveLoop σ η → Prop
  | [], _ => True
  | arrival :: rest, loop => config.connectionLimit.acceptsMore loop.acceptedClients = true →
    ok loop.daemon arrival ∧ ∀ after, loop.acceptArrival engine host arrival = (.ok (), after) →
      ArrivalsAllowed engine host ok config rest after

/-- **Accept induction.** What every allowed connection keeps, accepting connections keeps. -/
theorem acceptArrivals_invariant {ok : Daemon σ η → Arrival → Prop} {I : Daemon σ η → Prop}
    (hstep : ∀ (loop : LiveLoop σ η) arrival, I loop.daemon → ok loop.daemon arrival →
      I (loop.acceptArrival engine host arrival).2.daemon)
    {arrivals : List Arrival} (hinit : I loop.daemon)
    (hallowed : ArrivalsAllowed engine host ok config arrivals loop) :
    I (loop.acceptArrivals engine host config arrivals).2.daemon := by
  induction arrivals generalizing loop with
  | nil => exact hinit
  | cons arrival rest ih =>
    unfold acceptArrivals
    split
    case isTrue haccepts =>
      obtain ⟨hfirst, hrest⟩ := hallowed haccepts
      have hnext := hstep loop arrival hinit hfirst
      split
      case h_1 heq => rwa [heq] at hnext
      case h_2 after heq =>
        rw [heq] at hnext
        exact ih hnext (hrest _ heq)
    case isFalse => exact hinit

end LiveLoop

end Nmux.Live
