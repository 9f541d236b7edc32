import Nmux.Live.Accept
import Nmux.Core.InterimText

/-! The concurrent live loop. A round accepts the connections there are, reads the clients that have
something to say, applies the viewports they agree on, polls the panes and sends every client what
changed; clients that closed or have had their cycles leave. What is seen in a round is kept in flags,
and the workspace is sent only when a flag says that it changed. -/
namespace Nmux.Live

inductive ConnectionLimit where
  | bounded (limit : Nat)
  | unbounded

def ConnectionLimit.acceptsMore : ConnectionLimit → Nat → Bool
  | .bounded limit, accepted => accepted < limit
  | .unbounded, _ => true

/-- How the loop is run. `hostNotifies` says that the host has a descriptor that becomes readable when a
pane has output. -/
structure LiveConfig where
  connectionLimit : ConnectionLimit
  cyclesPerClient : Nat
  hostNotifies : Bool
  cyclesPerClient_le : cyclesPerClient ≤ usizeMax

/-- What a client that is found readable has to be read, and the clock then. -/
structure ClientReads where
  frames : List (Except ServeError LiveClientRead)
  nowMonoMs : UInt64

/-- What a round finds: the connections to accept, what the readable clients, by their index, have to be
read, whether the host has output, the clock, and how often the polls read and repeat. -/
structure RoundInputs where
  arrivals : List Arrival
  reads : Nat → Option ClientReads
  hostOutput : Bool
  nowMonoMs : UInt64
  outputReads : Nat
  outputRounds : Nat

/-- The variables of the loop. -/
structure LiveLoop (σ η : Type) where
  daemon : Daemon σ η
  clients : List LiveAttachedClient
  inventoryVersion : Nat
  nextConnectionId : Nat
  acceptedClients : Nat

/-- How the loop is left: with an error, or after the host failed to be read. -/
inductive LiveExit where
  | failed (error : ServeError)
  | ended
deriving DecidableEq, Repr

namespace LiveAttachedClient

/-- `write_presence_to_live_client`, its result dropped. -/
def writePresence (client : LiveAttachedClient) (actor : Actor) : LiveAttachedClient :=
  (client.queueReliableFrame (.presence (presenceUpdate actor))).2

/-- What a broadcast sends one client: the workspace if it changed, then the panes that did. -/
def writeChanges (client : LiveAttachedClient) (session : Session) (changedWorkspace : Bool)
    (paneIds : List String) : Except ServeError Unit × LiveAttachedClient :=
  if changedWorkspace then
    match client.queueReliableFrame (.workspace (session.workspaceTreeFrame "local-client" client.seq)) with
    | (.error error, client) => (.error error, client)
    | (.ok _, client) => signalChangedSurfaceFrames session paneIds client
  else signalChangedSurfaceFrames session paneIds client

/-- A cycle counts if something happened, and output alone counts for who only reads. Whether the client
has had its cycles. -/
def completeCycle (config : LiveConfig) (happened hostOutput : Bool) (client : LiveAttachedClient) :
    LiveAttachedClient × Bool :=
  let client := if happened || (hostOutput && client.actor.mode == .readOnly) then
      { client with completedCycles := min (client.completedCycles + 1) usizeMax }
    else client
  (client, config.cyclesPerClient ≤ client.completedCycles)

end LiveAttachedClient

/-! ### Clients that leave

The source keeps the sorted indices of the clients that leave; here each client is marked. -/

abbrev MarkedClients := List (LiveAttachedClient × Bool)

namespace MarkedClients

def unmarked (clients : List LiveAttachedClient) : MarkedClients := clients.map (·, false)

def all (marked : MarkedClients) : List LiveAttachedClient := marked.map (·.1)

def leaving (marked : MarkedClients) : List LiveAttachedClient := (marked.filter (·.2)).map (·.1)

def staying (marked : MarkedClients) : List LiveAttachedClient := (marked.filter (!·.2)).map (·.1)

end MarkedClients

/-- The panes that clients have viewports for. -/
def frontendResizeKeys (clients : List LiveAttachedClient) : List String :=
  clients.flatMap fun client => client.frontendResizeConstraints.entries.map (·.1)

/-- `sort` and `dedup`. -/
def sortDedup (paneIds : List String) : List String := (paneIds.insertionSort (· ≤ ·)).dedup

/-- Changes sent to the clients in order, up to the first that fails otherwise than by a closed socket;
a client with a closed socket leaves, and so does one that is done. -/
def broadcast (session : Session) (changedWorkspace : Bool) (paneIds : List String)
    (complete : LiveAttachedClient → LiveAttachedClient × Bool) :
    MarkedClients → Except ServeError Unit × MarkedClients
  | [] => (.ok (), [])
  | (client, leaves) :: rest =>
    match client.writeChanges session changedWorkspace paneIds with
    | (.error error, client) =>
      if isSocketClosed error then
        let (result, rest) := broadcast session changedWorkspace paneIds complete rest
        (result, (client, true) :: rest)
      else (.error error, (client, leaves) :: rest)
    | (.ok _, client) =>
      let (result, rest) := broadcast session changedWorkspace paneIds complete rest
      (result, ((complete client).1, leaves || (complete client).2) :: rest)

/-! ### Drains -/

/-- What a round has seen so far. -/
structure LiveRound where
  hadInput : Bool
  inputPaneIds : List String
  frontendResizePaneIds : List String
  changedWorkspace : Bool
  inventoryUpdates : List ClientConnectionSummary

namespace LiveRound

def none : LiveRound where
  hadInput := false
  inputPaneIds := []
  frontendResizePaneIds := []
  changedWorkspace := false
  inventoryUpdates := []

/-- A client whose drain is cut short leaves: what the drain saw is lost, and its viewports are applied
again. -/
def cut (round : LiveRound) (client : LiveAttachedClient) : LiveRound :=
  { round with
    frontendResizePaneIds := round.frontendResizePaneIds ++ frontendResizeKeys [client] }

/-- What a drain comes to, and whether its client leaves. -/
def drained (round : LiveRound) (client : LiveAttachedClient) :
    Except ServeError ClientDrainStatus → Except ServeError (LiveRound × Bool)
  | .ok (.open drain closeAfterDrain) =>
    .ok ({
        hadInput := round.hadInput || drain.hadInput
        inputPaneIds := round.inputPaneIds ++ drain.inputPaneIds
        frontendResizePaneIds := round.frontendResizePaneIds ++ drain.frontendResizePaneIds
        changedWorkspace := round.changedWorkspace || drain.changedWorkspace
        inventoryUpdates := round.inventoryUpdates ++
          (if drain.hadInput then [client.inventoryEntry] else []) }, closeAfterDrain)
  | .ok .closed => .ok (round.cut client, true)
  | .error error => if isSocketClosed error then .ok (round.cut client, true) else .error error

end LiveRound

variable {σ η : Type} (engine : TerminalEngine σ) (host : ProcessHost η)

/-- The clients that are readable, drained in order from an index on. -/
def drainReadableClients (reads : Nat → Option ClientReads) :
    Nat → List LiveAttachedClient → Daemon σ η → LiveRound →
      Except ServeError LiveRound × MarkedClients × Daemon σ η
  | _, [], daemon, round => (.ok round, [], daemon)
  | index, client :: rest, daemon, round =>
    match reads index with
    | .none =>
      let (result, rest, daemon) := drainReadableClients reads (index + 1) rest daemon round
      (result, (client, false) :: rest, daemon)
    | some clientReads =>
      let (status, client, daemon) := drainLiveClientFrames engine host clientReads.nowMonoMs client
        daemon .none clientReads.frames
      match round.drained client status with
      | .error error => (.error error, (client, false) :: MarkedClients.unmarked rest, daemon)
      | .ok (round, leaves) =>
        let (result, rest, daemon) := drainReadableClients reads (index + 1) rest daemon round
        (result, (client, leaves) :: rest, daemon)

/-- What the outputs of a round come to. -/
structure OutputRound where
  clients : MarkedClients
  changedWorkspace : Bool
  outputChanged : Bool

namespace LiveLoop

/-- The loop before its first round. -/
def start (daemon : Daemon σ η) : LiveLoop σ η where
  daemon := daemon
  clients := []
  inventoryVersion := 0
  nextConnectionId := 1
  acceptedClients := 0

/-- What changed of the inventory is sent as its next version. -/
def publishInventory (loop : LiveLoop σ η) (joined updated : List ClientConnectionSummary)
    (leftConnectionIds : List String) : Except ServeError Unit × LiveLoop σ η :=
  if joined.isEmpty && updated.isEmpty && leftConnectionIds.isEmpty then (.ok (), loop)
  else
    let (result, clients) := writeClientInventoryPatch loop.clients loop.inventoryVersion
      (loop.inventoryVersion + 1) joined updated leftConnectionIds
    (result, { loop with clients, inventoryVersion := loop.inventoryVersion + 1 })

/-- The clients are told that the host failed. -/
def reportHostError (loop : LiveLoop σ η) (error : HostError) : LiveLoop σ η :=
  { loop with clients := loop.clients.map fun client =>
      (client.queueHostOutputError (hostErrorPaneId error) error).2 }

/-! ### Accepting -/

/-- A client joins: it and the others are shown each other. -/
def join (loop : LiveLoop σ η) (client : LiveAttachedClient) : Except ServeError Unit × LiveLoop σ η :=
  let loop := { loop with
    acceptedClients := loop.acceptedClients + 1
    nextConnectionId := loop.nextConnectionId + 1 }
  let actors := loop.clients.map LiveAttachedClient.actor
  let shown (existing : LiveAttachedClient) := existing.writePresence client.actor
  match { loop with clients := loop.clients.map shown }.publishInventory [client.inventoryEntry] [] [] with
  | (.error error, loop) => (.error error, loop)
  | (.ok _, loop) =>
    let client := actors.foldl LiveAttachedClient.writePresence client
    let (result, client) := client.writeClientInventorySnapshot loop.inventoryVersion
      ((loop.clients ++ [client]).map LiveAttachedClient.inventoryEntry)
    (result, { loop with clients := loop.clients ++ [client] })

/-- A connection is served or joins. -/
def acceptArrival (arrival : Arrival) (loop : LiveLoop σ η) : Except LiveExit Unit × LiveLoop σ η :=
  match acceptLiveClient engine host arrival ("conn-" ++ toString loop.nextConnectionId) loop.daemon with
  | (.error error, daemon) => (.error (.failed error), { loop with daemon })
  | (.ok .shutdown, daemon) => (.error (.failed .sessionShutdown), { loop with daemon })
  | (.ok .command, daemon) =>
    (.ok (), { loop with daemon, acceptedClients := loop.acceptedClients + 1 })
  | (.ok (.attached client), daemon) =>
    match { loop with daemon }.join client with
    | (.error error, loop) => (.error (.failed error), loop)
    | (.ok _, loop) => (.ok (), loop)

/-- The connections there are, as far as the limit goes. -/
def acceptArrivals (config : LiveConfig) :
    List Arrival → LiveLoop σ η → Except LiveExit Unit × LiveLoop σ η
  | [], loop => (.ok (), loop)
  | arrival :: rest, loop =>
    if config.connectionLimit.acceptsMore loop.acceptedClients then
      match loop.acceptArrival engine host arrival with
      | (.error exit, loop) => (.error exit, loop)
      | (.ok _, loop) => acceptArrivals config rest loop
    else (.ok (), loop)

/-! ### Intents -/

/-- The clients that are readable are drained. -/
def drain (inputs : RoundInputs) (loop : LiveLoop σ η) :
    Except LiveExit (LiveRound × MarkedClients) × LiveLoop σ η :=
  match drainReadableClients engine host inputs.reads 0 loop.clients loop.daemon .none with
  | (.error error, marked, daemon) => (.error (.failed error), { loop with daemon, clients := marked.all })
  | (.ok round, marked, daemon) => (.ok (round, marked), { loop with daemon, clients := marked.all })

/-- Viewports are applied and the clients that closed leave. A pane that one of them had a viewport for
is sized for those that stay. -/
def settle (inputs : RoundInputs) (round : LiveRound) (marked : MarkedClients) (loop : LiveLoop σ η) :
    Except LiveExit LiveRound × LiveLoop σ η :=
  match applyFrontendResizes engine host marked.all inputs.nowMonoMs loop.daemon
      (sortDedup round.frontendResizePaneIds) with
  | (.error error, daemon) => (.error (.failed (.host error)), { loop with daemon })
  | (.ok changed, daemon) =>
    match { loop with daemon, clients := marked.staying }.publishInventory [] []
        (marked.leaving.map LiveAttachedClient.connectionId) with
    | (.error error, loop) => (.error (.failed error), loop)
    | (.ok _, loop) =>
      match applyFrontendResizes engine host loop.clients inputs.nowMonoMs loop.daemon
          (frontendResizeKeys marked.leaving) with
      | (.error error, daemon) => (.error (.failed (.host error)), { loop with daemon })
      | (.ok more, daemon) =>
        match { loop with daemon }.publishInventory [] (round.inventoryUpdates.filter fun updated =>
            loop.clients.any (·.connectionId == updated.connectionId)) [] with
        | (.error error, loop) => (.error (.failed error), loop)
        | (.ok _, loop) =>
          (.ok { round with changedWorkspace := round.changedWorkspace || changed || more }, loop)

/-! ### Output -/

/-- Whether the client takes part in a bounded number of cycles, so that its input is answered at once. -/
def holdsFirstSurface (config : LiveConfig) (round : LiveRound) : Bool :=
  round.hadInput && config.cyclesPerClient != usizeMax && config.hostNotifies

/-- The first poll, after input or when the host has output. What it brings is sent at once, unless it
is held back for what follows. -/
def firstOutput (config : LiveConfig) (inputs : RoundInputs) (round : LiveRound) (loop : LiveLoop σ η) :
    Except LiveExit OutputRound × LiveLoop σ η :=
  let leafPaneIds := loop.daemon.session.leafPaneIds
  let marked : MarkedClients := .unmarked loop.clients
  if round.hadInput || inputs.hostOutput then
    match loop.daemon.pollPanesOnce engine host leafPaneIds round.inputPaneIds inputs.nowMonoMs
        inputs.outputReads with
    | (.error error, daemon) => (.error .ended, { loop with daemon }.reportHostError error)
    | (.ok false, daemon) => (.ok ⟨marked, round.changedWorkspace, false⟩, { loop with daemon })
    | (.ok true, daemon) =>
      if holdsFirstSurface config round then
        (.ok ⟨marked, round.changedWorkspace, true⟩, { loop with daemon })
      else
        match broadcast daemon.session round.changedWorkspace leafPaneIds (·, false) marked with
        | (.error error, marked) =>
          (.error (.failed error), { loop with daemon, clients := marked.all })
        | (.ok _, marked) =>
          (.ok ⟨marked, false, true⟩, { loop with daemon, clients := marked.all })
  else (.ok ⟨marked, round.changedWorkspace, false⟩, loop)

/-- The poll that goes on until the panes are quiet. A host that notifies is polled on only after input
that is answered at once. -/
def quietOutput (config : LiveConfig) (inputs : RoundInputs) (round : LiveRound) (leafPaneIds : List String)
    (output : OutputRound) (loop : LiveLoop σ η) : Except LiveExit OutputRound × LiveLoop σ η :=
  if config.hostNotifies && !holdsFirstSurface config round then (.ok output, loop)
  else
    match loop.daemon.pollPanesUntilQuiet engine host leafPaneIds inputs.nowMonoMs inputs.outputReads
        inputs.outputRounds with
    | (.error error, daemon) => (.error .ended, { loop with daemon }.reportHostError error)
    | (.ok changed, daemon) =>
      (.ok { output with outputChanged := output.outputChanged || changed }, { loop with daemon })

/-- Every client is sent what changed. -/
def publish (config : LiveConfig) (inputs : RoundInputs) (round : LiveRound) (leafPaneIds : List String)
    (output : OutputRound) (loop : LiveLoop σ η) : Except LiveExit MarkedClients × LiveLoop σ η :=
  let happened := round.hadInput || output.outputChanged || output.changedWorkspace
  match broadcast loop.daemon.session output.changedWorkspace leafPaneIds
      (LiveAttachedClient.completeCycle config happened inputs.hostOutput) output.clients with
  | (.error error, marked) => (.error (.failed error), { loop with clients := marked.all })
  | (.ok _, marked) => (.ok marked, { loop with clients := marked.all })

/-- The clients that closed or are done leave. Whether the workspace changed by it is dropped. -/
def depart (inputs : RoundInputs) (marked : MarkedClients) (loop : LiveLoop σ η) :
    Except LiveExit Unit × LiveLoop σ η :=
  let loop := { loop with clients := marked.staying }
  match applyFrontendResizes engine host loop.clients inputs.nowMonoMs loop.daemon
      (frontendResizeKeys marked.leaving) with
  | (.error error, daemon) => (.error (.failed (.host error)), { loop with daemon })
  | (.ok _, daemon) =>
    match { loop with daemon }.publishInventory [] [] (marked.leaving.map LiveAttachedClient.connectionId) with
    | (.error error, loop) => (.error (.failed error), loop)
    | (.ok _, loop) => (.ok (), loop)

/-! ### Rounds -/

/-- A round from its drains to its broadcast. -/
def serveClients (config : LiveConfig) (inputs : RoundInputs) (loop : LiveLoop σ η) :
    Except LiveExit MarkedClients × LiveLoop σ η :=
  match loop.drain engine host inputs with
  | (.error exit, loop) => (.error exit, loop)
  | (.ok (round, marked), loop) =>
    match loop.settle engine host inputs round marked with
    | (.error exit, loop) => (.error exit, loop)
    | (.ok round, loop) =>
      let leafPaneIds := loop.daemon.session.leafPaneIds
      match loop.firstOutput engine host config inputs round with
      | (.error exit, loop) => (.error exit, loop)
      | (.ok output, loop) =>
        match loop.quietOutput engine host config inputs round leafPaneIds output with
        | (.error exit, loop) => (.error exit, loop)
        | (.ok output, loop) => loop.publish config inputs round leafPaneIds output

/-- One round of `serve_live_concurrent_n_with_session_actor`. The loop is over when it accepts no more
and has no client. -/
def round (config : LiveConfig) (inputs : RoundInputs) (loop : LiveLoop σ η) :
    Except LiveExit Unit × LiveLoop σ η :=
  if config.connectionLimit.acceptsMore loop.acceptedClients || !loop.clients.isEmpty then
    match loop.acceptArrivals engine host config inputs.arrivals with
    | (.error exit, loop) => (.error exit, loop)
    | (.ok _, loop) =>
      match loop.serveClients engine host config inputs with
      | (.error exit, loop) => (.error exit, loop)
      | (.ok marked, loop) => loop.depart engine host inputs marked
  else (.error .ended, loop)

/-- Rounds in order, until the loop is left. -/
def rounds (config : LiveConfig) : List RoundInputs → LiveLoop σ η → Except LiveExit Unit × LiveLoop σ η
  | [], loop => (.ok (), loop)
  | inputs :: rest, loop =>
    match loop.round engine host config inputs with
    | (.error exit, loop) => (.error exit, loop)
    | (.ok _, loop) => rounds config rest loop

/-- A condition on the rounds, as far as the loop gets. -/
def RoundsAllowed (config : LiveConfig) (ok : LiveLoop σ η → RoundInputs → Prop) :
    List RoundInputs → LiveLoop σ η → Prop
  | [], _ => True
  | inputs :: rest, loop => ok loop inputs ∧
    ∀ after, loop.round engine host config inputs = (.ok (), after) → RoundsAllowed config ok rest after

variable {engine host}

/-- What holds of all inputs holds as far as the loop gets. -/
theorem RoundsAllowed.of_forall {config : LiveConfig} {ok : RoundInputs → Prop} {inputs : List RoundInputs}
    {loop : LiveLoop σ η} (h : ∀ round ∈ inputs, ok round) :
    loop.RoundsAllowed engine host config (fun _ round => ok round) inputs := by
  induction inputs generalizing loop with
  | nil => trivial
  | cons inputs rest ih =>
    obtain ⟨hfirst, hrest⟩ := List.forall_mem_cons.mp h
    exact ⟨hfirst, fun after _ => ih hrest⟩

/-- **Round induction.** What every allowed round keeps that does not leave the loop, the rounds keep. -/
theorem rounds_invariant {config : LiveConfig} {ok : LiveLoop σ η → RoundInputs → Prop}
    {I : LiveLoop σ η → Prop} (hround : ∀ loop inputs after, I loop → ok loop inputs →
      loop.round engine host config inputs = (.ok (), after) → I after)
    {inputs : List RoundInputs} {loop after : LiveLoop σ η} (hinit : I loop)
    (hallowed : loop.RoundsAllowed engine host config ok inputs)
    (hrounds : loop.rounds engine host config inputs = (.ok (), after)) : I after := by
  induction inputs generalizing loop with
  | nil =>
    cases hrounds
    exact hinit
  | cons inputs rest ih =>
    unfold rounds at hrounds
    split at hrounds
    · cases hrounds
    case h_2 next heq =>
      exact ih (hround _ _ _ hinit hallowed.1 heq) (hallowed.2 _ heq) hrounds

/-- A run that ends well leaves what it leaves. -/
theorem rounds_of_ok {config : LiveConfig} {loop : LiveLoop σ η} {rounds : List RoundInputs}
    (hok : (loop.rounds engine host config rounds).1 = .ok ()) :
    loop.rounds engine host config rounds = (.ok (), (loop.rounds engine host config rounds).2) :=
  Prod.ext hok rfl

end LiveLoop

/-! ### Plain loops -/

/-- A client that may write, and asks for no pane by name. -/
def plainRequest : AttachRequest where
  actorId := "actor"
  userId := "user"
  displayName := "User"
  mode := .readWrite
  focusedPaneId := none
  knownSurfaces := []
  hostname := "host"
  clientKind := "nmux"
  subscribeClientInventory := false

/-- A connection whose first frame is read, and that takes all it is sent. -/
def plainArrival (initial : ClientInitialFrame) : Arrival where
  initial := .ok initial
  writes _ := none
  sends _ := none
  nowMonoMs := 0
  reads := 0
  rounds := 0

/-- A round in which the first client has some frames to be read. -/
def plainRound (arrivals : List Arrival) (frames : List LiveClientFrame) : RoundInputs where
  arrivals := arrivals
  reads
    | 0 => if frames.isEmpty then none else some ⟨frames.map fun frame => .ok (.frame frame), 0⟩
    | _ => none
  hostOutput := false
  nowMonoMs := 0
  outputReads := 0
  outputRounds := 0

/-- The loop of a server that listens until it is stopped. -/
def plainConfig : LiveConfig where
  connectionLimit := .unbounded
  cyclesPerClient := usizeMax
  hostNotifies := true
  cyclesPerClient_le := Nat.le_refl _

/-- The loop on the initial session, before its first round. -/
def plainLoop : LiveLoop InterimAnsiState Unit :=
  .start (.start interimTextTerminalEngine .initial 16 ())

end Nmux.Live
