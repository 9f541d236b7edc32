import Nmux.Lib.Aligned
import Nmux.Live.Inventory

/-! Clients that may not write. Whatever they send, and whenever they leave, the daemon does what it
would have done without it: their frames are answered from what the session is, their viewports are
never kept, and neither is a poll made because of them. Clients that may write and are seen alike come to
the same. -/
namespace Nmux.Live

open Lib (Aligned)

/-! ### Clients side by side -/

/-- A client that may not write, and has no viewport. -/
structure Observes (client : LiveAttachedClient) : Prop where
  readOnly : Session.inputAllowed client.actor = false
  viewports : client.frontendResizeConstraints = .empty

/-- One client that may write, in two runs: it is seen alike, has the same viewports and has had as many
cycles. Its end takes whatever it is sent. -/
structure SameWriter (client other : LiveAttachedClient) : Prop where
  mayWrite : Session.inputAllowed client.actor = true
  inventoryEntry : client.inventoryEntry = other.inventoryEntry
  viewports : client.frontendResizeConstraints = other.frontendResizeConstraints
  completedCycles : client.completedCycles = other.completedCycles
  takes : ∀ n, client.transport.refuses n = none
  otherTakes : ∀ n, other.transport.refuses n = none

/-- The client is sent something, and is otherwise as it was. -/
structure Told (client after : LiveAttachedClient) : Prop where
  inventoryEntry : after.inventoryEntry = client.inventoryEntry
  transport : after.transport = client.transport
  viewports : after.frontendResizeConstraints = client.frontendResizeConstraints
  completedCycles : after.completedCycles = client.completedCycles

theorem Told.refl (client : LiveAttachedClient) : Told client client := ⟨rfl, rfl, rfl, rfl⟩

theorem Told.trans {client middle after : LiveAttachedClient} (first : Told client middle)
    (second : Told middle after) : Told client after where
  inventoryEntry := second.inventoryEntry.trans first.inventoryEntry
  transport := second.transport.trans first.transport
  viewports := second.viewports.trans first.viewports
  completedCycles := second.completedCycles.trans first.completedCycles

theorem Told.actor {client after : LiveAttachedClient} (h : Told client after) :
    after.actor = client.actor := congrArg ClientConnectionSummary.actor h.inventoryEntry

theorem Observes.told {client after : LiveAttachedClient} (h : Observes client)
    (htold : Told client after) : Observes after :=
  ⟨by rw [htold.actor, h.readOnly], by rw [htold.viewports, h.viewports]⟩

namespace SameWriter

variable {client other : LiveAttachedClient}

theorem actor (h : SameWriter client other) : client.actor = other.actor :=
  congrArg ClientConnectionSummary.actor h.inventoryEntry

theorem not_rejected (h : SameWriter client other) : ¬ (!Session.inputAllowed client.actor) = true := by
  rw [h.mayWrite]
  decide

theorem not_rejected' (h : SameWriter client other) : ¬ (!Session.inputAllowed other.actor) = true := by
  rw [← h.actor]
  exact h.not_rejected

theorem connectionId (h : SameWriter client other) : client.connectionId = other.connectionId :=
  congrArg ClientConnectionSummary.connectionId h.inventoryEntry

theorem told {after otherAfter : LiveAttachedClient} (h : SameWriter client other)
    (htold : Told client after) (hother : Told other otherAfter) : SameWriter after otherAfter where
  mayWrite := by rw [htold.actor, h.mayWrite]
  inventoryEntry := by rw [htold.inventoryEntry, hother.inventoryEntry, h.inventoryEntry]
  viewports := by rw [htold.viewports, hother.viewports, h.viewports]
  completedCycles := by rw [htold.completedCycles, hother.completedCycles, h.completedCycles]
  takes := by rw [htold.transport]; exact h.takes
  otherTakes := by rw [hother.transport]; exact h.otherTakes

end SameWriter

/-! ### What is sent -/

namespace LiveAttachedClient

theorem queueReliableFrame_told (client : LiveAttachedClient) (frame : ServerFrame) :
    Told client (client.queueReliableFrame frame).2 := by
  unfold queueReliableFrame
  split <;> exact ⟨rfl, rfl, rfl, rfl⟩

theorem queueReliableFrame_taken {client : LiveAttachedClient}
    (h : ∀ n, client.transport.refuses n = none) (frame : ServerFrame) :
    client.queueReliableFrame frame = (.ok (), client.take frame) := by
  unfold queueReliableFrame
  rw [h]

theorem skipSurface_told (client : LiveAttachedClient) (paneId : String) (current : UInt64) :
    Told client (client.skipSurface paneId current) := by
  unfold skipSurface
  split <;> exact ⟨rfl, rfl, rfl, rfl⟩

theorem signalChangedSurfaceFrames_told (session : Session) (paneIds : List String)
    (client : LiveAttachedClient) :
    Told client (signalChangedSurfaceFrames session paneIds client).2 := by
  induction paneIds generalizing client with
  | nil => exact .refl client
  | cons paneId rest ih =>
    unfold signalChangedSurfaceFrames
    split
    · exact ih client
    case h_2 current _ =>
      split
      · exact (client.skipSurface_told paneId current).trans (ih _)
      case h_2 frame _ =>
        have htold := client.queueReliableFrame_told frame
        split
        case h_1 heq => rwa [heq] at htold
        case h_2 sent heq =>
          rw [heq] at htold
          have hknown : Told sent { sent with
            knownSurfaceVersions := sent.knownSurfaceVersions.insert paneId current } :=
            ⟨rfl, rfl, rfl, rfl⟩
          exact (htold.trans hknown).trans (ih _)

theorem writeChanges_told (session : Session) (changedWorkspace : Bool) (paneIds : List String)
    (client : LiveAttachedClient) :
    Told client (client.writeChanges session changedWorkspace paneIds).2 := by
  unfold writeChanges
  split
  · have htold := client.queueReliableFrame_told
      (.workspace (session.workspaceTreeFrame "local-client" client.seq))
    split
    case h_1 heq => rwa [heq] at htold
    case h_2 heq =>
      rw [heq] at htold
      exact htold.trans (signalChangedSurfaceFrames_told session paneIds _)
  · exact signalChangedSurfaceFrames_told session paneIds client

/-- A client that takes all it is sent is sent all changes. -/
theorem signalChangedSurfaceFrames_taken (session : Session) (paneIds : List String)
    {client : LiveAttachedClient} (h : ∀ n, client.transport.refuses n = none) :
    (signalChangedSurfaceFrames session paneIds client).1 = .ok () := by
  induction paneIds generalizing client with
  | nil => rfl
  | cons paneId rest ih =>
    unfold signalChangedSurfaceFrames
    split
    · exact ih h
    case h_2 current _ =>
      split
      · exact ih (by rw [(client.skipSurface_told paneId current).transport]; exact h)
      case h_2 frame _ =>
        rw [queueReliableFrame_taken h]
        exact ih h

theorem writeChanges_taken (session : Session) (changedWorkspace : Bool) (paneIds : List String)
    {client : LiveAttachedClient} (h : ∀ n, client.transport.refuses n = none) :
    (client.writeChanges session changedWorkspace paneIds).1 = .ok () := by
  unfold writeChanges
  split
  · rw [queueReliableFrame_taken h]
    exact signalChangedSurfaceFrames_taken session paneIds h
  · exact signalChangedSurfaceFrames_taken session paneIds h

theorem writePresences_told (actors : List Nmux.Actor) (client : LiveAttachedClient) :
    Told client (actors.foldl writePresence client) := by
  induction actors generalizing client with
  | nil => exact .refl client
  | cons actor rest ih => exact (client.queueReliableFrame_told _).trans (ih _)

theorem writeClientInventorySnapshot_told (version : Nat) (clients : List ClientConnectionSummary)
    (client : LiveAttachedClient) :
    Told client (client.writeClientInventorySnapshot version clients).2 := by
  unfold writeClientInventorySnapshot
  split
  · exact client.queueReliableFrame_told _
  · exact .refl client

end LiveAttachedClient

theorem forall₂_told_refl (clients : List LiveAttachedClient) : List.Forall₂ Told clients clients :=
  List.forall₂_same.mpr fun client _ => .refl client

theorem writeToSubscribers_told (frame : ServerFrame) (clients : List LiveAttachedClient) :
    List.Forall₂ Told clients (writeToSubscribers frame clients).2 := by
  induction clients with
  | nil => exact .nil
  | cons client rest ih =>
    have htold := client.queueReliableFrame_told frame
    unfold writeToSubscribers
    split
    · split
      case h_1 heq =>
        rw [heq] at htold
        split
        · exact .cons htold ih
        · exact .cons htold (forall₂_told_refl rest)
      case h_2 heq =>
        rw [heq] at htold
        exact .cons htold ih
    · exact .cons (.refl client) ih

theorem forall₂_told_trans {clients middle after : List LiveAttachedClient}
    (first : List.Forall₂ Told clients middle) (second : List.Forall₂ Told middle after) :
    List.Forall₂ Told clients after := by
  induction first generalizing after with
  | nil => exact second
  | cons head _ ih =>
    obtain ⟨last, rest, hhead, hrest, rfl⟩ := List.forall₂_cons_left_iff.mp second
    exact .cons (head.trans hhead) (ih hrest)

/-- Clients that are told something stay side by side. -/
theorem aligned_told {clients others after otherAfter : List LiveAttachedClient}
    (h : Aligned Observes SameWriter clients others) (htold : List.Forall₂ Told clients after)
    (hother : List.Forall₂ Told others otherAfter) : Aligned Observes SameWriter after otherAfter :=
  h.forall₂ htold hother (fun _ _ h htold => h.told htold) (fun _ _ h htold => h.told htold)
    fun _ _ _ _ h htold hother => h.told htold hother

/-! ### Frames -/

section
variable {σ η : Type} {engine : TerminalEngine σ} {host : ProcessHost η}
  {client other : LiveAttachedClient} {daemon : Daemon σ η}

/-- Two runs come to the same with a client that may write. -/
structure SameOutcome {ρ : Type} (left right : ρ × LiveAttachedClient × Daemon σ η) : Prop where
  result : left.1 = right.1
  client : SameWriter left.2.1 right.2.1
  daemon : left.2.2 = right.2.2

namespace SameWriter

theorem taken (h : SameWriter client other) (frame : ServerFrame) :
    SameWriter (client.take frame) (other.take frame) :=
  h.told ⟨rfl, rfl, rfl, rfl⟩ ⟨rfl, rfl, rfl, rfl⟩

theorem answered (h : SameWriter client other) (after : FrameResult) (frame : ServerFrame)
    (daemon : Daemon σ η) :
    SameOutcome (answered after (client.queueReliableFrame frame) daemon)
      (answered after (other.queueReliableFrame frame) daemon) := by
  rw [LiveAttachedClient.queueReliableFrame_taken h.takes,
    LiveAttachedClient.queueReliableFrame_taken h.otherTakes]
  exact ⟨rfl, h.taken frame, rfl⟩

/-- Seen at the same time, and writing at the same time. -/
theorem seen (h : SameWriter client other) (nowMonoMs : UInt64) :
    SameWriter { client with lastSeenMonoMs := nowMonoMs }
      { other with lastSeenMonoMs := nowMonoMs } where
  mayWrite := h.mayWrite
  inventoryEntry := congrArg (fun entry : ClientConnectionSummary =>
    { entry with lastSeenMonoMs := nowMonoMs }) h.inventoryEntry
  viewports := h.viewports
  completedCycles := h.completedCycles
  takes := h.takes
  otherTakes := h.otherTakes

theorem wrote (h : SameWriter client other) (nowMonoMs : UInt64) :
    SameWriter { client with lastSeenMonoMs := nowMonoMs, lastInputMonoMs := some nowMonoMs }
      { other with lastSeenMonoMs := nowMonoMs, lastInputMonoMs := some nowMonoMs } where
  mayWrite := h.mayWrite
  inventoryEntry := congrArg (fun entry : ClientConnectionSummary =>
    { entry with lastSeenMonoMs := nowMonoMs, lastInputMonoMs := some nowMonoMs }) h.inventoryEntry
  viewports := h.viewports
  completedCycles := h.completedCycles
  takes := h.takes
  otherTakes := h.otherTakes

theorem constrained (h : SameWriter client other) (paneId : String) (size : UInt32 × UInt32) :
    SameWriter
      { client with frontendResizeConstraints := client.frontendResizeConstraints.insert paneId size }
      { other with frontendResizeConstraints := other.frontendResizeConstraints.insert paneId size } where
  mayWrite := h.mayWrite
  inventoryEntry := h.inventoryEntry
  viewports := by
    show client.frontendResizeConstraints.insert paneId size = _
    rw [h.viewports]
  completedCycles := h.completedCycles
  takes := h.takes
  otherTakes := h.otherTakes

theorem forwardLiveInput (h : SameWriter client other) (daemon : Daemon σ η) (input : InputSummary)
    (nowMonoMs : UInt64) :
    SameOutcome (forwardLiveInput engine host client daemon input nowMonoMs)
      (forwardLiveInput engine host other daemon input nowMonoMs) := by
  have hqueued (code : Protocol.ErrorCode) (message : String) (daemon : Daemon σ η) :
      SameOutcome
        (((client.queueProtocolError code message (some input.paneId) input.inputSeq).1,
          (client.queueProtocolError code message (some input.paneId) input.inputSeq).2, daemon))
        (((other.queueProtocolError code message (some input.paneId) input.inputSeq).1,
          (other.queueProtocolError code message (some input.paneId) input.inputSeq).2, daemon)) := by
    unfold LiveAttachedClient.queueProtocolError
    rw [LiveAttachedClient.queueReliableFrame_taken h.takes,
      LiveAttachedClient.queueReliableFrame_taken h.otherTakes]
    exact ⟨rfl, h.taken _, rfl⟩
  unfold Live.forwardLiveInput
  dsimp only
  rw [h.actor]
  split
  · exact hqueued _ _ _
  split
  · exact hqueued _ _ _
  split
  · exact hqueued _ _ _
  split
  · exact ⟨rfl, h, rfl⟩
  · split
    · exact ⟨rfl, h, rfl⟩
    · exact hqueued _ _ _

theorem drainResize (h : SameWriter client other) (daemon : Daemon σ η) (drain : ClientDrain)
    (resize : ResizeIntentSummary) (nowMonoMs : UInt64) :
    SameOutcome (drainResize engine host client daemon drain resize nowMonoMs)
      (drainResize engine host other daemon drain resize nowMonoMs) := by
  have hseen := h.seen nowMonoMs
  unfold Live.drainResize
  generalize { client with lastSeenMonoMs := nowMonoMs } = seen,
    { other with lastSeenMonoMs := nowMonoMs } = otherSeen at hseen ⊢
  have hid : seen.actor.id = otherSeen.actor.id := congrArg Actor.id hseen.actor
  dsimp only
  rw [if_neg hseen.not_rejected, if_neg hseen.not_rejected', hid]
  split
  · exact hseen.answered _ _ _
  split
  · exact ⟨rfl, hseen, rfl⟩
  split
  · exact ⟨rfl, hseen.constrained resize.paneId (resize.cols, resize.rows), rfl⟩
  split
  · exact hseen.answered _ _ _
  split
  · exact ⟨rfl, hseen, rfl⟩
  · exact ⟨rfl, hseen, rfl⟩

theorem drainScrollback (h : SameWriter client other) (daemon : Daemon σ η) (drain : ClientDrain)
    (fetch : ScrollbackFetchSummary) (nowMonoMs : UInt64) :
    SameOutcome (drainScrollback client daemon drain fetch nowMonoMs)
      (drainScrollback other daemon drain fetch nowMonoMs) := by
  have hseen := h.seen nowMonoMs
  unfold Live.drainScrollback
  dsimp only
  split
  · exact hseen.answered _ _ _
  split
  · exact hseen.answered _ _ _
  · exact hseen.answered _ _ _

theorem drainInput (h : SameWriter client other) (daemon : Daemon σ η) (drain : ClientDrain)
    (input : InputSummary) (nowMonoMs : UInt64) :
    SameOutcome (drainInput engine host client daemon drain input nowMonoMs)
      (drainInput engine host other daemon drain input nowMonoMs) := by
  have hwrote := h.wrote nowMonoMs
  unfold Live.drainInput
  generalize { client with lastSeenMonoMs := nowMonoMs, lastInputMonoMs := some nowMonoMs } = writer,
    { other with lastSeenMonoMs := nowMonoMs, lastInputMonoMs := some nowMonoMs } = otherWriter
    at hwrote ⊢
  obtain ⟨hresult, hclient, hdaemon⟩ : SameOutcome
      (Live.forwardLiveInput engine host writer daemon input nowMonoMs)
      (Live.forwardLiveInput engine host otherWriter daemon input nowMonoMs) :=
    hwrote.forwardLiveInput daemon input nowMonoMs
  dsimp only
  rw [if_neg hwrote.not_rejected, if_neg hwrote.not_rejected']
  split
  all_goals
    rename_i heq
    rw [heq] at hresult hclient hdaemon
    split
    all_goals
      rename_i heq'
      rw [heq'] at hresult hclient hdaemon
      cases hresult
  · exact ⟨rfl, hclient, hdaemon⟩
  · exact ⟨rfl, hclient, hdaemon⟩

theorem drainFrame (h : SameWriter client other) (daemon : Daemon σ η) (drain : ClientDrain)
    (nowMonoMs : UInt64) (frame : LiveClientFrame) :
    SameOutcome (drainFrame engine host client daemon drain nowMonoMs frame)
      (drainFrame engine host other daemon drain nowMonoMs frame) := by
  cases frame with
  | resize resize => exact h.drainResize daemon drain resize nowMonoMs
  | scrollback fetch => exact h.drainScrollback daemon drain fetch nowMonoMs
  | input input => exact h.drainInput daemon drain input nowMonoMs
  | ping ping => exact (h.seen nowMonoMs).answered _ _ _

/-- What a client that may write sends comes to the same in both runs. -/
theorem drainLiveClientFrames (h : SameWriter client other) (nowMonoMs : UInt64) (daemon : Daemon σ η)
    (drain : ClientDrain) (frames : List (Except ServeError LiveClientRead)) :
    SameOutcome (drainLiveClientFrames engine host nowMonoMs client daemon drain frames)
      (drainLiveClientFrames engine host nowMonoMs other daemon drain frames) := by
  induction frames generalizing client other daemon drain with
  | nil => exact ⟨rfl, h, rfl⟩
  | cons read rest ih =>
    obtain error | frame | _ := read
    · exact ⟨rfl, h, rfl⟩
    · obtain ⟨hresult, hclient, hdaemon⟩ := h.drainFrame daemon drain
        nowMonoMs frame
      unfold Live.drainLiveClientFrames
      split
      all_goals
        rename_i heq
        rw [heq] at hresult hclient hdaemon
        split
        all_goals
          rename_i heq'
          rw [heq'] at hresult hclient hdaemon
          cases hresult
          try exact ⟨rfl, hclient, hdaemon⟩
      cases hdaemon
      exact ih hclient _ _
    · exact ⟨rfl, h, rfl⟩

end SameWriter

/-! ### Observers -/

/-- What an observer sends is answered, and nothing else comes of it. -/
theorem Observes.drainFrame (h : Observes client) (daemon : Daemon σ η) (drain : ClientDrain)
    (nowMonoMs : UInt64) (frame : LiveClientFrame) :
    Observes (drainFrame engine host client daemon drain nowMonoMs frame).2.1 ∧
      (drainFrame engine host client daemon drain nowMonoMs frame).2.2 = daemon ∧
      ∀ drain', (drainFrame engine host client daemon drain nowMonoMs frame).1 = .next drain' →
        drain' = drain := by
  have hanswered (client : LiveAttachedClient) (h : Observes client) (after : FrameResult)
      (hafter : ∀ drain', after = .next drain' → drain' = drain) (frame : ServerFrame) :
      Observes (answered after (client.queueReliableFrame frame) daemon).2.1 ∧
        (answered after (client.queueReliableFrame frame) daemon).2.2 = daemon ∧
        ∀ drain', (answered after (client.queueReliableFrame frame) daemon).1 = .next drain' →
          drain' = drain := by
    have htold := client.queueReliableFrame_told frame
    generalize client.queueReliableFrame frame = answer at htold ⊢
    obtain ⟨error | _, answering⟩ := answer
    · exact ⟨h.told htold, rfl, fun drain' hnext => by cases hnext⟩
    · exact ⟨h.told htold, rfl, hafter⟩
  have hseen : Observes { client with lastSeenMonoMs := nowMonoMs } := ⟨h.readOnly, h.viewports⟩
  have hrejected : (!Session.inputAllowed client.actor) = true := by rw [h.readOnly]; rfl
  cases frame with
  | resize resize =>
    unfold Live.drainFrame drainResize
    dsimp only
    rw [if_pos hrejected]
    exact hanswered _ hseen .closed (fun drain' hnext => by cases hnext) _
  | scrollback fetch =>
    have hnext : ∀ drain', FrameResult.next drain = .next drain' → drain' = drain := by
      intro drain' hnext
      cases hnext
      rfl
    unfold Live.drainFrame drainScrollback
    dsimp only
    split
    · exact hanswered _ hseen _ hnext _
    split
    · exact hanswered _ hseen .closed (fun drain' hnext => by cases hnext) _
    · exact hanswered _ hseen _ hnext _
  | input input =>
    unfold Live.drainFrame drainInput
    dsimp only
    rw [if_pos hrejected]
    have hwrote : Observes { client with
        lastSeenMonoMs := nowMonoMs, lastInputMonoMs := some nowMonoMs } := ⟨h.readOnly, h.viewports⟩
    exact hanswered _ hwrote .closed (fun drain' hnext => by cases hnext) _
  | ping ping =>
    refine hanswered _ hseen (.next drain) (fun drain' hnext => ?_) _
    cases hnext
    rfl

/-- And so of all it sends. -/
theorem Observes.drainLiveClientFrames (h : Observes client) (nowMonoMs : UInt64)
    (daemon : Daemon σ η) (drain : ClientDrain) (frames : List (Except ServeError LiveClientRead)) :
    Observes (drainLiveClientFrames engine host nowMonoMs client daemon drain frames).2.1 ∧
      (drainLiveClientFrames engine host nowMonoMs client daemon drain frames).2.2 = daemon ∧
      ∀ drain' closes, (drainLiveClientFrames engine host nowMonoMs client daemon drain frames).1 =
        .ok (.open drain' closes) → drain' = drain := by
  induction frames generalizing client with
  | nil =>
    refine ⟨h, rfl, fun drain' closes hopen => ?_⟩
    cases hopen
    rfl
  | cons read rest ih =>
    obtain error | frame | _ := read
    · exact ⟨h, rfl, fun drain' closes hopen => by cases hopen⟩
    · obtain ⟨hclient, hdaemon, hdrain⟩ := h.drainFrame daemon drain
        nowMonoMs frame
      unfold Live.drainLiveClientFrames
      split
      all_goals
        rename_i heq
        rw [heq] at hclient hdaemon hdrain
      · exact ⟨hclient, hdaemon, fun drain' closes hopen => by cases hopen⟩
      · exact ⟨hclient, hdaemon, fun drain' closes hopen => by cases hopen⟩
      · obtain rfl : _ = daemon := hdaemon
        obtain rfl := hdrain _ rfl
        exact ih hclient
    · refine ⟨h, rfl, fun drain' closes hopen => ?_⟩
      cases hopen
      rfl

theorem frontendResizeKeys_observes (h : Observes client) : frontendResizeKeys [client] = [] := by
  rw [frontendResizeKeys, List.flatMap_singleton, h.viewports]
  rfl

/-- The round has seen nothing of an observer. -/
theorem Observes.drained (h : Observes client) {round after : LiveRound} {leaves : Bool}
    {status : Except ServeError ClientDrainStatus}
    (hstatus : ∀ drain closes, status = .ok (.open drain closes) → drain = .none)
    (hdrained : round.drained client status = .ok (after, leaves)) : after = round := by
  have hcut : round.cut client = round := by
    unfold LiveRound.cut
    rw [frontendResizeKeys_observes h, List.append_nil]
  obtain error | ⟨drain, closes⟩ | _ := status
  · dsimp only [LiveRound.drained] at hdrained
    split at hdrained <;> cases hdrained
    exact hcut
  · obtain rfl := hstatus _ _ rfl
    cases hdrained
    simp [ClientDrain.none]
  · cases hdrained
    exact hcut

theorem SameWriter.drained (h : SameWriter client other) (round : LiveRound)
    (status : Except ServeError ClientDrainStatus) :
    round.drained client status = round.drained other status := by
  unfold LiveRound.drained LiveRound.cut frontendResizeKeys
  rw [h.inventoryEntry, List.flatMap_singleton, List.flatMap_singleton, h.viewports]

/-! ### Rounds -/

/-- What the clients that may write have to be read, from an index on. -/
def writerReads (reads : Nat → Option ClientReads) (index : Nat) (clients : List LiveAttachedClient) :
    List (String × Option ClientReads) :=
  (clients.zipIdx index).filterMap fun (client, index) =>
    if Session.inputAllowed client.actor then some (client.connectionId, reads index) else none

theorem writerReads_observes {reads : Nat → Option ClientReads} {index : Nat}
    {rest : List LiveAttachedClient} (h : Observes client) :
    writerReads reads index (client :: rest) = writerReads reads (index + 1) rest := by
  unfold writerReads
  rw [List.zipIdx_cons, List.filterMap_cons_none]
  exact if_neg (by rw [h.readOnly]; decide)

theorem writerReads_writes {reads : Nat → Option ClientReads} {index : Nat}
    {rest : List LiveAttachedClient} (h : Session.inputAllowed client.actor = true) :
    writerReads reads index (client :: rest) =
      (client.connectionId, reads index) :: writerReads reads (index + 1) rest := by
  unfold writerReads
  rw [List.zipIdx_cons, List.filterMap_cons_some]
  exact if_pos h

/-- A client that is read leaves in both runs or in none. -/
structure SameMarked (left right : LiveAttachedClient × Bool) : Prop where
  client : SameWriter left.1 right.1
  leaves : left.2 = right.2

abbrev AlignedMarked : MarkedClients → MarkedClients → Prop :=
  Aligned (fun marked => Observes marked.1) SameMarked

/-- How a drain that goes well starts: the first client has nothing to be read, or is read. -/
theorem drainReadableClients_cons {reads : Nat → Option ClientReads} {index : Nat}
    {rest : List LiveAttachedClient} {round after : LiveRound} {marked : MarkedClients}
    {reached : Daemon σ η}
    (h : drainReadableClients engine host reads index (client :: rest) daemon round =
      (.ok after, marked, reached)) :
    (reads index = none ∧ ∃ others, marked = (client, false) :: others ∧
      drainReadableClients engine host reads (index + 1) rest daemon round =
        (.ok after, others, reached)) ∨
    ∃ clientReads middle leaves others, reads index = some clientReads ∧
      round.drained (drainLiveClientFrames engine host clientReads.nowMonoMs client daemon .none
          clientReads.frames).2.1
        (drainLiveClientFrames engine host clientReads.nowMonoMs client daemon .none
          clientReads.frames).1 = .ok (middle, leaves) ∧
      marked = ((drainLiveClientFrames engine host clientReads.nowMonoMs client daemon .none
        clientReads.frames).2.1, leaves) :: others ∧
      drainReadableClients engine host reads (index + 1) rest (drainLiveClientFrames engine host
        clientReads.nowMonoMs client daemon .none clientReads.frames).2.2 middle =
        (.ok after, others, reached) := by
  unfold drainReadableClients at h
  split at h
  case h_1 hreads =>
    obtain ⟨hresult, hrest⟩ := Prod.mk.inj h
    obtain ⟨hmarked, hreached⟩ := Prod.mk.inj hrest
    exact .inl ⟨hreads, _, hmarked.symm, Prod.ext hresult (Prod.ext rfl hreached)⟩
  case h_2 clientReads hreads =>
    dsimp only at h
    split at h
    · cases congrArg Prod.fst h
    case h_2 middle leaves hdrained =>
      obtain ⟨hresult, hrest⟩ := Prod.mk.inj h
      obtain ⟨hmarked, hreached⟩ := Prod.mk.inj hrest
      exact .inr ⟨clientReads, middle, leaves, _, hreads, hdrained, hmarked.symm,
        Prod.ext hresult (Prod.ext rfl hreached)⟩

/-- An observer is drained without a trace. -/
theorem Observes.drainReadable (h : Observes client) {reads : Nat → Option ClientReads} {index : Nat}
    {rest : List LiveAttachedClient} {round after : LiveRound} {marked : MarkedClients}
    {reached : Daemon σ η}
    (hdrain : drainReadableClients engine host reads index (client :: rest) daemon round =
      (.ok after, marked, reached)) :
    ∃ observer leaves others, Observes observer ∧ marked = (observer, leaves) :: others ∧
      drainReadableClients engine host reads (index + 1) rest daemon round =
        (.ok after, others, reached) := by
  rcases drainReadableClients_cons hdrain with
    ⟨-, others, hmarked, hrest⟩ | ⟨clientReads, middle, leaves, others, -, hdrained, hmarked, hrest⟩
  · exact ⟨client, false, others, h, hmarked, hrest⟩
  · obtain ⟨hclient, hdaemon, hstatus⟩ := h.drainLiveClientFrames 
      clientReads.nowMonoMs daemon .none clientReads.frames
    rw [hdaemon, hclient.drained hstatus hdrained] at hrest
    exact ⟨_, leaves, others, hclient, hmarked, hrest⟩

/-- Clients side by side of which those that may write have the same to be read are drained to the same
round and the same daemon. -/
theorem drainReadableClients_aligned {reads otherReads : Nat → Option ClientReads}
    {clients others : List LiveAttachedClient} (h : Aligned Observes SameWriter clients others)
    {index otherIndex : Nat}
    (hreads : writerReads reads index clients = writerReads otherReads otherIndex others)
    {daemon : Daemon σ η} {round after otherAfter : LiveRound} {marked otherMarked : MarkedClients}
    {reached otherReached : Daemon σ η}
    (hdrain : drainReadableClients engine host reads index clients daemon round =
      (.ok after, marked, reached))
    (hother : drainReadableClients engine host otherReads otherIndex others daemon round =
      (.ok otherAfter, otherMarked, otherReached)) :
    after = otherAfter ∧ reached = otherReached ∧ AlignedMarked marked otherMarked := by
  induction h generalizing index otherIndex daemon round marked otherMarked with
  | nil =>
    cases hdrain
    cases hother
    exact ⟨rfl, rfl, .nil⟩
  | left hobserves _ ih =>
    rw [writerReads_observes hobserves] at hreads
    obtain ⟨observer, leaves, rest, hobserver, rfl, hrest⟩ := hobserves.drainReadable hdrain
    obtain ⟨hround, hreached, hmarked⟩ := ih hreads hrest hother
    exact ⟨hround, hreached, .left hobserver hmarked⟩
  | right hobserves _ ih =>
    rw [writerReads_observes hobserves] at hreads
    obtain ⟨observer, leaves, rest, hobserver, rfl, hrest⟩ := hobserves.drainReadable hother
    obtain ⟨hround, hreached, hmarked⟩ := ih hreads hdrain hrest
    exact ⟨hround, hreached, .right hobserver hmarked⟩
  | @both client other _ _ hsame _ ih =>
    rw [writerReads_writes hsame.mayWrite, writerReads_writes (hsame.actor ▸ hsame.mayWrite),
      List.cons.injEq, Prod.mk.injEq] at hreads
    obtain ⟨⟨-, hread⟩, hreads⟩ := hreads
    rcases drainReadableClients_cons hdrain with ⟨hnone, rest, rfl, hrest⟩ |
      ⟨clientReads, middle, leaves, rest, hsome, hdrained, rfl, hrest⟩
    · rcases drainReadableClients_cons hother with ⟨-, otherRest, rfl, hotherRest⟩ |
        ⟨_, _, _, _, hsome, -, -, -⟩
      · obtain ⟨hround, hreached, hmarked⟩ := ih hreads hrest hotherRest
        exact ⟨hround, hreached, .both ⟨hsame, rfl⟩ hmarked⟩
      · rw [hread, hsome] at hnone
        cases hnone
    · rcases drainReadableClients_cons hother with ⟨hnone, _, -, -⟩ |
        ⟨otherReads, otherMiddle, otherLeaves, otherRest, hotherSome, hotherDrained, rfl, hotherRest⟩
      · rw [hread, hnone] at hsome
        cases hsome
      · rw [hread, hotherSome, Option.some.injEq] at hsome
        obtain rfl := hsome
        obtain ⟨hresult, hclient, hdaemon⟩ :=
          hsame.drainLiveClientFrames otherReads.nowMonoMs daemon .none otherReads.frames
        rw [hresult, hclient.drained, hotherDrained, Except.ok.injEq, Prod.mk.injEq] at hdrained
        obtain ⟨rfl, rfl⟩ := hdrained
        rw [← hdaemon] at hotherRest
        obtain ⟨hround, hreached, hmarked⟩ := ih hreads hrest hotherRest
        exact ⟨hround, hreached, .both ⟨hclient, rfl⟩ hmarked⟩

end

end Nmux.Live
