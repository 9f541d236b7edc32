import Nmux.Live.Drain
import Nmux.Screen.Reattached
import Nmux.Screen.Scrolling

/-! Scrollback over a live stream. The answer to a fetch comes behind everything the daemon has sent before
it: surfaces and changes of the inventory are kept aside and made up for once the lines are there, other
frames are passed over, and a fetch that was answered with a stale version is sent again. -/
namespace Nmux.Screen

open Client (InventoryFrame ScrollbackChunkSummary SurfaceUpdate requiredString scrollbackChunkFromFrame
  surfaceUpdateFromFrame tailStartLine validateScrollbackFetch workspaceSummaryFromFrame)
open Lib.Check
open Live (ClientConnectionSummary ErrorFrame PingSummary PresenceSummary ScrollbackFetchSummary ServerFrame)

/-! ### The stream -/

/-- A frame in the stream of a client, by its body. -/
inductive StreamFrame where
  | chunk (chunk : Protocol.ScrollbackChunk)
  | error (frame : ErrorFrame)
  | surface (frame : SurfaceFrame)
  | inventory (frame : InventoryFrame)
  | presence (presence : PresenceSummary)
  | workspace (frame : WorkspaceFrame)
  | pong (ping : PingSummary)
  | other (bodyType : String)

/-- `error_summary_from_frame`. -/
def errorSummaryFromFrame (frame : ErrorFrame) : Except String ErrorFrame := do
  let paneId ← frame.paneId.elim (pure none) fun paneId =>
    some <$> requiredString (some paneId) "error pane_id"
  require (errorCodeName frame.code).isSome ("unknown error code " ++ toString frame.code.value)
  let message ← requiredString (some frame.message) "error message"
  return { frame with paneId, message }

/-- `decoded_client_connections`. -/
def decodedClientConnections : List ClientConnectionSummary → Except String (List ClientConnectionSummary)
  | [] => return []
  | client :: rest => do
    let connectionId ← requiredString (some client.connectionId) "client connection_id"
    let id ← requiredString (some client.actor.id) "client actor_id"
    let userId ← requiredString (some client.actor.userId) "client user_id"
    let displayName ← requiredString (some client.actor.displayName) "client display_name"
    let focusedPaneId ← client.actor.focusedPaneId.elim (pure none) fun paneId =>
      some <$> requiredString (some paneId) "client focused_pane_id"
    let actor := { client.actor with id, userId, displayName, focusedPaneId }
    return { client with connectionId, actor } :: (← decodedClientConnections rest)

/-- `client_inventory_snapshot_from_frame` and `client_inventory_patch_from_frame`. -/
def inventoryFromFrame : InventoryFrame → Except String InventoryFrame
  | .snapshot version clients => do return .snapshot version (← decodedClientConnections clients)
  | .patch baseVersion version joined updated leftConnectionIds => do
    let left ← leftConnectionIds.mapM fun connectionId =>
      requiredString (some connectionId) "left connection_id"
    return .patch baseVersion version (← decodedClientConnections joined)
      (← decodedClientConnections updated) left

def pongFromFrame (ping : PingSummary) : Except String PingSummary := do
  return { ping with actorId := ← requiredString (some ping.actorId) "pong actor_id" }

/-- The text of an error. -/
def errorSummaryText (error : ErrorFrame) : String :=
  error.message ++ " (code=" ++ (errorCodeName error.code).getD "" ++
    error.paneId.elim "" (fun paneId => ", pane_id=" ++ paneId) ++
    (if error.inputSeq ≠ 0 then ", input_seq=" ++ toString error.inputSeq else "") ++
    (if error.retryable then ", retryable=true" else "") ++ ")"

/-- `read_live_surface_update_from_stream`, for a frame that is there. -/
def readLiveSurfaceUpdate : StreamFrame → Except String LiveSurfaceRead
  | .workspace frame => do return .workspace (← workspaceSummaryFromFrame frame)
  | .surface frame => do return .update (← surfaceUpdateFromFrame frame)
  | .error frame => do return .error (errorSummaryText (← errorSummaryFromFrame frame))
  | .presence presence => do
    let _ ← presenceFromFrame presence
    return .presence
  | .inventory frame => do return .inventory (← inventoryFromFrame frame)
  | .pong ping => do return .pong (← pongFromFrame ping)
  | .chunk _ => .error "unexpected live server frame: ScrollbackChunk"
  | .other bodyType => .error ("unexpected live server frame: " ++ bodyType)

/-! ### The client -/

/-- What is kept aside, in the two lists of the source. -/
structure PendingReads where
  updates : List SurfaceUpdate
  live : List InventoryFrame

def PendingReads.empty : PendingReads := { updates := [], live := [] }

inductive ScrollbackRead where
  | chunk (chunk : ScrollbackChunkSummary)
  | error (error : ErrorFrame)

/-- `read_scrollback_response_from_stream`, with both lists, and the frames that are left. -/
def readScrollbackResponse :
    PendingReads → List StreamFrame → Except String (ScrollbackRead × PendingReads × List StreamFrame)
  | _, [] => .error "failed to fill whole buffer"
  | pending, frame :: rest =>
    match frame with
    | .chunk chunk => do return (.chunk (← scrollbackChunkFromFrame chunk), pending, rest)
    | .error frame => do return (.error (← errorSummaryFromFrame frame), pending, rest)
    | .surface frame => do
      let update ← surfaceUpdateFromFrame frame
      readScrollbackResponse { pending with updates := pending.updates ++ [update] } rest
    | .inventory frame => do
      let inventory ← inventoryFromFrame frame
      readScrollbackResponse { pending with live := pending.live ++ [inventory] } rest
    | .presence _ => readScrollbackResponse pending rest
    | .workspace _ => readScrollbackResponse pending rest
    | .pong _ => .error "unexpected envelope body: Pong"
    | .other bodyType => .error ("unexpected envelope body: " ++ bodyType)

/-! ### The daemon -/

/-- The frame the daemon queues for a fetch. -/
def scrollbackReply (session : Session) (fetch : ScrollbackFetchSummary) : ServerFrame :=
  if Live.scrollbackFetchStale session fetch then
    .error {
      code := .staleVersion
      message := "stale scrollback version for " ++ fetch.paneId ++ ": client=" ++
        toString fetch.knownScrollbackVersion ++ " server=" ++
        toString ((session.scrollbackVersion fetch.paneId).getD 0)
      retryable := false, paneId := some fetch.paneId, inputSeq := 0 }
  else if fetch.startLine = 0 || fetch.lineCount = 0 || (session.pane fetch.paneId).isNone then
    .error {
      code := .paneNotFound, message := "pane not found: " ++ fetch.paneId
      retryable := false, paneId := some fetch.paneId, inputSeq := 0 }
  else .scrollback fetch

/-- That is the one frame the live loop queues. -/
theorem drainScrollback_queues {σ η : Type} (client : Live.LiveAttachedClient) (daemon : Daemon σ η)
    (drain : Live.ClientDrain) (fetch : ScrollbackFetchSummary) (nowMonoMs : UInt64) :
    (Live.drainScrollback client daemon drain fetch nowMonoMs).2.1 =
      ({ client with lastSeenMonoMs := nowMonoMs }.queueReliableFrame
        (scrollbackReply daemon.session fetch)).2 := by
  have hanswered (after : Live.FrameResult)
      (answer : Except Live.ServeError Unit × Live.LiveAttachedClient) :
      (Live.answered after answer daemon).2.1 = answer.2 := by
    obtain ⟨result, client⟩ := answer
    cases result <;> rfl
  unfold Live.drainScrollback scrollbackReply
  split
  · exact hanswered _ _
  · split <;> exact hanswered _ _

/-- The answer in the stream; a fetch that cannot be read gets none. -/
def scrollbackAnswer (session : Session) (fetch : ScrollbackFetchSummary) : List StreamFrame :=
  match validateScrollbackFetch fetch with
  | .error _ => []
  | .ok () =>
    match scrollbackReply session fetch with
    | .error frame => [.error frame]
    | .scrollback fetch =>
      match session.scrollbackChunkForPane fetch.paneId fetch.startLine fetch.lineCount with
      | .ok (some chunk) => [.chunk chunk]
      | _ => []
    | _ => []

/-- What the daemon does up to the answer to a fetch: the frames it sends before, and the session it then
has. -/
structure Turn where
  before : List StreamFrame
  session : Session

/-- The frames a client has not read, and what the daemon will do. -/
structure Connection where
  stream : List StreamFrame
  turns : List Turn

/-- `send_scrollback_fetch_with_known_version`, and the daemon's turn. -/
def Connection.send (connection : Connection) (fetch : ScrollbackFetchSummary) : Connection :=
  match connection.turns with
  | [] => connection
  | turn :: turns =>
    { stream := connection.stream ++ turn.before ++ scrollbackAnswer turn.session fetch, turns }

/-! ### A fetch -/

/-- `read_scrollback_chunk_with_stale_retry_and_pending_updates`. -/
def readChunkWithStaleRetry (paneId : String) (startLine : UInt64) (lineCount : UInt32)
    (pending : PendingReads) (connection : Connection) :
    Except String (ScrollbackChunkSummary × PendingReads × Connection) := do
  let (read, pending, stream) ← readScrollbackResponse pending connection.stream
  match read with
  | .chunk chunk => return (chunk, pending, { connection with stream })
  | .error error =>
    if error.code = .staleVersion then do
      let connection := { connection with stream }.send ⟨paneId, "local-actor", startLine, lineCount, 0⟩
      let (read, pending, stream) ← readScrollbackResponse pending connection.stream
      match read with
      | .chunk chunk => return (chunk, pending, { connection with stream })
      | .error error => .error ("server error: " ++ errorSummaryText error)
    else .error ("server error: " ++ errorSummaryText error)

/-- A fetch that is sent, and its answer. -/
def fetchChunk (paneId : String) (startLine : UInt64) (lineCount : UInt32) (known : UInt64)
    (pending : PendingReads) (connection : Connection) :
    Except String (ScrollbackChunkSummary × PendingReads × Connection) :=
  readChunkWithStaleRetry paneId startLine lineCount pending
    (connection.send ⟨paneId, "local-actor", startLine, lineCount, known⟩)

/-- The range to ask for: the one given, or the last lines of as many as a fetch of one line tells. -/
def selectRange (paneId : String) (startLine : UInt64) (lineCount : UInt32) (tailCount : Option UInt32)
    (connection : Connection) : Except String ((UInt64 × UInt32) × PendingReads × Connection) :=
  match tailCount with
  | none => .ok ((startLine, lineCount), .empty, connection)
  | some tailCount => do
    let (probe, pending, connection) ← fetchChunk paneId 1 1 0 .empty connection
    return ((tailStartLine probe.totalLines tailCount, tailCount), pending, connection)

/-- `fetch_scrollback_chunk_with_selection_and_pending_live`. -/
def fetchScrollbackChunkWithPendingLive (paneId : String) (startLine : UInt64) (lineCount : UInt32)
    (tailCount : Option UInt32) (knownVersionFor : UInt64 → UInt32 → UInt64) (connection : Connection) :
    Except String (ScrollbackAnswer × Connection) := do
  let ((startLine, lineCount), pending, connection) ←
    selectRange paneId startLine lineCount tailCount connection
  let (chunk, pending, connection) ←
    fetchChunk paneId startLine lineCount (knownVersionFor startLine lineCount) pending connection
  return (⟨chunk, pending.updates, pending.live⟩, connection)

/-! ### What comes before an answer -/

/-- The frames that end the wait for an answer. -/
def StreamFrame.answers : StreamFrame → Bool
  | .chunk _ => true
  | .error _ => true
  | _ => false

/-- The frames that are kept aside. -/
def StreamFrame.kept : StreamFrame → Bool
  | .surface _ => true
  | .inventory _ => true
  | _ => false

/-- The frames that are passed over. -/
def StreamFrame.passed : StreamFrame → Bool
  | .presence _ => true
  | .workspace _ => true
  | _ => false

def LiveSurfaceRead.update? : LiveSurfaceRead → Option SurfaceUpdate
  | .update surface => some surface
  | _ => none

def LiveSurfaceRead.inventory? : LiveSurfaceRead → Option InventoryFrame
  | .inventory frame => some frame
  | _ => none

/-- The frames can come before an answer; those kept aside are read as the live loop reads them. -/
structure Awaited (frames : List StreamFrame) (reads : List LiveSurfaceRead) : Prop where
  bodies : ∀ frame ∈ frames, frame.kept = true ∨ frame.passed = true
  read : (frames.filter StreamFrame.kept).mapM readLiveSurfaceUpdate = .ok reads

/-- More that is kept aside. -/
def PendingReads.keep (pending : PendingReads) (reads : List LiveSurfaceRead) : PendingReads where
  updates := pending.updates ++ reads.filterMap LiveSurfaceRead.update?
  live := pending.live ++ reads.filterMap LiveSurfaceRead.inventory?

theorem PendingReads.keep_nil (pending : PendingReads) : pending.keep [] = pending := by
  unfold keep
  rw [List.filterMap_nil, List.filterMap_nil, List.append_nil, List.append_nil]

theorem PendingReads.keep_append (pending : PendingReads) (reads more : List LiveSurfaceRead) :
    pending.keep (reads ++ more) = (pending.keep reads).keep more := by
  unfold keep
  rw [List.filterMap_append, List.filterMap_append, List.append_assoc, List.append_assoc]

theorem PendingReads.keep_update (pending : PendingReads) (update : SurfaceUpdate) :
    pending.keep [.update update] = { pending with updates := pending.updates ++ [update] } := by
  unfold keep
  rw [show [LiveSurfaceRead.update update].filterMap LiveSurfaceRead.inventory? = [] from rfl,
    List.append_nil]
  rfl

theorem PendingReads.keep_inventory (pending : PendingReads) (frame : InventoryFrame) :
    pending.keep [.inventory frame] = { pending with live := pending.live ++ [frame] } := by
  unfold keep
  rw [show [LiveSurfaceRead.inventory frame].filterMap LiveSurfaceRead.update? = [] from rfl,
    List.append_nil]
  rfl

namespace Awaited

variable {frame : StreamFrame} {frames others : List StreamFrame} {read : LiveSurfaceRead}
  {reads more : List LiveSurfaceRead}

theorem nil : Awaited [] [] := ⟨fun _ hmem => absurd hmem List.not_mem_nil, rfl⟩

theorem cons_kept (h : Awaited frames reads) (hkept : frame.kept = true)
    (hread : readLiveSurfaceUpdate frame = .ok read) : Awaited (frame :: frames) (read :: reads) where
  bodies := List.forall_mem_cons.mpr ⟨.inl hkept, h.bodies⟩
  read := by
    rw [List.filter_cons_of_pos hkept, List.mapM_cons, hread, ok_bind, h.read]
    rfl

theorem cons_passed (h : Awaited frames reads) (hpassed : frame.passed = true)
    (hkept : frame.kept = false) : Awaited (frame :: frames) reads where
  bodies := List.forall_mem_cons.mpr ⟨.inr hpassed, h.bodies⟩
  read := by
    rw [List.filter_cons_of_neg (Bool.eq_false_iff.mp hkept)]
    exact h.read

theorem append (h : Awaited frames reads) (hmore : Awaited others more) :
    Awaited (frames ++ others) (reads ++ more) where
  bodies := List.forall_mem_append.mpr ⟨h.bodies, hmore.bodies⟩
  read := by
    rw [List.filter_append, List.mapM_append, h.read, ok_bind, hmore.read]
    rfl

end Awaited

section
variable {frame : StreamFrame} {read : LiveSurfaceRead}

/-- A frame that is kept aside is decoded as the live loop decodes it. -/
theorem readScrollbackResponse_kept (hkept : frame.kept = true) (hread : readLiveSurfaceUpdate frame = .ok read)
    (pending : PendingReads) (rest : List StreamFrame) :
    readScrollbackResponse pending (frame :: rest) = readScrollbackResponse (pending.keep [read]) rest := by
  cases frame with
  | surface frame =>
    obtain ⟨update, hupdate, hread⟩ := bind_eq_ok.mp hread
    obtain rfl := Except.ok.inj hread
    rw [readScrollbackResponse, hupdate, ok_bind, PendingReads.keep_update]
  | inventory frame =>
    obtain ⟨inventory, hinventory, hread⟩ := bind_eq_ok.mp hread
    obtain rfl := Except.ok.inj hread
    rw [readScrollbackResponse, hinventory, ok_bind, PendingReads.keep_inventory]
  | _ => cases hkept

theorem readScrollbackResponse_failed (hkept : frame.kept = true) {message : String}
    (hread : readLiveSurfaceUpdate frame = .error message) (pending : PendingReads) (rest : List StreamFrame) :
    readScrollbackResponse pending (frame :: rest) = .error message := by
  cases frame with
  | surface frame =>
    cases hupdate : surfaceUpdateFromFrame frame with
    | error failed =>
      rw [readLiveSurfaceUpdate, hupdate] at hread
      obtain rfl := Except.error.inj hread
      rw [readScrollbackResponse, hupdate, error_bind]
    | ok update =>
      rw [readLiveSurfaceUpdate, hupdate] at hread
      cases hread
  | inventory frame =>
    cases hinventory : inventoryFromFrame frame with
    | error failed =>
      rw [readLiveSurfaceUpdate, hinventory] at hread
      obtain rfl := Except.error.inj hread
      rw [readScrollbackResponse, hinventory, error_bind]
    | ok inventory =>
      rw [readLiveSurfaceUpdate, hinventory] at hread
      cases hread
  | _ => cases hkept

theorem readScrollbackResponse_passed (hpassed : frame.passed = true) (pending : PendingReads)
    (rest : List StreamFrame) :
    frame.kept = false ∧ readScrollbackResponse pending (frame :: rest) = readScrollbackResponse pending rest := by
  cases frame <;> first | exact ⟨rfl, rfl⟩ | cases hpassed

end

/-- The wait goes through the frames with what it keeps aside. -/
theorem Awaited.waits {rest : List StreamFrame} : ∀ {frames : List StreamFrame} {reads : List LiveSurfaceRead},
    Awaited frames reads → ∀ pending,
    readScrollbackResponse pending (frames ++ rest) = readScrollbackResponse (pending.keep reads) rest
  | [], reads, h, pending => by
    have hnil : reads = [] := (Except.ok.inj h.read).symm
    rw [hnil, pending.keep_nil, List.nil_append]
  | frame :: frames, reads, h, pending => by
    obtain ⟨hframe, hframes⟩ := List.forall_mem_cons.mp h.bodies
    have hread := h.read
    rcases hframe with hkept | hpassed
    · rw [List.filter_cons_of_pos hkept, List.mapM_cons] at hread
      obtain ⟨first, hfirst, hread⟩ := bind_eq_ok.mp hread
      obtain ⟨others, hothers, hread⟩ := bind_eq_ok.mp hread
      obtain rfl := Except.ok.inj hread
      rw [List.cons_append, readScrollbackResponse_kept hkept hfirst,
        Awaited.waits ⟨hframes, hothers⟩, ← PendingReads.keep_append]
      rfl
    · obtain ⟨hkept, hnext⟩ := readScrollbackResponse_passed hpassed pending (frames ++ rest)
      rw [List.filter_cons_of_neg (Bool.eq_false_iff.mp hkept)] at hread
      rw [List.cons_append, hnext, Awaited.waits ⟨hframes, hread⟩]

/-- Frames without an answer can be waited through, or end the wait with an error. -/
theorem awaited_or_fails : ∀ frames : List StreamFrame, (∀ frame ∈ frames, frame.answers = false) →
    (∃ reads, Awaited frames reads) ∨
      ∀ pending rest, ∃ message, readScrollbackResponse pending (frames ++ rest) = .error message
  | [], _ => .inl ⟨[], .nil⟩
  | frame :: frames, hquiet => by
    obtain ⟨hframe, hframes⟩ := List.forall_mem_cons.mp hquiet
    have hrest := awaited_or_fails frames hframes
    by_cases hkept : frame.kept = true
    · cases hread : readLiveSurfaceUpdate frame with
      | error message =>
        exact .inr fun pending rest => ⟨message, readScrollbackResponse_failed hkept hread pending _⟩
      | ok read =>
        refine hrest.imp (fun ⟨reads, hreads⟩ => ⟨_, hreads.cons_kept hkept hread⟩) fun hfails pending rest => ?_
        rw [List.cons_append, readScrollbackResponse_kept hkept hread]
        exact hfails _ rest
    · by_cases hpassed : frame.passed = true
      · refine hrest.imp (fun ⟨reads, hreads⟩ => ⟨_, hreads.cons_passed hpassed (Bool.eq_false_iff.mpr hkept)⟩)
          fun hfails pending rest => ?_
        rw [List.cons_append, (readScrollbackResponse_passed hpassed pending _).2]
        exact hfails _ rest
      · -- what is left is a body no reader of a response expects
        refine .inr fun pending rest => ?_
        cases frame with
        | pong ping => exact ⟨_, rfl⟩
        | other bodyType => exact ⟨_, rfl⟩
        | chunk chunk => cases hframe
        | error frame => cases hframe
        | surface frame => exact absurd rfl hkept
        | inventory frame => exact absurd rfl hkept
        | presence presence => exact absurd rfl hpassed
        | workspace frame => exact absurd rfl hpassed

/-! ### What a fetch gets -/

/-- No answer is on its way, and the panes of every turn have one entry a line in their histories. -/
structure Connection.Orderly (connection : Connection) (paneId : String) : Prop where
  stream : ∀ frame ∈ connection.stream, frame.answers = false
  turns : ∀ turn ∈ connection.turns, ∀ frame ∈ turn.before, frame.answers = false
  panes : ∀ turn ∈ connection.turns, ∀ pane, turn.session.pane paneId = some pane →
    pane.state.ScrollbackParallel

/-- The chunk shows the range of the pane's history. -/
structure ShowsRange (session : Session) (paneId : String) (startLine : UInt64) (lineCount : UInt32)
    (pane : Pane) (chunk : ScrollbackChunkSummary) : Prop where
  found : session.pane paneId = some pane
  decoded : chunk =
    pane.state.rangeSummary startLine (pane.state.paneScrollback.range startLine lineCount)
  lines : ShowsLines pane.state startLine.toNat
    (min (startLine.toNat + lineCount.toNat - 1) pane.state.scrollbackLines.length)
    (pane.state.paneScrollback.range startLine lineCount)

theorem ShowsRange.totalLines {session : Session} {paneId : String} {startLine : UInt64} {lineCount : UInt32}
    {pane : Pane} {chunk : ScrollbackChunkSummary}
    (h : ShowsRange session paneId startLine lineCount pane chunk)
    (hlines : pane.state.scrollbackLines.length < 2 ^ 63) :
    chunk.totalLines.toNat = pane.state.scrollbackLines.length := by
  rw [h.decoded]
  exact toNat_ofNat64 (by omega)

/-- What answers a fetch: the range of the pane, or an error, which is not of a stale version if no
version was given. -/
inductive AnswersFetch (session : Session) (paneId : String) (startLine : UInt64) (lineCount : UInt32)
    (known : UInt64) : ScrollbackRead → Prop where
  | chunk (pane : Pane) (chunk : ScrollbackChunkSummary)
      (shows : ShowsRange session paneId startLine lineCount pane chunk) :
      AnswersFetch session paneId startLine lineCount known (.chunk chunk)
  | error (error : ErrorFrame) (stale : error.code = .staleVersion → known ≠ 0) :
      AnswersFetch session paneId startLine lineCount known (.error error)

section
variable {session : Session} {paneId : String} {startLine known : UInt64} {lineCount : UInt32}

theorem validateScrollbackFetch_ok {actorId : String}
    (h : validateScrollbackFetch ⟨paneId, actorId, startLine, lineCount, known⟩ = .ok ()) :
    startLine ≠ 0 ∧ lineCount ≠ 0 ∧ paneId ≠ "" := by
  obtain ⟨hrange, hvalid⟩ := check_bind_eq_ok.mp h
  obtain ⟨hstart, hcount⟩ := check_bind_eq_ok.mp hrange
  obtain ⟨id, hid, -⟩ := bind_eq_ok.mp hvalid
  refine ⟨bne_iff_ne.mp (require_eq_ok.mp hstart), bne_iff_ne.mp (require_eq_ok.mp hcount), ?_⟩
  rintro rfl
  cases hid

/-- A chunk in the stream is the range of the pane. -/
theorem showsRange_of_chunk {pane : Pane} {chunk : Protocol.ScrollbackChunk}
    {summary : ScrollbackChunkSummary} (hpane : session.pane paneId = some pane)
    (hparallel : pane.state.ScrollbackParallel) (hid : paneId ≠ "") (hstart : startLine ≠ 0)
    (hcount : lineCount ≠ 0)
    (hchunk : session.scrollbackChunkForPane paneId startLine lineCount = .ok (some chunk))
    (hsummary : scrollbackChunkFromFrame chunk = .ok summary) :
    ShowsRange session paneId startLine lineCount pane summary := by
  have hidOf : pane.state.id = paneId := (Session.pane_mem_nodes hpane).2.2
  rw [chunkForPane_eq hpane hparallel hstart hcount] at hchunk
  obtain rfl := Option.some.inj (Except.ok.inj hchunk)
  rw [hparallel.bounded.chunkFromFrame_eq (fun hempty => hid (hidOf.symm.trans hempty)) hstart] at hsummary
  obtain ⟨-, hsummary⟩ := check_bind_eq_ok.mp hsummary
  exact ⟨hpane, (Except.ok.inj hsummary).symm, hparallel.showsLines hstart lineCount⟩

theorem errorSummaryFromFrame_code {frame error : ErrorFrame} (h : errorSummaryFromFrame frame = .ok error) :
    error.code = frame.code := by
  obtain ⟨focused, -, h⟩ := bind_eq_ok.mp h
  obtain ⟨-, h⟩ := check_bind_eq_ok.mp h
  obtain ⟨message, -, h⟩ := bind_eq_ok.mp h
  obtain rfl := Except.ok.inj h
  rfl

/-- The stream has no answer, an error, or the chunk of a pane that is there. -/
theorem scrollbackAnswer_cases (session : Session) (paneId actorId : String) (startLine known : UInt64)
    (lineCount : UInt32) :
    scrollbackAnswer session ⟨paneId, actorId, startLine, lineCount, known⟩ = [] ∨
    (∃ frame, scrollbackAnswer session ⟨paneId, actorId, startLine, lineCount, known⟩ = [.error frame] ∧
      (frame.code = .staleVersion → known ≠ 0)) ∨
    ∃ pane chunk, scrollbackAnswer session ⟨paneId, actorId, startLine, lineCount, known⟩ = [.chunk chunk] ∧
      session.pane paneId = some pane ∧ paneId ≠ "" ∧ startLine ≠ 0 ∧ lineCount ≠ 0 ∧
      session.scrollbackChunkForPane paneId startLine lineCount = .ok (some chunk) := by
  unfold scrollbackAnswer scrollbackReply
  cases hvalid : validateScrollbackFetch ⟨paneId, actorId, startLine, lineCount, known⟩ with
  | error message => exact .inl rfl
  | ok =>
    obtain ⟨hstart, hcount, hid⟩ := validateScrollbackFetch_ok hvalid
    dsimp only
    by_cases hstale : Live.scrollbackFetchStale session ⟨paneId, actorId, startLine, lineCount, known⟩ = true
    · rw [if_pos hstale]
      refine .inr (.inl ⟨_, rfl, fun _ hknown => ?_⟩)
      subst hknown
      unfold Live.scrollbackFetchStale at hstale
      cases hversion : session.scrollbackVersion paneId <;> rw [hversion] at hstale <;> cases hstale
    · rw [if_neg hstale]
      by_cases hnone : (startLine = 0 || lineCount = 0 || (session.pane paneId).isNone) = true
      · rw [if_pos hnone]
        exact .inr (.inl ⟨_, rfl, fun hcode => by cases hcode⟩)
      · rw [if_neg hnone]
        dsimp only
        obtain ⟨pane, hpane⟩ : ∃ pane, session.pane paneId = some pane := by
          cases hfound : session.pane paneId with
          | none => exact absurd (by rw [hfound]; exact Bool.or_true _) hnone
          | some pane => exact ⟨pane, rfl⟩
        split
        case h_1 chunk hchunk => exact .inr (.inr ⟨pane, chunk, rfl, hpane, hid, hstart, hcount, hchunk⟩)
        case h_2 => exact .inl rfl

theorem readScrollbackResponse_answer {actorId : String} {pending after : PendingReads} {read : ScrollbackRead}
    {stream : List StreamFrame}
    (hpanes : ∀ pane, session.pane paneId = some pane → pane.state.ScrollbackParallel)
    (h : readScrollbackResponse pending
      (scrollbackAnswer session ⟨paneId, actorId, startLine, lineCount, known⟩) = .ok (read, after, stream)) :
    after = pending ∧ stream = [] ∧ AnswersFetch session paneId startLine lineCount known read := by
  rcases scrollbackAnswer_cases session paneId actorId startLine known lineCount with
    hanswer | ⟨frame, hanswer, hstale⟩ | ⟨pane, chunk, hanswer, hpane, hid, hstart, hcount, hchunk⟩
  · rw [hanswer] at h
    cases h
  · rw [hanswer] at h
    obtain ⟨error, herror, hread⟩ := bind_eq_ok.mp h
    obtain ⟨rfl, hleft⟩ := Prod.mk.inj (Except.ok.inj hread)
    obtain ⟨rfl, rfl⟩ := Prod.mk.inj hleft
    exact ⟨rfl, rfl, .error _ fun hcode => hstale ((errorSummaryFromFrame_code herror).symm.trans hcode)⟩
  · rw [hanswer] at h
    obtain ⟨summary, hsummary, hread⟩ := bind_eq_ok.mp h
    obtain ⟨rfl, hleft⟩ := Prod.mk.inj (Except.ok.inj hread)
    obtain ⟨rfl, rfl⟩ := Prod.mk.inj hleft
    exact ⟨rfl, rfl,
      .chunk _ _ (showsRange_of_chunk hpane (hpanes pane hpane) hid hstart hcount hchunk hsummary)⟩

end

section
variable {connection left : Connection} {paneId : String} {startLine known : UInt64} {lineCount : UInt32}
  {pending after : PendingReads} {chunk : ScrollbackChunkSummary} {read : ScrollbackRead}
  {stream : List StreamFrame}

/-- A response to a fetch is that of the daemon's turn, and what came before it is kept aside. -/
theorem readScrollbackResponse_send (horderly : connection.Orderly paneId)
    (h : readScrollbackResponse pending
      (connection.send ⟨paneId, "local-actor", startLine, lineCount, known⟩).stream =
        .ok (read, after, stream)) :
    ∃ turn reads,
      connection.turns =
        turn :: (connection.send ⟨paneId, "local-actor", startLine, lineCount, known⟩).turns ∧
      Awaited (connection.stream ++ turn.before) reads ∧ after = pending.keep reads ∧ stream = [] ∧
      AnswersFetch turn.session paneId startLine lineCount known read := by
  unfold Connection.send at h ⊢
  cases hturns : connection.turns with
  | nil =>
    rw [hturns] at h
    dsimp only at h
    rw [← List.append_nil connection.stream] at h
    rcases awaited_or_fails connection.stream horderly.stream with ⟨reads, hreads⟩ | hfails
    · rw [hreads.waits] at h
      cases h
    · obtain ⟨message, herror⟩ := hfails pending []
      rw [herror] at h
      cases h
  | cons turn turns =>
    rw [hturns] at h
    dsimp only at h ⊢
    have hmem : turn ∈ connection.turns := hturns ▸ List.mem_cons_self
    rcases awaited_or_fails (connection.stream ++ turn.before)
      (List.forall_mem_append.mpr ⟨horderly.stream, horderly.turns turn hmem⟩) with
      ⟨reads, hreads⟩ | hfails
    · rw [hreads.waits] at h
      obtain ⟨hafter, hstream, hanswers⟩ := readScrollbackResponse_answer (horderly.panes turn hmem) h
      exact ⟨turn, reads, rfl, hreads, hafter, hstream, hanswers⟩
    · obtain ⟨message, herror⟩ := hfails pending (scrollbackAnswer turn.session _)
      rw [herror] at h
      cases h

/-- Once everything is read no answer is on its way in the turns that are left. -/
theorem Connection.Orderly.emptied {turns : List Turn} (h : connection.Orderly paneId)
    (hstream : left.stream = []) (hturns : connection.turns = turns ++ left.turns) :
    left.Orderly paneId where
  stream := fun frame hmem => absurd (hstream ▸ hmem) List.not_mem_nil
  turns := fun turn hmem => h.turns turn (hturns ▸ List.mem_append_right _ hmem)
  panes := fun turn hmem => h.panes turn (hturns ▸ List.mem_append_right _ hmem)

/-- A chunk that answers a fetch: the turns that were taken, and what was read before the chunk. -/
structure FetchedChunk (connection : Connection) (paneId : String) (startLine : UInt64) (lineCount : UInt32)
    (pending : PendingReads) (chunk : ScrollbackChunkSummary) (after : PendingReads) (left : Connection)
    (answered : List Turn) (turn : Turn) (reads : List LiveSurfaceRead) : Prop where
  taken : connection.turns = answered ++ turn :: left.turns
  emptied : left.stream = []
  shows : ∃ pane, ShowsRange turn.session paneId startLine lineCount pane chunk
  awaited : Awaited (connection.stream ++ (answered ++ [turn]).flatMap Turn.before) reads
  aside : after = pending.keep reads

/-- A fetch takes one turn, or one more if its version is stale. -/
theorem fetchChunk_ok (horderly : connection.Orderly paneId)
    (h : fetchChunk paneId startLine lineCount known pending connection = .ok (chunk, after, left)) :
    ∃ answered turn reads,
      FetchedChunk connection paneId startLine lineCount pending chunk after left answered turn reads ∧
      answered.length ≤ 1 ∧ (known = 0 → answered = []) := by
  unfold fetchChunk readChunkWithStaleRetry at h
  obtain ⟨⟨read, kept, stream⟩, hread, h⟩ := bind_eq_ok.mp h
  dsimp only at h
  obtain ⟨turn, reads, hturns, hawaited, rfl, rfl, hanswers⟩ := readScrollbackResponse_send horderly hread
  cases hanswers with
  | chunk pane summary hshows =>
    obtain ⟨rfl, hleft⟩ := Prod.mk.inj (Except.ok.inj h)
    obtain ⟨rfl, rfl⟩ := Prod.mk.inj hleft
    refine ⟨[], turn, reads, ⟨hturns, rfl, ⟨pane, hshows⟩, ?_, rfl⟩, Nat.zero_le _, fun _ => rfl⟩
    rwa [List.nil_append, List.flatMap_singleton]
  | error error hstale =>
    dsimp only at h
    split at h
    case isFalse => cases h
    case isTrue hcode =>
      obtain ⟨⟨retried, more, stream⟩, hretried, h⟩ := bind_eq_ok.mp h
      dsimp only at h
      have hafter : Connection.Orderly { connection.send
          ⟨paneId, "local-actor", startLine, lineCount, known⟩ with stream := [] } paneId :=
        horderly.emptied rfl (show connection.turns = [turn] ++ _ from hturns)
      obtain ⟨last, others, hlast, hothers, rfl, rfl, hanswers⟩ := readScrollbackResponse_send hafter hretried
      cases hanswers with
      | error error _ => cases h
      | chunk pane summary hshows =>
        obtain ⟨rfl, hleft⟩ := Prod.mk.inj (Except.ok.inj h)
        obtain ⟨rfl, rfl⟩ := Prod.mk.inj hleft
        refine ⟨[turn], last, reads ++ others, ⟨?_, rfl, ⟨pane, hshows⟩, ?_, ?_⟩, le_refl _,
          fun hknown => absurd hknown (hstale hcode)⟩
        · rw [hturns, List.singleton_append]
          exact congrArg _ hlast
        · have hboth := hawaited.append hothers
          rw [List.nil_append] at hboth
          rw [List.flatMap_append, List.flatMap_singleton, List.flatMap_singleton, ← List.append_assoc]
          exact hboth
        · exact (pending.keep_append _ _).symm

/-- The range that is asked for: the one given, or the last lines of the history in the first turn. -/
inductive FetchRange (paneId : String) (startLine : UInt64) (lineCount : UInt32) :
    Option UInt32 → List Turn → UInt64 → UInt32 → Prop where
  | given (answered : List Turn) : FetchRange paneId startLine lineCount none answered startLine lineCount
  | tail (tailCount : UInt32) (probe : Turn) (answered : List Turn) (pane : Pane) (first : UInt64)
      (found : probe.session.pane paneId = some pane)
      (starts : first.toNat = pane.state.scrollbackLines.length + 1 -
        min tailCount.toNat pane.state.scrollbackLines.length) :
      FetchRange paneId startLine lineCount (some tailCount) (probe :: answered) first tailCount

/-- What a fetch comes to: the lines of the pane in the turn that answered, and everything that came before
them kept aside. -/
structure Fetched (connection : Connection) (paneId : String) (startLine : UInt64) (lineCount : UInt32)
    (tailCount : Option UInt32) (answer : ScrollbackAnswer) (left : Connection) (answered : List Turn)
    (turn : Turn) (reads : List LiveSurfaceRead) : Prop where
  taken : connection.turns = answered ++ turn :: left.turns
  few : answered.length ≤ 2
  emptied : left.stream = []
  shows : ∃ first count pane, FetchRange paneId startLine lineCount tailCount answered first count ∧
    ShowsRange turn.session paneId first count pane answer.chunk
  awaited : Awaited (connection.stream ++ (answered ++ [turn]).flatMap Turn.before) reads
  updates : answer.pendingUpdates = reads.filterMap LiveSurfaceRead.update?
  live : answer.pendingLive = reads.filterMap LiveSurfaceRead.inventory?

/-- The range that was asked for, and what the probe left. -/
structure RangeSelected (connection : Connection) (paneId : String) (startLine : UInt64) (lineCount : UInt32)
    (tailCount : Option UInt32) (range : UInt64 × UInt32) (pending : PendingReads) (left : Connection)
    (answered : List Turn) (reads : List LiveSurfaceRead) : Prop where
  taken : connection.turns = answered ++ left.turns
  few : answered.length ≤ 1
  range : ∀ more, FetchRange paneId startLine lineCount tailCount (answered ++ more) range.1 range.2
  orderly : left.Orderly paneId
  awaited : ∀ frames more, Awaited (left.stream ++ frames) more →
    Awaited (connection.stream ++ (answered.flatMap Turn.before ++ frames)) (reads ++ more)
  aside : pending = PendingReads.empty.keep reads

theorem selectRange_ok {tailCount : Option UInt32} {range : UInt64 × UInt32}
    (horderly : connection.Orderly paneId)
    (h : selectRange paneId startLine lineCount tailCount connection = .ok (range, pending, left)) :
    ∃ answered reads, RangeSelected connection paneId startLine lineCount tailCount range pending left
      answered reads := by
  cases tailCount with
  | none =>
    obtain ⟨rfl, hleft⟩ := Prod.mk.inj (Except.ok.inj h)
    obtain ⟨rfl, rfl⟩ := Prod.mk.inj hleft
    exact ⟨[], [], {
      taken := rfl
      few := Nat.zero_le _
      range := fun more => .given more
      orderly := horderly
      awaited := fun _ _ hmore => hmore
      aside := (PendingReads.keep_nil _).symm }⟩
  | some tail =>
    obtain ⟨⟨probe, kept, probed⟩, hprobe, hselected⟩ := bind_eq_ok.mp h
    obtain ⟨rfl, hleft⟩ := Prod.mk.inj (Except.ok.inj hselected)
    obtain ⟨rfl, rfl⟩ := Prod.mk.inj hleft
    obtain ⟨before, first, reads, hfirst, -, hnone⟩ := fetchChunk_ok horderly hprobe
    obtain rfl := hnone rfl
    obtain ⟨pane, hpane⟩ := hfirst.shows
    have hmem : first ∈ connection.turns := hfirst.taken ▸ List.mem_cons_self
    have hbound := (horderly.panes first hmem pane hpane.found).lines
    have htotal := hpane.totalLines hbound
    exact ⟨[first], reads, {
      taken := hfirst.taken
      few := le_refl _
      range := fun more => .tail tail first more pane _ hpane.found (tailStartLine_toNat htotal hbound tail).1
      orderly := horderly.emptied hfirst.emptied (show connection.turns = [first] ++ probed.turns from hfirst.taken)
      awaited := fun frames more hmore => by
        rw [hfirst.emptied, List.nil_append] at hmore
        rw [← List.append_assoc]
        exact hfirst.awaited.append hmore
      aside := hfirst.aside }⟩

theorem fetched_of_ok {tailCount : Option UInt32} {knownVersionFor : UInt64 → UInt32 → UInt64}
    {answer : ScrollbackAnswer} (horderly : connection.Orderly paneId)
    (h : fetchScrollbackChunkWithPendingLive paneId startLine lineCount tailCount knownVersionFor connection =
      .ok (answer, left)) :
    ∃ answered turn reads,
      Fetched connection paneId startLine lineCount tailCount answer left answered turn reads := by
  obtain ⟨⟨range, pending, selected⟩, hselected, hrest⟩ := bind_eq_ok.mp h
  obtain ⟨⟨chunk, after, reached⟩, hfetch, hanswer⟩ := bind_eq_ok.mp hrest
  obtain ⟨rfl, rfl⟩ := Prod.mk.inj (Except.ok.inj hanswer)
  obtain ⟨probed, reads, hrange⟩ := selectRange_ok horderly hselected
  obtain ⟨answered, turn, others, hfetched, hfew, -⟩ := fetchChunk_ok hrange.orderly hfetch
  obtain ⟨pane, hshows⟩ := hfetched.shows
  have haside : after = PendingReads.empty.keep (reads ++ others) := by
    rw [hfetched.aside, hrange.aside, PendingReads.keep_append]
  exact ⟨probed ++ answered, turn, reads ++ others, {
    taken := by rw [hrange.taken, hfetched.taken, List.append_assoc]
    few := by
      have := hrange.few
      rw [List.length_append]
      omega
    emptied := hfetched.emptied
    shows := ⟨_, _, pane, hrange.range answered, hshows⟩
    awaited := by
      rw [List.append_assoc, List.flatMap_append]
      exact hrange.awaited _ _ hfetched.awaited
    updates := congrArg PendingReads.updates haside
    live := congrArg PendingReads.live haside }⟩

end

/-! ### Making up for it -/

/-- `applyPendingLive` for the copy of the inventory. -/
def inventoryAfter (inventory : Client.ClientInventoryCache) (live : List InventoryFrame) :
    Client.ClientInventoryCache :=
  live.foldl (fun inventory frame => (inventory.apply frame).toOption.getD inventory) inventory

theorem applyPendingLive_inventory (client : LiveClient) (live : List InventoryFrame) :
    client.applyPendingLive live =
      { client with clientInventory := inventoryAfter client.clientInventory live } := by
  unfold LiveClient.applyPendingLive
  induction live generalizing client with
  | nil => rfl
  | cons frame rest ih =>
    rw [List.foldl_cons, ih]
    rfl

section
variable {setup : Setup} {moment : Moment}

/-- An update of the cache neither reads nor changes the inventory or the screen. -/
theorem cacheUpdate_beside (client : LiveClient) (update : SurfaceUpdate)
    (clientInventory : Client.ClientInventoryCache) (painted : Option PaintedFrame) :
    LiveClient.cacheUpdate setup { client with clientInventory, painted } update =
      (client.cacheUpdate setup update).map fun updated => { updated with clientInventory, painted } := by
  unfold LiveClient.cacheUpdate
  cases client.clientState.applySurfaceUpdate update with
  | error message => rfl
  | ok applied =>
    rw [ok_bind, ok_bind]
    dsimp only
    cases applied.2.stored.renderFor setup.args.stdoutTty with
    | error message => rfl
    | ok text =>
      rw [ok_bind, ok_bind]
      cases cachedRenderedSurfaceSummary applied.1 update.paneId <;> rfl

theorem cacheUpdates_beside (updates : List SurfaceUpdate) (client : LiveClient)
    (clientInventory : Client.ClientInventoryCache) (painted : Option PaintedFrame) :
    updates.foldlM (LiveClient.cacheUpdate setup) { client with clientInventory, painted } =
      (updates.foldlM (LiveClient.cacheUpdate setup) client).map fun updated =>
        { updated with clientInventory, painted } := by
  induction updates generalizing client with
  | nil => rfl
  | cons update rest ih =>
    rw [List.foldlM_cons, List.foldlM_cons, cacheUpdate_beside]
    cases client.cacheUpdate setup update with
    | error message => rfl
    | ok updated => exact ih updated

theorem cacheUpdate_inventory {client updated : LiveClient} {update : SurfaceUpdate}
    (h : client.cacheUpdate setup update = .ok updated) : updated.clientInventory = client.clientInventory := by
  obtain ⟨⟨clientState, surface⟩, -, h⟩ := bind_eq_ok.mp h
  obtain ⟨text, -, h⟩ := bind_eq_ok.mp h
  obtain ⟨summary, -, h⟩ := bind_eq_ok.mp h
  obtain rfl := Except.ok.inj h
  rfl

theorem handleRead_update {client reached : LiveClient} {update : SurfaceUpdate}
    (h : handleRead setup moment client (.update update) = .ok reached) :
    ∃ updated painted, client.cacheUpdate setup update = .ok updated ∧ reached = { updated with painted } := by
  obtain ⟨updated, hupdated, h⟩ := bind_eq_ok.mp h
  suffices hsame : ∃ painted, reached = { updated with painted } from
    ⟨updated, hsame.imp fun _ hreached => ⟨hupdated, hreached⟩⟩
  split at h
  case isTrue => exact ⟨updated.painted, (Except.ok.inj h).symm⟩
  case isFalse =>
    unfold printLiveUpdate at h
    split at h
    · exact printLiveSurface_same h
    · exact printLiveSurface_same h
    · exact ⟨updated.painted, (Except.ok.inj h).symm⟩

theorem handleRead_inventory {client reached : LiveClient} {frame : InventoryFrame}
    (h : handleRead setup moment client (.inventory frame) = .ok reached) :
    ∃ painted, reached =
      { client with clientInventory := inventoryAfter client.clientInventory [frame], painted } := by
  unfold handleRead at h
  dsimp only at h
  unfold inventoryAfter
  rw [List.foldl_cons, List.foldl_nil]
  cases happlied : client.clientInventory.apply frame with
  | error message =>
    rw [happlied] at h
    exact ⟨client.painted, (Except.ok.inj h).symm⟩
  | ok clientInventory =>
    rw [happlied] at h
    dsimp only at h
    unfold printLiveSurfaceWithOverlay LiveClient.paint at h
    split at h
    · obtain ⟨painted, -, hreached⟩ := bind_eq_ok.mp h
      exact ⟨_, (Except.ok.inj hreached).symm⟩
    · exact ⟨client.painted, (Except.ok.inj h).symm⟩

/-- What the updates of a cache come to beside another inventory and screen. -/
theorem cacheUpdates_ok {updates : List SurfaceUpdate} {client updated : LiveClient}
    {clientInventory : Client.ClientInventoryCache} {painted : Option PaintedFrame}
    (h : updates.foldlM (LiveClient.cacheUpdate setup) { client with clientInventory, painted } = .ok updated) :
    ∃ plain, updates.foldlM (LiveClient.cacheUpdate setup) client = .ok plain ∧
      updated = { plain with clientInventory, painted } := by
  rw [cacheUpdates_beside] at h
  cases hplain : updates.foldlM (LiveClient.cacheUpdate setup) client with
  | error message =>
    rw [hplain] at h
    cases h
  | ok plain =>
    rw [hplain] at h
    exact ⟨plain, rfl, (Except.ok.inj h).symm⟩

/-- Reads of surfaces and of the inventory, one after the other, leave what all surfaces and then all of
the inventory leave. -/
theorem handleReads_beside : ∀ (reads : List LiveSurfaceRead) {client reached : LiveClient},
    (∀ read ∈ reads, read.update?.isSome = true ∨ read.inventory?.isSome = true) →
    reads.foldlM (handleRead setup moment) client = .ok reached →
    ∃ updated painted,
      (reads.filterMap LiveSurfaceRead.update?).foldlM (LiveClient.cacheUpdate setup) client = .ok updated ∧
      reached = { updated with
        clientInventory :=
          inventoryAfter client.clientInventory (reads.filterMap LiveSurfaceRead.inventory?)
        painted }
  | [], client, reached, _, h => by
    obtain rfl := Except.ok.inj h
    exact ⟨client, client.painted, rfl, rfl⟩
  | read :: rest, client, reached, hkinds, h => by
    obtain ⟨hkind, hrest⟩ := List.forall_mem_cons.mp hkinds
    rw [List.foldlM_cons] at h
    obtain ⟨between, hread, h⟩ := bind_eq_ok.mp h
    obtain ⟨after, painted, hafter, hreached⟩ := handleReads_beside rest hrest h
    cases read with
    | update update =>
      obtain ⟨updated, frame, hupdated, rfl⟩ := handleRead_update hread
      obtain ⟨plain, hplain, rfl⟩ := @cacheUpdates_ok setup _ updated _ _ _ hafter
      refine ⟨plain, painted, ?_, ?_⟩
      · change (update :: rest.filterMap LiveSurfaceRead.update?).foldlM _ _ = _
        rw [List.foldlM_cons, hupdated]
        exact hplain
      · rw [hreached, ← cacheUpdate_inventory hupdated]
        rfl
    | inventory frame =>
      obtain ⟨screen, rfl⟩ := handleRead_inventory hread
      obtain ⟨plain, hplain, rfl⟩ := cacheUpdates_ok hafter
      exact ⟨plain, painted, hplain, hreached⟩
    | _ => rcases hkind with hkind | hkind <;> cases hkind

end

/-- What is kept aside is of a surface or of the inventory. -/
theorem Awaited.kinds {frames : List StreamFrame} {reads : List LiveSurfaceRead} (h : Awaited frames reads) :
    ∀ read ∈ reads, read.update?.isSome = true ∨ read.inventory?.isSome = true := by
  have hread := h.read
  have hkept : ∀ frame ∈ frames.filter StreamFrame.kept, frame.kept = true :=
    fun frame hmem => (List.mem_filter.mp hmem).2
  generalize frames.filter StreamFrame.kept = kept at hread hkept
  clear h
  induction kept generalizing reads with
  | nil =>
    obtain rfl := Except.ok.inj hread
    exact fun _ hmem => absurd hmem List.not_mem_nil
  | cons frame rest ih =>
    rw [List.mapM_cons] at hread
    obtain ⟨first, hfirst, hread⟩ := bind_eq_ok.mp hread
    obtain ⟨others, hothers, hread⟩ := bind_eq_ok.mp hread
    obtain rfl := Except.ok.inj hread
    obtain ⟨hframe, hrest⟩ := List.forall_mem_cons.mp hkept
    refine List.forall_mem_cons.mpr ⟨?_, ih hothers hrest⟩
    cases frame with
    | surface frame =>
      obtain ⟨update, -, hfirst⟩ := bind_eq_ok.mp hfirst
      obtain rfl := Except.ok.inj hfirst
      exact .inl rfl
    | inventory frame =>
      obtain ⟨inventory, -, hfirst⟩ := bind_eq_ok.mp hfirst
      obtain rfl := Except.ok.inj hfirst
      exact .inr rfl
    | _ => cases hframe

/-- What was kept aside is made up for: the client is as if it had read it in the live loop. -/
theorem Fetched.catchesUp {connection left : Connection} {paneId : String} {startLine : UInt64}
    {lineCount : UInt32} {tailCount : Option UInt32} {answer : ScrollbackAnswer} {answered : List Turn}
    {turn : Turn} {reads : List LiveSurfaceRead} {setup : Setup} {moment : Moment} {client reached : LiveClient}
    (h : Fetched connection paneId startLine lineCount tailCount answer left answered turn reads)
    (hreads : reads.foldlM (handleRead setup moment) client = .ok reached) :
    ∃ painted, answer.pendingUpdates.foldlM (LiveClient.cacheUpdate setup)
      (client.applyPendingLive answer.pendingLive) = .ok { reached with painted } := by
  obtain ⟨updated, painted, hupdated, rfl⟩ := handleReads_beside reads h.awaited.kinds hreads
  refine ⟨client.painted, ?_⟩
  rw [h.updates, h.live, applyPendingLive_inventory]
  refine (cacheUpdates_beside _ client _ client.painted).trans ?_
  rw [hupdated]
  rfl

/-! ### A fetch that succeeds -/

/-- The daemon has the pane in every turn, with contents a client accepts, and only sends what a fetch can
wait through. -/
structure Connection.Answering (connection : Connection) (paneId : String) : Prop where
  stream : ∃ reads, Awaited connection.stream reads
  before : ∀ turn ∈ connection.turns, ∃ reads, Awaited turn.before reads
  panes : ∀ turn ∈ connection.turns, ∃ pane, turn.session.pane paneId = some pane ∧
    pane.state.ScrollbackParallel ∧ ∀ startLine lineCount,
      contentChecks pane.state.styles (pane.state.paneScrollback.range startLine lineCount) = .ok ()

theorem Awaited.answers_false {frames : List StreamFrame} {reads : List LiveSurfaceRead}
    (h : Awaited frames reads) : ∀ frame ∈ frames, frame.answers = false := by
  intro frame hmem
  rcases h.bodies frame hmem with hbody | hbody <;> cases frame <;> first | rfl | cases hbody

theorem Connection.Answering.orderly {connection : Connection} {paneId : String}
    (h : connection.Answering paneId) : connection.Orderly paneId where
  stream := h.stream.elim fun _ hreads => hreads.answers_false
  turns := fun turn hmem => (h.before turn hmem).elim fun _ hreads => hreads.answers_false
  panes := fun turn hmem pane hpane => by
    obtain ⟨found, hfound, hparallel, -⟩ := h.panes turn hmem
    rwa [← Option.some.inj (hfound.symm.trans hpane)]

theorem Connection.Answering.emptied {connection left : Connection} {paneId : String} {turns : List Turn}
    (h : connection.Answering paneId) (hstream : left.stream = [])
    (hturns : connection.turns = turns ++ left.turns) : left.Answering paneId where
  stream := ⟨[], hstream ▸ .nil⟩
  before := fun turn hmem => h.before turn (hturns ▸ List.mem_append_right _ hmem)
  panes := fun turn hmem => h.panes turn (hturns ▸ List.mem_append_right _ hmem)


section
variable {session : Session} {pane : Pane} {paneId : String} {startLine known : UInt64} {lineCount : UInt32}

theorem errorSummaryFromFrame_ok {frame : ErrorFrame} (hpane : frame.paneId = some paneId) (hid : paneId ≠ "")
    (hcode : (errorCodeName frame.code).isSome = true) (hmessage : frame.message ≠ "") :
    errorSummaryFromFrame frame = .ok frame := by
  unfold errorSummaryFromFrame
  rw [hpane, Option.elim_some, requiredString_of_ne hid, requiredString_of_ne hmessage, hcode]
  exact congrArg (fun paneId => Except.ok { frame with paneId }) hpane.symm

/-- The text of a stale version is not empty. -/
theorem staleText_ne (paneId client server : String) :
    "stale scrollback version for " ++ paneId ++ ": client=" ++ client ++ " server=" ++ server ≠ "" := by
  intro hempty
  have hlength := congrArg String.length hempty
  rw [String.length_append, String.length_append, String.length_append, String.length_append,
    String.length_append, show "stale scrollback version for ".length = 29 from rfl,
    show "".length = 0 from rfl] at hlength
  omega

/-- The answer is the range, or that the version is stale. -/
theorem scrollbackAnswer_eq (hpane : session.pane paneId = some pane) (hparallel : pane.state.ScrollbackParallel)
    (hid : paneId ≠ "") (hstart : startLine ≠ 0) (hcount : lineCount ≠ 0) :
    (scrollbackAnswer session ⟨paneId, "local-actor", startLine, lineCount, known⟩ =
      [.chunk (pane.state.paneScrollback.rangeChunk startLine lineCount)]) ∨
    known ≠ 0 ∧ ∃ frame error,
      scrollbackAnswer session ⟨paneId, "local-actor", startLine, lineCount, known⟩ = [.error frame] ∧
      errorSummaryFromFrame frame = .ok error ∧ error.code = .staleVersion := by
  have hvalid := (serveScrollbackFetch_eq hpane hparallel hid (show "local-actor" ≠ "" by decide)
    hstart hcount).1 known
  unfold scrollbackAnswer scrollbackReply
  rw [hvalid]
  dsimp only
  by_cases hstale : Live.scrollbackFetchStale session ⟨paneId, "local-actor", startLine, lineCount, known⟩ = true
  · rw [if_pos hstale]
    refine .inr ⟨?_, _, _, rfl, errorSummaryFromFrame_ok rfl hid rfl (staleText_ne paneId _ _), rfl⟩
    rintro rfl
    unfold Live.scrollbackFetchStale at hstale
    cases hversion : session.scrollbackVersion paneId <;> rw [hversion] at hstale <;> cases hstale
  · have hsome : ¬(startLine = 0 || lineCount = 0 || (session.pane paneId).isNone) = true := by
      rw [hpane]
      simp [hstart, hcount]
    rw [if_neg hstale, if_neg hsome]
    dsimp only
    rw [chunkForPane_eq hpane hparallel hstart hcount]
    exact .inl rfl

end

section
variable {connection : Connection} {paneId : String} {startLine known : UInt64} {lineCount : UInt32}
  {pending : PendingReads}

/-- What a fetch is answered with: the chunk, or that the version is stale. -/
theorem Connection.Answering.response (h : connection.Answering paneId) {turn : Turn} {turns : List Turn}
    (hturns : connection.turns = turn :: turns) (hid : paneId ≠ "") (hstart : startLine ≠ 0)
    (hcount : lineCount ≠ 0) :
    ∃ read after, readScrollbackResponse pending
        (connection.send ⟨paneId, "local-actor", startLine, lineCount, known⟩).stream = .ok (read, after, []) ∧
      ((∃ chunk, read = .chunk chunk) ∨ known ≠ 0 ∧ ∃ error, read = .error error ∧ error.code = .staleVersion) := by
  have hmem : turn ∈ connection.turns := hturns ▸ List.mem_cons_self
  obtain ⟨reads, hreads⟩ := h.stream
  obtain ⟨more, hmore⟩ := h.before turn hmem
  obtain ⟨pane, hpane, hparallel, hcontent⟩ := h.panes turn hmem
  have hidOf : pane.state.id = paneId := (Session.pane_mem_nodes hpane).2.2
  unfold Connection.send
  rw [hturns]
  dsimp only
  rw [(hreads.append hmore).waits]
  rcases scrollbackAnswer_eq hpane hparallel hid hstart hcount with hchunk | ⟨hknown, frame, error, hstale, herror, hcode⟩
  · rw [hchunk, readScrollbackResponse,
      hparallel.bounded.chunkFromFrame_eq (fun hempty => hid (hidOf.symm.trans hempty)) hstart,
      show contentChecks pane.state.paneScrollback.styles _ = .ok () from hcontent startLine lineCount]
    exact ⟨_, _, rfl, .inl ⟨_, rfl⟩⟩
  · rw [hstale, readScrollbackResponse, herror]
    exact ⟨_, _, rfl, .inr ⟨hknown, error, rfl, hcode⟩⟩

/-- A daemon that answers gives the chunk in this turn, or in the next if the version is stale. -/
theorem Connection.Answering.fetchChunk_ok (h : connection.Answering paneId) {turn : Turn} {turns : List Turn}
    (hturns : connection.turns = turn :: turns) (hid : paneId ≠ "") (hstart : startLine ≠ 0)
    (hcount : lineCount ≠ 0) (hmore : known = 0 ∨ turns ≠ []) :
    ∃ result, fetchChunk paneId startLine lineCount known pending connection = .ok result := by
  obtain ⟨read, after, hread, hkind⟩ := @response _ _ _ known _ pending h _ _ hturns hid hstart hcount
  unfold fetchChunk readChunkWithStaleRetry
  rw [hread, ok_bind]
  dsimp only
  rcases hkind with ⟨chunk, rfl⟩ | ⟨hknown, error, rfl, hcode⟩
  · exact ⟨_, rfl⟩
  · obtain ⟨next, rest, hnext⟩ := List.exists_cons_of_ne_nil (hmore.resolve_left hknown)
    have hsent : (connection.send ⟨paneId, "local-actor", startLine, lineCount, known⟩).turns = turns := by
      unfold Connection.send
      rw [hturns]
    have hleft : Connection.Answering { connection.send
        ⟨paneId, "local-actor", startLine, lineCount, known⟩ with stream := [] } paneId :=
      h.emptied rfl (show connection.turns = [turn] ++ _ by rw [hturns, hsent]; rfl)
    obtain ⟨retried, last, hretried, hretriedKind⟩ :=
      @response _ _ _ 0 _ after hleft _ _ (hsent.trans hnext) hid hstart hcount
    dsimp only
    rw [if_pos hcode, hretried, ok_bind]
    rcases hretriedKind with ⟨chunk, rfl⟩ | ⟨hzero, -⟩
    · exact ⟨_, rfl⟩
    · exact absurd rfl hzero

/-- **A fetch succeeds in three turns**, or two where a range is given. -/
theorem Connection.Answering.fetch_ok (h : connection.Answering paneId) (hid : paneId ≠ "")
    {tailCount : Option UInt32} (knownVersionFor : UInt64 → UInt32 → UInt64)
    (hrange : tailCount.elim (startLine ≠ 0 ∧ lineCount ≠ 0) fun tailCount => tailCount ≠ 0)
    (hturns : 3 ≤ connection.turns.length) :
    ∃ result, fetchScrollbackChunkWithPendingLive paneId startLine lineCount tailCount knownVersionFor
      connection = .ok result := by
  obtain ⟨first, second, hfirst⟩ : ∃ first second, connection.turns = first :: second :=
    List.exists_cons_of_length_pos (by omega)
  have hsecond : 2 ≤ second.length := by
    rw [hfirst, List.length_cons] at hturns
    omega
  have hsome : second ≠ [] := List.ne_nil_of_length_pos (by omega)
  unfold fetchScrollbackChunkWithPendingLive selectRange
  cases tailCount with
  | none =>
    obtain ⟨hstart, hcount⟩ := hrange
    obtain ⟨⟨chunk, after, left⟩, hfetch⟩ := @fetchChunk_ok connection _ _
      (knownVersionFor startLine lineCount) _ .empty h _ _ hfirst hid hstart hcount (.inr hsome)
    rw [ok_bind]
    dsimp only
    rw [hfetch]
    exact ⟨_, rfl⟩
  | some tail =>
    obtain ⟨⟨probe, kept, probed⟩, hprobe⟩ := @fetchChunk_ok connection _ 1 0 1 .empty h _ _ hfirst hid
      (by decide) (by decide) (.inl rfl)
    obtain ⟨answered, turn, reads, hfetched, -, hnone⟩ := Screen.fetchChunk_ok h.orderly hprobe
    obtain rfl := hnone rfl
    obtain ⟨pane, hpane⟩ := hfetched.shows
    have htaken : connection.turns = turn :: probed.turns := hfetched.taken
    have hturn : turn ∈ connection.turns := htaken ▸ List.mem_cons_self
    have hbound := (h.orderly.panes turn hturn pane hpane.found).lines
    have hstart := (tailStartLine_toNat (hpane.totalLines hbound) hbound tail).2
    have hprobed : probed.turns = second := (List.cons.inj (htaken.symm.trans hfirst)).2
    obtain ⟨next, rest, hnext⟩ := List.exists_cons_of_ne_nil hsome
    have hleft : probed.Answering paneId :=
      h.emptied hfetched.emptied (show connection.turns = [turn] ++ probed.turns from htaken)
    have hrest : rest ≠ [] := List.ne_nil_of_length_pos (by rw [hnext, List.length_cons] at hsecond; omega)
    obtain ⟨⟨chunk, after, left⟩, hfetch⟩ := @fetchChunk_ok probed _ _
      (knownVersionFor (tailStartLine probe.totalLines tail) tail) _ kept hleft _ _ (hprobed.trans hnext)
      hid hstart hrange (.inr hrest)
    dsimp only
    rw [hprobe, ok_bind]
    dsimp only
    rw [pure_bind]
    dsimp only
    rw [hfetch]
    exact ⟨_, rfl⟩

end

/-- A daemon that tells of a client and its presence before each answer. -/
def tellingTurn : Turn where
  before := [.presence ⟨"other", "other", "Other", .readWrite, .joined, none⟩, .inventory (.snapshot 1 [])]
  session := Session.initial

def tellingConnection : Connection where
  stream := []
  turns := [tellingTurn, tellingTurn, tellingTurn]

theorem tellingConnection_answering : tellingConnection.Answering "pane-1" where
  stream := ⟨[], .nil⟩
  before := by
    intro turn hmem
    have hturn : turn = tellingTurn := List.eq_of_mem_replicate (show turn ∈ List.replicate 3 tellingTurn from hmem)
    subst hturn
    exact ⟨[.inventory (.snapshot 1 [])], (Awaited.nil.cons_kept rfl rfl).cons_passed rfl rfl⟩
  panes := by
    intro turn hmem
    have hturn : turn = tellingTurn := List.eq_of_mem_replicate (show turn ∈ List.replicate 3 tellingTurn from hmem)
    subst hturn
    obtain ⟨pane, hpane⟩ := Option.isSome_iff_exists.mp
      (show (Session.initial.pane "pane-1").isSome = true by decide)
    have hall : (Session.initial.pane "pane-1").all (fun pane => decide (
        pane.state.scrollbackRowRuns.length = pane.state.scrollbackLines.length ∧
        pane.state.scrollbackSemanticPrompts.length = pane.state.scrollbackLines.length ∧
        pane.state.scrollbackDirtyRows.length = pane.state.scrollbackLines.length ∧
        pane.state.scrollbackKittyPlaceholders.length = pane.state.scrollbackLines.length ∧
        pane.state.scrollbackLines.length < 2 ^ 63 ∧
        contentChecks pane.state.styles pane.state.paneScrollback.numberedRows = .ok ())) = true := by
      decide +kernel
    rw [hpane] at hall
    obtain ⟨hruns, hprompts, hdirty, hplaceholders, hlines, hcontent⟩ := of_decide_eq_true hall
    refine ⟨pane, hpane, ⟨hruns, hprompts, hdirty, hplaceholders, hlines⟩, fun startLine lineCount => ?_⟩
    exact each_eq_ok.mpr fun row hrow =>
      each_eq_ok.mp hcontent row (List.mem_of_mem_drop (List.mem_of_mem_take hrow))

end Nmux.Screen
