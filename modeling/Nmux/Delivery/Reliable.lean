import Mathlib.Algebra.BigOperators.Group.Finset.Basic
import Nmux.Delivery.Output
import Nmux.Lib.Run

/-! The bytes of the reliable queue. Callers of the sender and the receiver share an atomic counter, and
their atomic steps may come in any order: a caller reserves its bytes before its frame is in the queue, and
gives them up if the queue refuses it; the receiver releases the bytes of a frame after it has taken it.
The counter is the bytes of the frames that are queued or in the hands of one of them. -/
namespace Nmux.Delivery

open Lib (run)

/-- A frame whose length is a machine word. -/
structure SizedFrame where
  frame : ReliableFrame
  fits : frame.bytes.length < 2 ^ 64
deriving DecidableEq

/-- `frame.bytes.len()`. -/
def SizedFrame.len (frame : SizedFrame) : UInt64 := UInt64.ofNat frame.frame.bytes.length

/-- A call of `try_send_reliable`: before its first load; with the pending bytes it last saw; with its bytes
reserved; refused, with its bytes still reserved; and done. -/
inductive SendCall where
  | idle
  | loading (frame : SizedFrame)
  | comparing (frame : SizedFrame) (pending : UInt64)
  | reserved (frame : SizedFrame)
  | refused (frame : SizedFrame) (err : ClientOutputError)
  | returned (frame : SizedFrame) (result : Option ClientOutputError)

namespace SendCall

/-- The caller is in no call. -/
def done : SendCall → Bool
  | .idle | .returned _ _ => true
  | _ => false

/-- The bytes a call has reserved for a frame that is not in the queue. -/
def held : SendCall → ℕ
  | .reserved frame | .refused frame _ => frame.frame.bytes.length
  | _ => 0

end SendCall

/-- The two ways to receive. -/
inductive RecvCall where
  | recvReliable
  | recvWriteEvent
deriving DecidableEq, Repr

/-- The counter, the queue, and the two ends. `accepted` and `received` are no part of the source: they list
the frames the queue took and those that receives returned. Frames that are left when the receiver is
dropped stay in `queue`, where nobody receives them. -/
structure ReliableChannel (ι : Type) where
  reliableFrameCap : ℕ
  reliableByteCap : UInt64
  pendingReliableBytes : UInt64
  queue : List SizedFrame
  sends : ι → SendCall
  senderDropped : Bool
  surfacesChanged : Bool
  receiving : Option SizedFrame
  reliableClosed : Bool
  surfaceClosed : Bool
  receiverDropped : Bool
  accepted : List SizedFrame
  received : List SizedFrame

/-- What may happen next. `advance` is the next atomic step of a call, with whether a weak exchange fails
for no reason. -/
inductive ChannelStep (ι : Type) where
  | call (caller : ι) (frame : SizedFrame)
  | advance (caller : ι) (spurious : Bool)
  | signalSurfaces
  | dropSender
  | recv (call : RecvCall)
  | releaseReliableFrame
  | dropReceiver

/-- What a reservation makes of the pending bytes, if they may grow. -/
def reserveNext (cap pending len : UInt64) : Option UInt64 :=
  if 2 ^ 64 ≤ pending.toNat + len.toNat then none
  else if cap < pending + len then none
  else some (pending + len)

namespace ReliableChannel

variable {ι : Type}

def new (ι : Type) (reliableFrameCap : ℕ) (reliableByteCap : UInt64) : ReliableChannel ι where
  reliableFrameCap
  reliableByteCap
  pendingReliableBytes := 0
  queue := []
  sends _ := .idle
  senderDropped := false
  surfacesChanged := false
  receiving := none
  reliableClosed := false
  surfaceClosed := false
  receiverDropped := false
  accepted := []
  received := []

/-! ### Steps -/

/-- A receive that finds a frame takes it. -/
def take (channel : ReliableChannel ι) (frame : SizedFrame) (rest : List SizedFrame) : ReliableChannel ι :=
  { channel with queue := rest, receiving := some frame }

/-- `recv_reliable`, up to its release. -/
def recvReliable (channel : ReliableChannel ι) : ReliableChannel ι :=
  match channel.queue with
  | [] => channel
  | frame :: rest => channel.take frame rest

/-- The second branch of `recv_write_event`. -/
def recvSurfaces (channel : ReliableChannel ι) : ReliableChannel ι :=
  if channel.surfaceClosed then channel
  else if channel.surfacesChanged then { channel with surfacesChanged := false }
  else { channel with surfaceClosed := channel.senderDropped }

/-- `recv_write_event`, up to its release. -/
def recvWriteEvent (channel : ReliableChannel ι) : ReliableChannel ι :=
  if channel.reliableClosed then channel.recvSurfaces
  else
    match channel.queue with
    | [] => { channel with reliableClosed := channel.senderDropped }.recvSurfaces
    | frame :: rest => channel.take frame rest

/-- `release_reliable_frame`, after which the frame is returned. -/
def releaseReliableFrame (channel : ReliableChannel ι) (frame : SizedFrame) : ReliableChannel ι :=
  { channel with
    pendingReliableBytes := channel.pendingReliableBytes - frame.len
    receiving := none
    received := channel.received ++ [frame] }

variable [DecidableEq ι]

def withSend (channel : ReliableChannel ι) (caller : ι) (call : SendCall) : ReliableChannel ι :=
  { channel with sends := Function.update channel.sends caller call }

/-- The error of a reservation that is refused with the pending bytes it saw. -/
def byteQueueFull (channel : ReliableChannel ι) (pending : UInt64) (frame : SizedFrame) : ClientOutputError :=
  .reliableByteQueueFull channel.reliableByteCap.toNat pending.toNat frame.frame.bytes.length

/-- One round of the loop in `reserve_reliable_bytes`. -/
def compareExchange (channel : ReliableChannel ι) (caller : ι) (spurious : Bool) (frame : SizedFrame)
    (pending : UInt64) : ReliableChannel ι :=
  match reserveNext channel.reliableByteCap pending frame.len with
  | none => channel.withSend caller (.returned frame (some (channel.byteQueueFull pending frame)))
  | some next =>
    if channel.pendingReliableBytes = pending ∧ spurious = false then
      { channel with pendingReliableBytes := next }.withSend caller (.reserved frame)
    else channel.withSend caller (.comparing frame channel.pendingReliableBytes)

/-- `try_send` on the queue. -/
def trySend (channel : ReliableChannel ι) (caller : ι) (frame : SizedFrame) : ReliableChannel ι :=
  if channel.receiverDropped then channel.withSend caller (.refused frame .reliableQueueClosed)
  else if channel.reliableFrameCap ≤ channel.queue.length then
    channel.withSend caller
      (.refused frame (.reliableFrameQueueFull channel.reliableFrameCap frame.frame.bytes.length))
  else
    { channel with queue := channel.queue ++ [frame], accepted := channel.accepted ++ [frame] }.withSend caller
      (.returned frame none)

/-- `release_reliable_bytes`, after which the call returns its error. -/
def releaseReliableBytes (channel : ReliableChannel ι) (caller : ι) (frame : SizedFrame)
    (err : ClientOutputError) : ReliableChannel ι :=
  { channel with pendingReliableBytes := channel.pendingReliableBytes - frame.len }.withSend caller
    (.returned frame (some err))

/-- The next atomic step of a call. -/
def advance (channel : ReliableChannel ι) (caller : ι) (spurious : Bool) : ReliableChannel ι :=
  match channel.sends caller with
  | .idle | .returned _ _ => channel
  | .loading frame => channel.withSend caller (.comparing frame channel.pendingReliableBytes)
  | .comparing frame pending => channel.compareExchange caller spurious frame pending
  | .reserved frame => channel.trySend caller frame
  | .refused frame err => channel.releaseReliableBytes caller frame err

def step [Fintype ι] (channel : ReliableChannel ι) : ChannelStep ι → ReliableChannel ι
  | .call caller frame =>
    if channel.senderDropped ∨ (channel.sends caller).done = false then channel
    else channel.withSend caller (.loading frame)
  | .advance caller spurious => channel.advance caller spurious
  | .signalSurfaces => if channel.senderDropped then channel else { channel with surfacesChanged := true }
  | .dropSender =>
    if ∀ caller, (channel.sends caller).done = true then { channel with senderDropped := true } else channel
  | .recv call =>
    if channel.receiverDropped ∨ channel.receiving.isSome then channel
    else
      match call with
      | .recvReliable => channel.recvReliable
      | .recvWriteEvent => channel.recvWriteEvent
  | .releaseReliableFrame =>
    match channel.receiving with
    | none => channel
    | some frame => channel.releaseReliableFrame frame
  | .dropReceiver =>
    if channel.receiving.isSome then channel else { channel with receiverDropped := true }

/-! ### The invariant -/

/-- The bytes of frames. -/
def frameBytes (frames : List SizedFrame) : ℕ := (frames.map fun frame => frame.frame.bytes.length).sum

variable [Fintype ι]

/-- The bytes of the frames that are queued, or on their way into the queue or out of it. -/
def bytesUnderWay (channel : ReliableChannel ι) : ℕ :=
  frameBytes channel.queue + frameBytes channel.receiving.toList + ∑ caller, (channel.sends caller).held

structure Exact (channel : ReliableChannel ι) : Prop where
  pending : channel.pendingReliableBytes.toNat = channel.bytesUnderWay
  withinCap : channel.pendingReliableBytes ≤ channel.reliableByteCap
  order : channel.received ++ channel.receiving.toList ++ channel.queue = channel.accepted

theorem frameBytes_append (frames more : List SizedFrame) :
    frameBytes (frames ++ more) = frameBytes frames + frameBytes more := by
  rw [frameBytes, List.map_append, List.sum_append]
  rfl

theorem frameBytes_cons (frame : SizedFrame) (frames : List SizedFrame) :
    frameBytes (frame :: frames) = frame.frame.bytes.length + frameBytes frames := by
  rw [frameBytes, List.map_cons, List.sum_cons]
  rfl

theorem len_toNat (frame : SizedFrame) : frame.len.toNat = frame.frame.bytes.length :=
  UInt64.toNat_ofNat_of_lt' frame.fits

/-- What the calls hold when one of them moves on. -/
theorem sum_held_update (sends : ι → SendCall) (caller : ι) (call : SendCall) :
    ∑ other, (Function.update sends caller call other).held + (sends caller).held =
      ∑ other, (sends other).held + call.held := by
  rw [← Finset.add_sum_erase _ _ (Finset.mem_univ caller),
    ← Finset.add_sum_erase Finset.univ (fun other => (sends other).held) (Finset.mem_univ caller),
    Function.update_self]
  have hothers : ∑ other ∈ Finset.univ.erase caller, (Function.update sends caller call other).held =
      ∑ other ∈ Finset.univ.erase caller, (sends other).held :=
    Finset.sum_congr rfl fun other hother => by rw [Function.update_of_ne (Finset.ne_of_mem_erase hother)]
  rw [hothers]
  omega

omit [DecidableEq ι] in
theorem held_le (channel : ReliableChannel ι) (caller : ι) :
    (channel.sends caller).held ≤ channel.bytesUnderWay :=
  le_trans (Finset.single_le_sum (f := fun caller => (channel.sends caller).held) (fun _ _ => Nat.zero_le _)
    (Finset.mem_univ caller)) (Nat.le_add_left _ _)

omit [DecidableEq ι] in
theorem exact_new (reliableFrameCap : ℕ) (reliableByteCap : UInt64) :
    (new ι reliableFrameCap reliableByteCap).Exact where
  pending := by simp [new, bytesUnderWay, frameBytes, SendCall.held]
  withinCap := UInt64.le_iff_toNat_le.mpr (Nat.zero_le _)
  order := rfl

/-! ### Each step keeps it -/

section

variable {channel : ReliableChannel ι} {caller : ι} {frame : SizedFrame}

theorem bytesUnderWay_withSend (channel : ReliableChannel ι) (caller : ι) (call : SendCall) :
    (channel.withSend caller call).bytesUnderWay + (channel.sends caller).held =
      channel.bytesUnderWay + call.held := by
  have hsum := sum_held_update channel.sends caller call
  unfold bytesUnderWay withSend
  dsimp only
  omega

/-- A call moves on without changing what it holds. -/
theorem Exact.withSend (h : channel.Exact) {call : SendCall} (hheld : call.held = (channel.sends caller).held) :
    (channel.withSend caller call).Exact where
  pending := by
    have hbytes := bytesUnderWay_withSend channel caller call
    rw [hheld] at hbytes
    exact h.pending.trans (Nat.add_right_cancel hbytes).symm
  withinCap := h.withinCap
  order := h.order

theorem reserveNext_eq_some {cap pending len next : UInt64} (h : reserveNext cap pending len = some next) :
    next = pending + len ∧ next.toNat = pending.toNat + len.toNat ∧ next ≤ cap := by
  unfold reserveNext at h
  split_ifs at h with hoverflow hcap
  obtain rfl := Option.some.inj h
  rw [UInt64.toNat_add, Nat.mod_eq_of_lt (Nat.lt_of_not_le hoverflow)]
  exact ⟨rfl, rfl, UInt64.not_lt.mp hcap⟩

/-- A reservation, and the refusal of one. -/
theorem Exact.compareExchange (h : channel.Exact) {pending : UInt64}
    (hcall : channel.sends caller = .comparing frame pending) (spurious : Bool) :
    (channel.compareExchange caller spurious frame pending).Exact := by
  have hnone : (channel.sends caller).held = 0 := by rw [hcall]; rfl
  unfold ReliableChannel.compareExchange
  cases hnext : reserveNext channel.reliableByteCap pending frame.len with
  | none => exact h.withSend hnone.symm
  | some next =>
    dsimp only
    split
    case isFalse => exact h.withSend hnone.symm
    case isTrue hexchange =>
      obtain ⟨-, hvalue, hcap⟩ := reserveNext_eq_some hnext
      refine ⟨?_, hcap, h.order⟩
      have hbytes := bytesUnderWay_withSend { channel with pendingReliableBytes := next } caller (.reserved frame)
      have hpending := h.pending
      rw [← hexchange.1, len_toNat, hpending] at hvalue
      show next.toNat = _
      rw [hvalue]
      change _ + (channel.sends caller).held = channel.bytesUnderWay + frame.frame.bytes.length at hbytes
      omega

theorem Exact.trySend (h : channel.Exact) (hcall : channel.sends caller = .reserved frame) :
    (channel.trySend caller frame).Exact := by
  have hheld : (channel.sends caller).held = frame.frame.bytes.length := by rw [hcall]; rfl
  unfold ReliableChannel.trySend
  split_ifs
  · exact h.withSend hheld.symm
  · exact h.withSend hheld.symm
  · refine ⟨?_, h.withinCap, ?_⟩
    · have hbytes := bytesUnderWay_withSend { channel with
        queue := channel.queue ++ [frame], accepted := channel.accepted ++ [frame] } caller (.returned frame none)
      have hqueued : ({ channel with queue := channel.queue ++ [frame], accepted := channel.accepted ++ [frame] } :
          ReliableChannel ι).bytesUnderWay = channel.bytesUnderWay + frame.frame.bytes.length := by
        unfold bytesUnderWay
        dsimp only
        rw [frameBytes_append, show frameBytes [frame] = frame.frame.bytes.length from Nat.add_zero _]
        omega
      rw [hqueued] at hbytes
      change _ + (channel.sends caller).held = _ + 0 at hbytes
      have hpending := h.pending
      show channel.pendingReliableBytes.toNat = _
      omega
    · show channel.received ++ channel.receiving.toList ++ (channel.queue ++ [frame]) = channel.accepted ++ [frame]
      rw [← List.append_assoc, h.order]

omit [DecidableEq ι] in
/-- Bytes that are under way can be released. -/
theorem Exact.release (h : channel.Exact) (hle : frame.frame.bytes.length ≤ channel.bytesUnderWay) :
    (channel.pendingReliableBytes - frame.len).toNat = channel.bytesUnderWay - frame.frame.bytes.length ∧
      channel.pendingReliableBytes - frame.len ≤ channel.reliableByteCap := by
  have hlen : frame.len ≤ channel.pendingReliableBytes := by
    rw [UInt64.le_iff_toNat_le, len_toNat, h.pending]
    exact hle
  have hvalue := UInt64.toNat_sub_of_le _ _ hlen
  rw [len_toNat, h.pending] at hvalue
  refine ⟨hvalue, ?_⟩
  have hcap := UInt64.le_iff_toNat_le.mp h.withinCap
  rw [h.pending] at hcap
  rw [UInt64.le_iff_toNat_le, hvalue]
  omega

theorem Exact.releaseReliableBytes (h : channel.Exact) {err : ClientOutputError}
    (hcall : channel.sends caller = .refused frame err) :
    (channel.releaseReliableBytes caller frame err).Exact := by
  have hheld : (channel.sends caller).held = frame.frame.bytes.length := by rw [hcall]; rfl
  obtain ⟨hvalue, hcap⟩ := h.release (hheld ▸ held_le channel caller)
  refine ⟨?_, hcap, h.order⟩
  have hbytes := bytesUnderWay_withSend { channel with
    pendingReliableBytes := channel.pendingReliableBytes - frame.len } caller (.returned frame (some err))
  change _ + (channel.sends caller).held = channel.bytesUnderWay + 0 at hbytes
  show (channel.pendingReliableBytes - frame.len).toNat = _
  rw [hvalue]
  unfold ReliableChannel.releaseReliableBytes
  omega

theorem Exact.advance (h : channel.Exact) (caller : ι) (spurious : Bool) :
    (channel.advance caller spurious).Exact := by
  unfold ReliableChannel.advance
  cases hcall : channel.sends caller with
  | idle | returned => exact h
  | loading frame => exact h.withSend (by rw [hcall]; rfl)
  | comparing frame pending => exact h.compareExchange hcall spurious
  | reserved frame => exact h.trySend hcall
  | refused frame err => exact h.releaseReliableBytes hcall

omit [DecidableEq ι] in
/-- A frame is taken from the queue into the hands of the receiver. -/
theorem Exact.take (h : channel.Exact) (hnone : channel.receiving = none) {rest : List SizedFrame}
    (hqueue : channel.queue = frame :: rest) : (channel.take frame rest).Exact where
  pending := by
    rw [show (channel.take frame rest).pendingReliableBytes = channel.pendingReliableBytes from rfl, h.pending]
    unfold bytesUnderWay ReliableChannel.take
    rw [hnone, hqueue, frameBytes_cons]
    dsimp only [Option.toList]
    rw [show frameBytes [] = 0 from rfl, show frameBytes [frame] = frame.frame.bytes.length from Nat.add_zero _]
    omega
  withinCap := h.withinCap
  order := by
    have horder := h.order
    rw [hnone, hqueue] at horder
    show channel.received ++ [frame] ++ rest = channel.accepted
    rw [← horder]
    simp

omit [DecidableEq ι] in
theorem Exact.releaseReliableFrame (h : channel.Exact) (hsome : channel.receiving = some frame) :
    (channel.releaseReliableFrame frame).Exact := by
  have hle : frame.frame.bytes.length ≤ channel.bytesUnderWay := by
    unfold bytesUnderWay
    rw [hsome]
    dsimp only [Option.toList]
    rw [show frameBytes [frame] = frame.frame.bytes.length from Nat.add_zero _]
    omega
  obtain ⟨hvalue, hcap⟩ := h.release hle
  refine ⟨?_, hcap, ?_⟩
  · show (channel.pendingReliableBytes - frame.len).toNat = _
    rw [hvalue]
    unfold bytesUnderWay ReliableChannel.releaseReliableFrame
    rw [hsome]
    dsimp only [Option.toList]
    rw [show frameBytes [] = 0 from rfl, show frameBytes [frame] = frame.frame.bytes.length from Nat.add_zero _]
    omega
  · have horder := h.order
    rw [hsome] at horder
    show channel.received ++ [frame] ++ [] ++ channel.queue = channel.accepted
    rw [← horder]
    simp

omit [DecidableEq ι] in
/-- The surfaces have no part in the counter. -/
theorem Exact.recvSurfaces (h : channel.Exact) : channel.recvSurfaces.Exact := by
  unfold ReliableChannel.recvSurfaces
  split_ifs
  · exact h
  · exact ⟨h.pending, h.withinCap, h.order⟩
  · exact ⟨h.pending, h.withinCap, h.order⟩

end

theorem Exact.step {channel : ReliableChannel ι} (h : channel.Exact) (next : ChannelStep ι) :
    (channel.step next).Exact := by
  cases next with
  | call caller frame =>
    unfold ReliableChannel.step
    dsimp only
    split_ifs with hrefused
    · exact h
    · refine h.withSend ?_
      have hdone := Bool.eq_true_of_not_eq_false (not_or.mp hrefused).2
      cases hcall : channel.sends caller <;> rw [hcall] at hdone <;> first | rfl | cases hdone
  | advance caller spurious => exact h.advance caller spurious
  | signalSurfaces =>
    unfold ReliableChannel.step
    dsimp only
    split_ifs
    · exact h
    · exact ⟨h.pending, h.withinCap, h.order⟩
  | dropSender =>
    unfold ReliableChannel.step
    dsimp only
    split_ifs
    · exact ⟨h.pending, h.withinCap, h.order⟩
    · exact h
  | recv call =>
    unfold ReliableChannel.step
    dsimp only
    split_ifs with hbusy
    · exact h
    · have hnone := Option.not_isSome_iff_eq_none.mp (not_or.mp hbusy).2
      cases call with
      | recvReliable =>
        unfold ReliableChannel.recvReliable
        dsimp only
        split
        case h_1 => exact h
        case h_2 frame rest hqueue => exact h.take hnone hqueue
      | recvWriteEvent =>
        unfold ReliableChannel.recvWriteEvent
        dsimp only
        split_ifs
        · exact h.recvSurfaces
        · split
          case h_1 => exact Exact.recvSurfaces ⟨h.pending, h.withinCap, h.order⟩
          case h_2 frame rest hqueue => exact h.take hnone hqueue
  | releaseReliableFrame =>
    unfold ReliableChannel.step
    dsimp only
    cases hsome : channel.receiving with
    | none => exact h
    | some frame => exact h.releaseReliableFrame hsome
  | dropReceiver =>
    unfold ReliableChannel.step
    dsimp only
    split_ifs
    · exact h
    · exact ⟨h.pending, h.withinCap, h.order⟩

/-! ### Whole calls -/

/-- The sender's end as a whole call sees it: with numbers for words. -/
def asOutput (channel : ReliableChannel ι) (output : AsyncClientOutput) : AsyncClientOutput :=
  { output with
    reliableFrameCap := channel.reliableFrameCap
    reliableByteCap := channel.reliableByteCap.toNat
    reliable := channel.queue.map (·.frame)
    pendingReliableBytes := channel.pendingReliableBytes.toNat
    receiverClosed := channel.receiverDropped }

def sendResult : Option ClientOutputError → Except ClientOutputError Unit
  | none => .ok ()
  | some err => .error err

/-- The steps of a call that nothing comes between: load, exchange, send, and the release if it was
refused. -/
def wholeCall (caller : ι) (frame : SizedFrame) : List (ChannelStep ι) :=
  [.call caller frame, .advance caller false, .advance caller false, .advance caller false,
    .advance caller false]

section

variable {channel : ReliableChannel ι} {caller : ι} {frame : SizedFrame}

omit [Fintype ι] in
theorem advance_returned {result : Option ClientOutputError}
    (h : channel.sends caller = .returned frame result) (spurious : Bool) :
    channel.advance caller spurious = channel := by
  unfold ReliableChannel.advance
  rw [h]

omit [Fintype ι] in
theorem withSend_sends (channel : ReliableChannel ι) (caller : ι) (call : SendCall) :
    (channel.withSend caller call).sends caller = call := Function.update_self ..

omit [Fintype ι] in
theorem withSend_withSend (channel : ReliableChannel ι) (caller : ι) (call other : SendCall) :
    (channel.withSend caller call).withSend caller other = channel.withSend caller other := by
  unfold ReliableChannel.withSend
  dsimp only
  rw [Function.update_idem]

omit [Fintype ι] in
theorem asOutput_withSend (channel : ReliableChannel ι) (caller : ι) (call : SendCall)
    (output : AsyncClientOutput) : (channel.withSend caller call).asOutput output = channel.asOutput output := rfl

omit [Fintype ι] in
/-- A reservation that saw the pending bytes as they are. -/
theorem advance_comparing (channel : ReliableChannel ι) (caller : ι) (frame : SizedFrame) :
    (channel.withSend caller (.comparing frame channel.pendingReliableBytes)).advance caller false =
      (reserveNext channel.reliableByteCap channel.pendingReliableBytes frame.len).elim
        (channel.withSend caller
          (.returned frame (some (channel.byteQueueFull channel.pendingReliableBytes frame))))
        fun next => { channel with pendingReliableBytes := next }.withSend caller (.reserved frame) := by
  unfold ReliableChannel.advance
  rw [withSend_sends]
  unfold ReliableChannel.compareExchange
  dsimp only
  rw [show (channel.withSend caller (.comparing frame channel.pendingReliableBytes)).reliableByteCap =
    channel.reliableByteCap from rfl]
  cases reserveNext channel.reliableByteCap channel.pendingReliableBytes frame.len with
  | none => exact withSend_withSend channel caller _ _
  | some next =>
    dsimp only [Option.elim]
    rw [if_pos ⟨rfl, rfl⟩]
    exact withSend_withSend { channel with pendingReliableBytes := next } caller _ _

omit [Fintype ι] in
theorem advance_reserved (channel : ReliableChannel ι) (caller : ι) (frame : SizedFrame) :
    (channel.withSend caller (.reserved frame)).advance caller false = channel.trySend caller frame := by
  unfold ReliableChannel.advance
  rw [withSend_sends]
  unfold ReliableChannel.trySend
  simp only [ReliableChannel.withSend, Function.update_idem]

omit [Fintype ι] in
theorem advance_refused (channel : ReliableChannel ι) (caller : ι) (frame : SizedFrame) (err : ClientOutputError) :
    (channel.withSend caller (.refused frame err)).advance caller false =
      channel.releaseReliableBytes caller frame err := by
  unfold ReliableChannel.advance
  rw [withSend_sends]
  exact withSend_withSend { channel with pendingReliableBytes := channel.pendingReliableBytes - frame.len } caller _ _

theorem reserveNext_eq_none (cap pending : UInt64) (frame : SizedFrame) :
    reserveNext cap pending frame.len = none ↔ cap.toNat < pending.toNat + frame.frame.bytes.length := by
  have hcap := cap.toNat_lt
  unfold reserveNext
  rw [len_toNat]
  by_cases hoverflow : 2 ^ 64 ≤ pending.toNat + frame.frame.bytes.length
  · rw [if_pos hoverflow]
    exact iff_of_true rfl (by omega)
  · have hsum : (pending + frame.len).toNat = pending.toNat + frame.frame.bytes.length := by
      rw [UInt64.toNat_add, len_toNat, Nat.mod_eq_of_lt (Nat.lt_of_not_le hoverflow)]
    rw [if_neg hoverflow, ← hsum, ← UInt64.lt_iff_toNat_lt]
    by_cases hover : cap < pending + frame.len
    · rw [if_pos hover]
      exact iff_of_true rfl hover
    · rw [if_neg hover]
      exact iff_of_false (Option.some_ne_none _) hover

/-- With the bytes of a frame reserved. -/
def charged (channel : ReliableChannel ι) (frame : SizedFrame) : ReliableChannel ι :=
  { channel with pendingReliableBytes := channel.pendingReliableBytes + frame.len }

omit [Fintype ι] in
/-- A refused frame gives its bytes back. -/
theorem charged_release (channel : ReliableChannel ι) (caller : ι) (frame : SizedFrame) (err : ClientOutputError)
    (output : AsyncClientOutput) :
    ((channel.charged frame).releaseReliableBytes caller frame err).asOutput output = channel.asOutput output := by
  unfold ReliableChannel.releaseReliableBytes
  rw [asOutput_withSend]
  dsimp only [asOutput, charged]
  rw [UInt64.add_sub_cancel]

omit [Fintype ι] in
/-- What is sent with its bytes reserved, and what is refused and gives them back. -/
theorem trySend_whole (channel : ReliableChannel ι) (caller : ι) (frame : SizedFrame)
    (hpending : (channel.charged frame).pendingReliableBytes.toNat =
      channel.pendingReliableBytes.toNat + frame.frame.bytes.length)
    (hcap : ¬ channel.reliableByteCap.toNat < channel.pendingReliableBytes.toNat + frame.frame.bytes.length)
    (output : AsyncClientOutput) : ∃ result,
      (((channel.charged frame).trySend caller frame).advance caller false).sends caller =
        .returned frame result ∧
      (channel.asOutput output).trySendReliable frame.frame =
        (sendResult result,
          (((channel.charged frame).trySend caller frame).advance caller false).asOutput output) := by
  have hlength : (channel.queue.map (·.frame)).length = channel.queue.length := List.length_map _
  by_cases hclosed : channel.receiverDropped = true
  · have hsent : (channel.charged frame).trySend caller frame =
        (channel.charged frame).withSend caller (.refused frame .reliableQueueClosed) := if_pos hclosed
    rw [hsent, advance_refused, charged_release]
    exact ⟨_, withSend_sends _ _ _, (if_neg hcap).trans (if_pos hclosed)⟩
  · by_cases hfull : channel.reliableFrameCap ≤ channel.queue.length
    · have hsent : (channel.charged frame).trySend caller frame = (channel.charged frame).withSend caller
          (.refused frame (.reliableFrameQueueFull channel.reliableFrameCap frame.frame.bytes.length)) :=
        (if_neg hclosed).trans (if_pos hfull)
      rw [hsent, advance_refused, charged_release]
      refine ⟨_, withSend_sends _ _ _, (if_neg hcap).trans ((if_neg hclosed).trans (if_pos ?_))⟩
      exact hlength.symm ▸ hfull
    · have hsent : (channel.charged frame).trySend caller frame = { channel.charged frame with
          queue := channel.queue ++ [frame], accepted := channel.accepted ++ [frame] }.withSend caller
            (.returned frame none) := (if_neg hclosed).trans (if_neg hfull)
      rw [hsent, advance_returned (withSend_sends _ _ _), asOutput_withSend]
      refine ⟨none, withSend_sends _ _ _, (if_neg hcap).trans ((if_neg hclosed).trans ((if_neg ?_).trans ?_))⟩
      · exact hlength.symm ▸ hfull
      · dsimp only [asOutput, sendResult]
        rw [hpending, List.map_append]
        rfl

/-- **A call that nothing comes between** does what a whole call does. -/
theorem wholeCall_eq (hdone : (channel.sends caller).done = true) (hsender : channel.senderDropped = false)
    (output : AsyncClientOutput) : ∃ result,
      (run step channel (wholeCall caller frame)).sends caller = .returned frame result ∧
      (channel.asOutput output).trySendReliable frame.frame =
        (sendResult result, (run step channel (wholeCall caller frame)).asOutput output) := by
  have hcalled : channel.step (.call caller frame) = channel.withSend caller (.loading frame) := by
    unfold ReliableChannel.step
    dsimp only
    rw [if_neg (by rw [hsender, hdone]; decide)]
  have hloaded : (channel.withSend caller (.loading frame)).advance caller false =
      channel.withSend caller (.comparing frame channel.pendingReliableBytes) := by
    unfold ReliableChannel.advance
    rw [withSend_sends]
    exact withSend_withSend _ _ _ _
  have hrun : run step channel (wholeCall caller frame) =
      (((channel.withSend caller (.comparing frame channel.pendingReliableBytes)).advance caller false).advance
        caller false).advance caller false := by
    rw [← hloaded, ← hcalled]
    rfl
  rw [hrun, advance_comparing]
  cases hnext : reserveNext channel.reliableByteCap channel.pendingReliableBytes frame.len with
  | none =>
    have hover := (reserveNext_eq_none _ _ _).mp hnext
    dsimp only [Option.elim]
    rw [advance_returned (withSend_sends _ _ _), advance_returned (withSend_sends _ _ _)]
    refine ⟨_, withSend_sends _ _ _, ?_⟩
    rw [asOutput_withSend]
    exact if_pos hover
  | some next =>
    obtain ⟨rfl, hvalue, -⟩ := reserveNext_eq_some hnext
    have hcap : ¬ channel.reliableByteCap.toNat <
        channel.pendingReliableBytes.toNat + frame.frame.bytes.length := by
      rw [← reserveNext_eq_none, hnext]
      exact Option.some_ne_none _
    dsimp only [Option.elim]
    rw [advance_reserved]
    exact trySend_whole channel caller frame (hvalue.trans (by rw [len_toNat])) hcap output

end

/-! ### Runs -/

/-- Between calls, nothing is in the hands of a caller or of the receiver. -/
structure AtRest (channel : ReliableChannel ι) : Prop where
  sends : ∀ caller, (channel.sends caller).done = true
  receiving : channel.receiving = none

theorem step_reliableByteCap (channel : ReliableChannel ι) (next : ChannelStep ι) :
    (channel.step next).reliableByteCap = channel.reliableByteCap := by
  cases next with
  | advance caller spurious =>
    show (channel.advance caller spurious).reliableByteCap = _
    unfold ReliableChannel.advance ReliableChannel.compareExchange ReliableChannel.trySend
    split <;> try split
    all_goals first | rfl | split_ifs <;> rfl
  | recv call =>
    unfold ReliableChannel.step ReliableChannel.recvReliable ReliableChannel.recvWriteEvent
      ReliableChannel.recvSurfaces
    cases call <;> dsimp only <;> split_ifs <;> first | rfl | split <;> rfl
  | call | signalSurfaces | dropSender | dropReceiver =>
    unfold ReliableChannel.step
    dsimp only
    split_ifs <;> rfl
  | releaseReliableFrame =>
    unfold ReliableChannel.step
    dsimp only
    split <;> rfl

omit [DecidableEq ι] in
/-- At rest the counter is the bytes of the queue. -/
theorem Exact.atRest {channel : ReliableChannel ι} (h : channel.Exact) (hrest : channel.AtRest) :
    channel.pendingReliableBytes.toNat = frameBytes channel.queue ∧
      channel.received ++ channel.queue = channel.accepted := by
  have hheld : ∀ caller, (channel.sends caller).held = 0 := by
    intro caller
    have hdone := hrest.sends caller
    cases hcall : channel.sends caller <;> rw [hcall] at hdone <;> first | rfl | cases hdone
  have hpending := h.pending
  have horder := h.order
  unfold bytesUnderWay at hpending
  rw [hrest.receiving, Finset.sum_eq_zero fun caller _ => hheld caller] at hpending
  rw [hrest.receiving] at horder
  exact ⟨hpending, by rw [← horder]; simp⟩

/-- **The accounting of the reliable queue is exact**: however the steps of callers and receiver mix, the
counter is the bytes of the frames that are queued or in their hands, it is within the cap, no release takes
more than there is, and what was received and what is left are the accepted frames in order. Between calls
the counter is the bytes of the queue. -/
theorem run_exact (reliableFrameCap : ℕ) (reliableByteCap : UInt64) (steps : List (ChannelStep ι)) :
    let channel := run step (new ι reliableFrameCap reliableByteCap) steps
    channel.pendingReliableBytes.toNat = channel.bytesUnderWay ∧
      channel.pendingReliableBytes ≤ reliableByteCap ∧
      (∀ caller frame err, channel.sends caller = .refused frame err →
        frame.len ≤ channel.pendingReliableBytes) ∧
      (∀ frame, channel.receiving = some frame → frame.len ≤ channel.pendingReliableBytes) ∧
      channel.received ++ channel.receiving.toList ++ channel.queue = channel.accepted ∧
      (channel.AtRest → channel.pendingReliableBytes.toNat = frameBytes channel.queue ∧
        channel.received ++ channel.queue = channel.accepted) := by
  intro channel
  have hinvariant : channel.Exact ∧ channel.reliableByteCap = reliableByteCap := by
    have hrun : ∀ (steps : List (ChannelStep ι)) (channel : ReliableChannel ι), channel.Exact →
        channel.reliableByteCap = reliableByteCap →
          (run step channel steps).Exact ∧ (run step channel steps).reliableByteCap = reliableByteCap := by
      intro steps
      induction steps with
      | nil => exact fun channel h hcap => ⟨h, hcap⟩
      | cons next steps ih =>
        exact fun channel h hcap => ih _ (h.step next) ((step_reliableByteCap channel next).trans hcap)
    exact hrun steps _ (exact_new reliableFrameCap reliableByteCap) rfl
  obtain ⟨h, hcap⟩ := hinvariant
  refine ⟨h.pending, hcap ▸ h.withinCap, ?_, ?_, h.order, h.atRest⟩
  · intro caller frame err hcall
    rw [UInt64.le_iff_toNat_le, len_toNat, h.pending]
    have hheld := held_le channel caller
    rw [hcall] at hheld
    exact hheld
  · intro frame hreceiving
    rw [UInt64.le_iff_toNat_le, len_toNat, h.pending]
    unfold bytesUnderWay
    rw [hreceiving, show frameBytes (some frame).toList = frame.frame.bytes.length from Nat.add_zero _]
    omega

/-- Two callers load the counter before either reserves: the second is refused for its bytes, and the
frame of the first is received. -/
def contended : List (ChannelStep (Fin 2)) :=
  [.call 0 ⟨⟨[1, 2]⟩, by decide⟩, .call 1 ⟨⟨[3, 4]⟩, by decide⟩, .advance 0 false, .advance 1 false,
    .advance 0 false, .advance 1 false, .advance 1 true, .advance 0 false, .call 0 ⟨⟨[5]⟩, by decide⟩,
    .advance 0 false, .advance 0 true, .advance 0 false, .advance 0 false, .recv .recvWriteEvent,
    .releaseReliableFrame]

theorem run_exact_contended :
    (run step (new (Fin 2) 8 3) contended).pendingReliableBytes.toNat =
        frameBytes (run step (new (Fin 2) 8 3) contended).queue ∧
      (run step (new (Fin 2) 8 3) contended).received ++ (run step (new (Fin 2) 8 3) contended).queue =
        (run step (new (Fin 2) 8 3) contended).accepted ∧
      (run step (new (Fin 2) 8 3) contended).queue.map (·.frame.bytes) = [[5]] := by
  obtain ⟨hbytes, horder⟩ := (run_exact 8 3 contended).2.2.2.2.2 ⟨by decide +kernel, by decide +kernel⟩
  exact ⟨hbytes, horder, by decide +kernel⟩

end ReliableChannel

end Nmux.Delivery
