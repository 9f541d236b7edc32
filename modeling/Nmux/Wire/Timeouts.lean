import Nmux.Wire.Agreement

/-! A client on a socket with a read timeout. The bytes of the server come in pieces, with timeouts between
them, and a reader that runs into a timeout has used up what came before it. The frames sent come out as
they were sent exactly if every timeout falls between two of them. -/
namespace Nmux.Wire

open Lib.Framing

/-- What a read of the socket meets: bytes, at least one of them, or the timeout. -/
inductive Arrival where
  | bytes (first : UInt8) (more : List UInt8)
  | timeout
deriving DecidableEq, Repr

/-- The rest of a piece stays in front of what arrives after it. -/
def putBack : List UInt8 → List Arrival → List Arrival
  | [], arrivals => arrivals
  | first :: more, arrivals => .bytes first more :: arrivals

/-- `read_exact` on the socket: it reads on until it has its count, the stream ends or a read fails. -/
def readExactArrivals : Nat → EStateM IoErrorKind (List Arrival) (List UInt8)
  | 0, arrivals => .ok [] arrivals
  | _ + 1, [] => .error .unexpectedEof []
  | _ + 1, .timeout :: rest => .error .wouldBlock rest
  | count + 1, .bytes first more :: rest =>
    if count ≤ more.length then .ok (first :: more.take count) (putBack (more.drop count) rest)
    else
      match readExactArrivals (count - more.length) rest with
      | .ok taken rest' => .ok (first :: more ++ taken) rest'
      | .error kind rest' => .error kind rest'

/-- `LiveSurfaceRead`, with the frames' contents as they are decoded. -/
inductive LiveSurfaceRead (α : Type) where
  | frame (content : α)
  | noFrame
  | closed
deriving DecidableEq, Repr

/-- The errors of a live read: of the wire, or of decoding the frame. -/
inductive LiveReadError (ε δ : Type) where
  | wire (error : WireError ε)
  | decode (error : δ)
deriving DecidableEq, Repr

section
variable {ε δ α σ : Type} (verifier : EnvelopeVerifier ε) (decodeLive : List UInt8 → Except δ α)
  (readExact : Nat → EStateM IoErrorKind σ (List UInt8))

def readLiveSurfaceUpdateFromStream : EStateM (LiveReadError ε δ) σ (LiveSurfaceRead α) := fun stream =>
  match readDefaultFrame verifier readExact stream with
  | .ok frame stream' =>
    match decodeLive frame with
    | .ok content => .ok (.frame content) stream'
    | .error error => .error (.decode error) stream'
  | .error (.io .timedOut) stream' | .error (.io .wouldBlock) stream' => .ok .noFrame stream'
  | .error (.io .unexpectedEof) stream' | .error (.io .connectionReset) stream'
  | .error (.io .brokenPipe) stream' => .ok .closed stream'
  | .error error stream' => .error (.wire error) stream'

/-- How a client's reading ends. -/
inductive Ending (ε δ : Type) where
  | closed
  | failed (error : LiveReadError ε δ)

/-- A client that calls again whenever there is no frame: the frames behind the contents it gets, and how
it ends. -/
inductive Receives : List Arrival → List (List UInt8) → Ending ε δ → Prop
  | closed {arrivals rest : List Arrival}
      (hread : readLiveSurfaceUpdateFromStream verifier decodeLive readExactArrivals arrivals =
        .ok .closed rest) : Receives arrivals [] .closed
  | failed {arrivals rest : List Arrival} {error : LiveReadError ε δ}
      (hread : readLiveSurfaceUpdateFromStream verifier decodeLive readExactArrivals arrivals =
        .error error rest) : Receives arrivals [] (.failed error)
  | again {arrivals rest : List Arrival} {frames : List (List UInt8)} {ending : Ending ε δ}
      (hread : readLiveSurfaceUpdateFromStream verifier decodeLive readExactArrivals arrivals =
        .ok .noFrame rest) (hrest : Receives rest frames ending) : Receives arrivals frames ending
  | frame {arrivals rest : List Arrival} {frame : List UInt8} {frames : List (List UInt8)} {content : α}
      {ending : Ending ε δ}
      (hframe : readDefaultFrame verifier readExactArrivals arrivals = .ok frame rest)
      (hread : readLiveSurfaceUpdateFromStream verifier decodeLive readExactArrivals arrivals =
        .ok (.frame content) rest)
      (hrest : Receives rest frames ending) : Receives arrivals (frame :: frames) ending

/-- A frame a server sends: verified, of the supported version, and with a content that is decoded. -/
structure Sendable (frame : List UInt8) : Prop extends Verified verifier frame PROTOCOL_VERSION where
  decodes : ∃ content, decodeLive frame = .ok content

end

/-- The bytes that arrive. -/
def bytesOf : List Arrival → List UInt8
  | [] => []
  | .bytes first more :: rest => first :: more ++ bytesOf rest
  | .timeout :: rest => bytesOf rest

/-- How many bytes came before each timeout. -/
def timeoutOffsets : List Arrival → List Nat
  | [] => []
  | .bytes _ more :: rest => (timeoutOffsets rest).map ((more.length + 1) + ·)
  | .timeout :: rest => 0 :: timeoutOffsets rest

/-- An offset at which a number of whole frames has come. -/
def IsBoundary (frames : List (List UInt8)) (offset : Nat) : Prop :=
  ∃ count, offset = (frames.take count).flatten.length

/-! ### What a read uses up -/

/-- Some bytes are taken, with no timeout before them. -/
structure Takes (arrivals : List Arrival) (taken : List UInt8) (rest : List Arrival) : Prop where
  bytes : bytesOf arrivals = taken ++ bytesOf rest
  offsets : timeoutOffsets arrivals = (timeoutOffsets rest).map (taken.length + ·)

/-- Some bytes are lost to the timeout behind them. -/
structure Loses (arrivals : List Arrival) (lost : List UInt8) (rest : List Arrival) : Prop where
  bytes : bytesOf arrivals = lost ++ bytesOf rest
  offsets : timeoutOffsets arrivals = lost.length :: (timeoutOffsets rest).map (lost.length + ·)

variable {arrivals rest rest' : List Arrival} {taken taken' lost : List UInt8}

theorem map_add_map (n m : Nat) (offsets : List Nat) :
    (offsets.map (m + ·)).map (n + ·) = offsets.map (n + m + ·) := by
  rw [List.map_map]
  exact List.map_congr_left fun offset _ => (Nat.add_assoc n m offset).symm

theorem Takes.nil (arrivals : List Arrival) : Takes arrivals [] arrivals :=
  ⟨rfl, by simp⟩

theorem Takes.trans (h : Takes arrivals taken rest) (h' : Takes rest taken' rest') :
    Takes arrivals (taken ++ taken') rest' :=
  ⟨by rw [h.bytes, h'.bytes, List.append_assoc],
    by rw [h.offsets, h'.offsets, map_add_map, List.length_append]⟩

theorem Takes.loses (h : Takes arrivals taken rest) (h' : Loses rest lost rest') :
    Loses arrivals (taken ++ lost) rest' :=
  ⟨by rw [h.bytes, h'.bytes, List.append_assoc],
    by rw [h.offsets, h'.offsets, List.map_cons, map_add_map, List.length_append]⟩

theorem takes_bytes (first : UInt8) (more : List UInt8) (rest : List Arrival) :
    Takes (.bytes first more :: rest) (first :: more) rest :=
  ⟨rfl, rfl⟩

theorem takes_putBack (front behind : List UInt8) (first : UInt8) (rest : List Arrival) :
    Takes (.bytes first (front ++ behind) :: rest) (first :: front) (putBack behind rest) := by
  cases behind with
  | nil =>
    rw [List.append_nil]
    exact takes_bytes first front rest
  | cons next behind =>
    refine ⟨by simp [bytesOf, putBack], ?_⟩
    rw [putBack, timeoutOffsets, timeoutOffsets, map_add_map]
    refine List.map_congr_left fun offset _ => ?_
    simp only [List.length_append, List.length_cons]
    omega

/-- An exact read takes its count, or loses what it has to a timeout, or comes to the end. -/
theorem readExactArrivals_cases (count : Nat) (arrivals : List Arrival) :
    (∃ taken rest, readExactArrivals count arrivals = .ok taken rest ∧ taken.length = count ∧
      Takes arrivals taken rest) ∨
    (∃ lost rest, readExactArrivals count arrivals = .error .wouldBlock rest ∧ lost.length < count ∧
      Loses arrivals lost rest) ∨
    (readExactArrivals count arrivals = .error .unexpectedEof [] ∧ (bytesOf arrivals).length < count) := by
  induction arrivals generalizing count with
  | nil =>
    cases count with
    | zero => exact .inl ⟨[], [], rfl, rfl, .nil []⟩
    | succ count => exact .inr (.inr ⟨rfl, Nat.succ_pos count⟩)
  | cons arrival rest ih =>
    cases count with
    | zero => exact .inl ⟨[], _, rfl, rfl, .nil _⟩
    | succ count =>
      cases arrival with
      | timeout => exact .inr (.inl ⟨[], rest, rfl, Nat.succ_pos count, rfl, by simp [timeoutOffsets]⟩)
      | bytes first more =>
        by_cases hcount : count ≤ more.length
        · refine .inl ⟨first :: more.take count, putBack (more.drop count) rest, if_pos hcount, ?_, ?_⟩
          · rw [List.length_cons, List.length_take, Nat.min_eq_left hcount]
          · have htakes := takes_putBack (more.take count) (more.drop count) first rest
            rwa [List.take_append_drop] at htakes
        have hpiece := takes_bytes first more rest
        rcases ih (count - more.length) with
          ⟨taken, rest', hread, hlength, htakes⟩ | ⟨lost, rest', hread, hlength, hloses⟩ | ⟨hread, hlength⟩
        · refine .inl ⟨first :: more ++ taken, rest', ?_, ?_, hpiece.trans htakes⟩
          · rw [readExactArrivals, if_neg hcount, hread]
          · rw [List.length_append, List.length_cons, hlength]
            omega
        · refine .inr (.inl ⟨first :: more ++ lost, rest', ?_, ?_, hpiece.loses hloses⟩)
          · rw [readExactArrivals, if_neg hcount, hread]
          · rw [List.length_append, List.length_cons]
            omega
        · refine .inr (.inr ⟨?_, ?_⟩)
          · rw [readExactArrivals, if_neg hcount, hread]
          · rw [hpiece.bytes, List.length_append, List.length_cons]
            omega

/-! ### What reading a frame uses up -/

section
variable {ε δ α : Type} {verifier : EnvelopeVerifier ε} {decodeLive : List UInt8 → Except δ α}
  {frame tail : List UInt8} {frames : List (List UInt8)}

/-- A frame is taken, or its beginning is lost to a timeout, or there is another error. -/
theorem readDefaultFrame_cases (verifier : EnvelopeVerifier ε) (arrivals : List Arrival) :
    (∃ frame rest, readDefaultFrame verifier readExactArrivals arrivals = .ok frame rest ∧
      Takes arrivals frame rest) ∨
    (∃ lost rest, readDefaultFrame verifier readExactArrivals arrivals = .error (.io .wouldBlock) rest ∧
      Loses arrivals lost rest) ∨
    ∃ error rest, readDefaultFrame verifier readExactArrivals arrivals = .error error rest ∧
      error ≠ .io .wouldBlock ∧ error ≠ .io .timedOut := by
  rcases readExactArrivals_cases 4 arrivals with
    ⟨front, behind, hfront, -, htakes⟩ | ⟨lost, rest, hfront, -, hloses⟩ | ⟨hfront, -⟩
  · by_cases hlarge : leValue front > DEFAULT_MAX_FRAME_LEN
    · refine .inr (.inr ⟨.frameTooLarge (leValue front) DEFAULT_MAX_FRAME_LEN, behind, ?_, by simp, by simp⟩)
      simp only [readDefaultFrame, readFrame, bind, EStateM.bind, EStateM.adaptExcept, hfront, if_pos hlarge]
      rfl
    rcases readExactArrivals_cases (leValue front) behind with
      ⟨payload, rest, hpayload, -, htakes'⟩ | ⟨lost, rest, hpayload, -, hloses⟩ | ⟨hpayload, -⟩
    · cases hdecoded : verifier.protocolVersion (front ++ payload) with
      | error error =>
        refine .inr (.inr ⟨.invalidFlatbuffer error, rest, ?_, by simp, by simp⟩)
        simp only [readDefaultFrame, readFrame, bind, EStateM.bind, EStateM.adaptExcept, hfront,
          if_neg hlarge, hpayload, validateProtocolVersion, hdecoded]
        rfl
      | ok version =>
        by_cases hversion : version ≠ PROTOCOL_VERSION
        · refine .inr (.inr ⟨.protocolVersionUnsupported version PROTOCOL_VERSION, rest, ?_, by simp, by simp⟩)
          simp only [readDefaultFrame, readFrame, bind, EStateM.bind, EStateM.adaptExcept, hfront,
            if_neg hlarge, hpayload, validateProtocolVersion, hdecoded, if_pos hversion]
          rfl
        · refine .inl ⟨front ++ payload, rest, ?_, htakes.trans htakes'⟩
          simp only [readDefaultFrame, readFrame, bind, EStateM.bind, EStateM.adaptExcept, hfront,
            if_neg hlarge, hpayload, validateProtocolVersion, hdecoded, if_neg hversion]
          rfl
    · refine .inr (.inl ⟨front ++ lost, rest, ?_, htakes.loses hloses⟩)
      simp only [readDefaultFrame, readFrame, bind, EStateM.bind, EStateM.adaptExcept, hfront,
        if_neg hlarge, hpayload]
    · refine .inr (.inr ⟨.io .unexpectedEof, [], ?_, by simp, by simp⟩)
      simp only [readDefaultFrame, readFrame, bind, EStateM.bind, EStateM.adaptExcept, hfront,
        if_neg hlarge, hpayload]
  · refine .inr (.inl ⟨lost, rest, ?_, hloses⟩)
    simp only [readDefaultFrame, readFrame, bind, EStateM.bind, EStateM.adaptExcept, hfront]
  · refine .inr (.inr ⟨.io .unexpectedEof, [], ?_, by simp, by simp⟩)
    simp only [readDefaultFrame, readFrame, bind, EStateM.bind, EStateM.adaptExcept, hfront]

/-- A frame that comes next is taken, or a part of it that is not the whole is lost to a timeout. -/
theorem readDefaultFrame_of_verified (h : Verified verifier frame PROTOCOL_VERSION)
    (hbytes : bytesOf arrivals = frame ++ tail) :
    (∃ rest, readDefaultFrame verifier readExactArrivals arrivals = .ok frame rest ∧
      Takes arrivals frame rest) ∨
    ∃ lost rest, readDefaultFrame verifier readExactArrivals arrivals = .error (.io .wouldBlock) rest ∧
      Loses arrivals lost rest ∧ lost.length < frame.length := by
  obtain ⟨front, payload, rfl, hfront, hpayload, hlimit⟩ := h.split
  rw [List.length_append]
  rcases readExactArrivals_cases 4 arrivals with
    ⟨front', behind, hread, hlength, htakes⟩ | ⟨lost, rest, hread, hlength, hloses⟩ | ⟨-, hlength⟩
  · have hsplit : front' ++ bytesOf behind = front ++ (payload ++ tail) := by
      rw [← htakes.bytes, hbytes, List.append_assoc]
    obtain ⟨rfl, hbehind⟩ := List.append_inj hsplit (by rw [hlength, hfront])
    rcases readExactArrivals_cases (leValue front') behind with
      ⟨payload', rest, hread', hlength', htakes'⟩ | ⟨lost, rest, hread', hlength', hloses⟩ | ⟨-, hlength'⟩
    · have hsplit' : payload' ++ bytesOf rest = payload ++ tail := by rw [← htakes'.bytes, hbehind]
      obtain ⟨rfl, -⟩ := List.append_inj hsplit' (by rw [hlength', hpayload])
      have hdecoded := h.decoded
      refine .inl ⟨rest, ?_, htakes.trans htakes'⟩
      simp only [readDefaultFrame, readFrame, bind, EStateM.bind, EStateM.adaptExcept, hread, if_neg hlimit,
        hread', validateProtocolVersion, hdecoded, if_neg (not_not.mpr rfl)]
      rfl
    · refine .inr ⟨front' ++ lost, rest, ?_, htakes.loses hloses, by rw [List.length_append]; omega⟩
      simp only [readDefaultFrame, readFrame, bind, EStateM.bind, EStateM.adaptExcept, hread, if_neg hlimit,
        hread']
    · rw [hbehind, List.length_append] at hlength'
      omega
  · refine .inr ⟨lost, rest, ?_, hloses, by omega⟩
    simp only [readDefaultFrame, readFrame, bind, EStateM.bind, EStateM.adaptExcept, hread]
  · rw [hbytes, List.length_append, List.length_append] at hlength
    omega

/-! ### Calling again -/

theorem live_of_ok {content : α} {rest : List Arrival} (hcontent : decodeLive frame = .ok content)
    (h : readDefaultFrame verifier readExactArrivals arrivals = .ok frame rest) :
    readLiveSurfaceUpdateFromStream verifier decodeLive readExactArrivals arrivals =
      .ok (.frame content) rest := by
  simp only [readLiveSurfaceUpdateFromStream, h, hcontent]

theorem live_of_wouldBlock {rest : List Arrival} (decodeLive : List UInt8 → Except δ α)
    (h : readDefaultFrame verifier readExactArrivals arrivals = .error (.io .wouldBlock) rest) :
    readLiveSurfaceUpdateFromStream verifier decodeLive readExactArrivals arrivals = .ok .noFrame rest := by
  simp only [readLiveSurfaceUpdateFromStream, h]

/-- There is no frame only after a timeout. -/
theorem loses_of_noFrame {rest : List Arrival}
    (h : readLiveSurfaceUpdateFromStream verifier decodeLive readExactArrivals arrivals = .ok .noFrame rest) :
    ∃ lost, Loses arrivals lost rest := by
  rcases readDefaultFrame_cases verifier arrivals with
    ⟨frame, rest', hread, -⟩ | ⟨lost, rest', hread, hloses⟩ | ⟨error, rest', hread, hblock, hout⟩
  · simp only [readLiveSurfaceUpdateFromStream, hread] at h
    split at h <;> cases h
  · rw [live_of_wouldBlock decodeLive hread] at h
    cases h
    exact ⟨lost, hloses⟩
  · simp only [readLiveSurfaceUpdateFromStream, hread] at h
    split at h <;> simp_all

theorem offset_le {offset : Nat} (h : offset ∈ timeoutOffsets arrivals) :
    offset ≤ (bytesOf arrivals).length := by
  induction arrivals generalizing offset with
  | nil => cases h
  | cons arrival rest ih =>
    cases arrival with
    | bytes first more =>
      obtain ⟨behind, hbehind, rfl⟩ := List.mem_map.mp h
      have := ih hbehind
      rw [bytesOf, List.length_append, List.length_cons]
      omega
    | timeout =>
      rcases List.mem_cons.mp h with rfl | h
      · exact Nat.zero_le _
      · exact ih h

theorem IsBoundary.behind {offset : Nat} (h : IsBoundary frames offset) :
    IsBoundary (frame :: frames) (frame.length + offset) := by
  obtain ⟨count, rfl⟩ := h
  exact ⟨count + 1, by rw [List.take_succ_cons, List.flatten_cons, List.length_append]⟩

/-- A boundary of some frames is at their start, or one of the frames behind the first. -/
theorem IsBoundary.cases {offset : Nat} (h : IsBoundary (frame :: frames) offset) :
    offset = 0 ∨ ∃ behind, offset = frame.length + behind ∧ IsBoundary frames behind := by
  obtain ⟨count, rfl⟩ := h
  cases count with
  | zero => exact .inl rfl
  | succ count =>
    refine .inr ⟨(frames.take count).flatten.length, ?_, count, rfl⟩
    rw [List.take_succ_cons, List.flatten_cons, List.length_append]

/-- A client gets no more bytes than arrive, and loses none only if the timeouts are at boundaries. -/
theorem Receives.accounts {ending : Ending ε δ} (h : Receives verifier decodeLive arrivals frames ending) :
    frames.flatten.length ≤ (bytesOf arrivals).length ∧
      (frames.flatten.length = (bytesOf arrivals).length →
        ∀ offset ∈ timeoutOffsets arrivals, IsBoundary frames offset) := by
  have hnothing : ∀ arrivals : List Arrival, 0 = (bytesOf arrivals).length →
      ∀ offset ∈ timeoutOffsets arrivals, IsBoundary [] offset := fun arrivals hbytes offset hoffset =>
    ⟨0, Nat.le_zero.mp (hbytes ▸ offset_le hoffset)⟩
  induction h with
  | closed => exact ⟨Nat.zero_le _, hnothing _⟩
  | failed => exact ⟨Nat.zero_le _, hnothing _⟩
  | again hread hrest ih =>
    obtain ⟨lost, hloses⟩ := loses_of_noFrame hread
    obtain ⟨hle, hboundary⟩ := ih
    rw [hloses.bytes, List.length_append]
    refine ⟨by omega, fun hlength => ?_⟩
    have hlost : lost.length = 0 := by omega
    rw [hloses.offsets, hlost]
    intro offset hoffset
    rcases List.mem_cons.mp hoffset with rfl | hoffset
    · exact ⟨0, rfl⟩
    · obtain ⟨behind, hbehind, rfl⟩ := List.mem_map.mp hoffset
      rw [Nat.zero_add]
      exact hboundary (by omega) behind hbehind
  | @frame arrivals rest frame frames content ending hframe hread hrest ih =>
    obtain ⟨hle, hboundary⟩ := ih
    obtain ⟨frame', rest', hread', htakes⟩ | ⟨lost, rest', hread', -⟩ | ⟨error, rest', hread', -⟩ :=
      readDefaultFrame_cases verifier arrivals
    · rw [hread'] at hframe
      cases hframe
      rw [htakes.bytes, List.flatten_cons, List.length_append, List.length_append]
      refine ⟨by omega, fun hlength offset hoffset => ?_⟩
      rw [htakes.offsets] at hoffset
      obtain ⟨behind, hbehind, rfl⟩ := List.mem_map.mp hoffset
      exact (hboundary (by omega) behind hbehind).behind
    · rw [hread'] at hframe
      cases hframe
    · rw [hread'] at hframe
      cases hframe

/-- A timeout with nothing before it loses nothing. -/
theorem Loses.kept {rest : List Arrival} {lost : List UInt8} (h : Loses arrivals lost rest)
    (hlost : lost.length = 0) :
    bytesOf rest = bytesOf arrivals ∧ timeoutOffsets arrivals = 0 :: timeoutOffsets rest := by
  obtain rfl : lost = [] := List.length_eq_zero_iff.mp hlost
  exact ⟨h.bytes.symm, h.offsets.trans (by simp)⟩

/-- With the timeouts at boundaries a client gets what is sent. -/
theorem receives_of_boundaries (hsent : ∀ frame ∈ frames, Sendable verifier decodeLive frame)
    (hbytes : bytesOf arrivals = frames.flatten)
    (hboundary : ∀ offset ∈ timeoutOffsets arrivals, IsBoundary frames offset) :
    Receives verifier decodeLive arrivals frames .closed := by
  induction hn : frames.length + (timeoutOffsets arrivals).length using Nat.strong_induction_on
    generalizing frames arrivals with
  | _ n ih =>
    have hagain : ∀ {lost : List UInt8} {rest : List Arrival}, Loses arrivals lost rest → lost.length = 0 →
        readDefaultFrame verifier readExactArrivals arrivals = .error (.io .wouldBlock) rest →
        Receives verifier decodeLive arrivals frames .closed := by
      intro lost rest hloses hlost hread
      obtain ⟨hrest, hoffsets⟩ := hloses.kept hlost
      rw [hoffsets] at hboundary hn
      exact .again (live_of_wouldBlock decodeLive hread)
        (ih _ (by rw [List.length_cons] at hn; omega) hsent (hrest.trans hbytes)
          (fun offset hoffset => hboundary offset (List.mem_cons_of_mem _ hoffset)) rfl)
    cases frames with
    | nil =>
      rcases readExactArrivals_cases 4 arrivals with
        ⟨taken, rest, -, hlength, htakes⟩ | ⟨lost, rest, hread, -, hloses⟩ | ⟨hread, -⟩
      · have hempty := htakes.bytes.symm.trans hbytes
        rw [List.flatten_nil, List.append_eq_nil_iff] at hempty
        rw [hempty.1] at hlength
        cases hlength
      · have hempty := hloses.bytes.symm.trans hbytes
        rw [List.flatten_nil, List.append_eq_nil_iff] at hempty
        refine hagain hloses (List.length_eq_zero_iff.mpr hempty.1) ?_
        simp only [readDefaultFrame, readFrame, bind, EStateM.bind, EStateM.adaptExcept, hread]
      · have hclosed : readDefaultFrame verifier readExactArrivals arrivals =
            .error (.io .unexpectedEof) [] := by
          simp only [readDefaultFrame, readFrame, bind, EStateM.bind, EStateM.adaptExcept, hread]
        have hlive : readLiveSurfaceUpdateFromStream verifier decodeLive readExactArrivals arrivals =
            .ok .closed [] := by
          simp only [readLiveSurfaceUpdateFromStream, hclosed]
        exact .closed hlive
    | cons frame frames =>
      have hframe := hsent frame List.mem_cons_self
      rcases readDefaultFrame_of_verified hframe.toVerified (hbytes.trans List.flatten_cons) with
        ⟨rest, hread, htakes⟩ | ⟨lost, rest, hread, hloses, hshort⟩
      · obtain ⟨content, hcontent⟩ := hframe.decodes
        have hbehind : bytesOf rest = frames.flatten :=
          List.append_cancel_left (htakes.bytes.symm.trans (hbytes.trans List.flatten_cons))
        have hoffsets := htakes.offsets
        rw [hoffsets, List.length_map, List.length_cons] at hn
        refine .frame hread (live_of_ok hcontent hread) (ih _ (by omega)
          (fun other hother => hsent other (List.mem_cons_of_mem _ hother)) hbehind ?_ rfl)
        intro offset hoffset
        have hpositive := hframe.framed.prefixed
        rcases (hboundary (frame.length + offset)
          (hoffsets ▸ List.mem_map_of_mem hoffset)).cases with hzero | ⟨behind, heq, hboundary'⟩
        · omega
        · obtain rfl : offset = behind := by omega
          exact hboundary'
      · have hmem : lost.length ∈ timeoutOffsets arrivals := by
          rw [hloses.offsets]
          exact List.mem_cons_self
        rcases (hboundary _ hmem).cases with hzero | ⟨behind, heq, -⟩
        · exact hagain hloses hzero hread
        · omega

/-- A client's reading is determined by what arrives. -/
theorem Receives.unique {frames' : List (List UInt8)} {ending ending' : Ending ε δ}
    (h : Receives verifier decodeLive arrivals frames ending)
    (h' : Receives verifier decodeLive arrivals frames' ending') : frames = frames' ∧ ending = ending' := by
  induction h generalizing frames' with
  | closed hread =>
    cases h' with
    | closed => exact ⟨rfl, rfl⟩
    | failed hread' | again hread' | frame _ hread' => rw [hread] at hread'; cases hread'
  | failed hread =>
    cases h' with
    | failed hread' =>
      rw [hread] at hread'
      cases hread'
      exact ⟨rfl, rfl⟩
    | closed hread' | again hread' | frame _ hread' => rw [hread] at hread'; cases hread'
  | again hread _ ih =>
    cases h' with
    | again hread' hrest =>
      rw [hread] at hread'
      cases hread'
      exact ih hrest
    | closed hread' | failed hread' | frame _ hread' => rw [hread] at hread'; cases hread'
  | frame hframe hread _ ih =>
    cases h' with
    | frame hframe' _ hrest =>
      rw [hframe] at hframe'
      cases hframe'
      obtain ⟨rfl, hending⟩ := ih hrest
      exact ⟨rfl, hending⟩
    | closed hread' | failed hread' | again hread' => rw [hread] at hread'; cases hread'

/-- **A client gets the frames sent**, each of them and nothing else, exactly if no timeout comes inside
one of them. -/
theorem receives_sent_iff (hsent : ∀ frame ∈ frames, Sendable verifier decodeLive frame)
    (hbytes : bytesOf arrivals = frames.flatten) :
    Receives verifier decodeLive arrivals frames .closed ↔
      ∀ offset ∈ timeoutOffsets arrivals, IsBoundary frames offset :=
  ⟨fun h => h.accounts.2 (by rw [hbytes]), receives_of_boundaries hsent hbytes⟩

end

/-! ### Pongs -/

/-- An envelope with a pong to the actor `a`. -/
def pongFrame : List UInt8 :=
  [64, 0, 0, 0, 24, 0, 0, 0,
    20, 0, 16, 0, 4, 0, 0, 0, 0, 0, 0, 0, 0, 0, 0, 0, 12, 0, 8, 0,
    20, 0, 0, 0, 1, 0, 0, 0, 16, 0, 0, 0, 14, 0, 0, 0,
    6, 0, 8, 0, 4, 0, 0, 0, 8, 0, 0, 0, 4, 0, 0, 0, 1, 0, 0, 0, 97, 0, 0, 0]

/-- A verifier that knows this envelope only. -/
def pongVerifier : EnvelopeVerifier String where
  protocolVersion frame := if frame = pongFrame then .ok 1 else .error "no envelope"
  text := id

/-- The actor and the number of the ping it answers. -/
def decodePong (frame : List UInt8) : Except String (String × Nat) :=
  if frame = pongFrame then .ok ("a", 0) else .error "unexpected live server frame"

theorem pong_sendable : Sendable pongVerifier decodePong pongFrame :=
  ⟨⟨⟨by decide, by decide, by decide⟩, by decide⟩, ("a", 0), by decide⟩

/-- Two pongs, the first in two pieces, and a timeout before each. -/
def pausedArrivals : List Arrival :=
  [.timeout, .bytes 64 [0], .bytes 0 (pongFrame.drop 3), .timeout, .bytes 64 (pongFrame.drop 1)]

/-- A pong with a timeout inside its prefix. -/
def cutArrivals : List Arrival :=
  [.bytes 64 [0], .timeout, .bytes 0 (pongFrame.drop 3)]

theorem receives_sent_pongs : bytesOf pausedArrivals = [pongFrame, pongFrame].flatten ∧
    Receives pongVerifier decodePong pausedArrivals [pongFrame, pongFrame] .closed := by
  have hbytes : bytesOf pausedArrivals = [pongFrame, pongFrame].flatten := by decide
  have hsent : ∀ frame ∈ [pongFrame, pongFrame], Sendable pongVerifier decodePong frame := by
    simpa using pong_sendable
  refine ⟨hbytes, (receives_sent_iff hsent hbytes).2 ?_⟩
  have hoffsets : timeoutOffsets pausedArrivals = [0, 68] := by decide
  rw [hoffsets]
  intro offset hoffset
  rcases List.mem_pair.mp hoffset with rfl | rfl
  · exact ⟨0, rfl⟩
  · exact ⟨1, rfl⟩

/-- **A pong cut by a timeout is lost**: the client takes the end of the prefix for a prefix. -/
theorem cut_pong_lost : bytesOf cutArrivals = [pongFrame].flatten ∧
    Receives pongVerifier decodePong cutArrivals [] .closed ∧
    ¬ Receives pongVerifier decodePong cutArrivals [pongFrame] .closed := by
  have hlost : Receives pongVerifier decodePong cutArrivals [] .closed :=
    .again rfl (.closed rfl)
  refine ⟨by decide, hlost, fun h => ?_⟩
  obtain ⟨hframes, -⟩ := h.unique hlost
  cases hframes

end Nmux.Wire
