import Nmux.Wire.Frames

/-! The two readers on one stream. They cut it into the same frames and stop for the same reasons, up to
the first envelope of another protocol version: the blocking reader stops there, the asynchronous one
does not look at the version. -/
namespace Nmux.Wire

open Lib.Framing

variable {ε : Type} (verifier : EnvelopeVerifier ε)

/-- The errors that are one reason to stop. -/
inductive SameReason : WireError ε → ClientInputError → Prop
  | closed (kind : IoErrorKind) : SameReason (.io kind) (.io kind)
  | tooLarge (len max : Nat) : SameReason (.frameTooLarge len max) (.wire (frameTooLargeText len max))
  | undecodable (error : ε) : SameReason (.invalidFlatbuffer error) (.wire (verifier.text error))

/-- A frame that is verified, with its protocol version. -/
structure Verified (frame : List UInt8) (version : UInt32) : Prop where
  framed : IsFrame DEFAULT_MAX_FRAME_LEN frame
  decoded : verifier.protocolVersion frame = .ok version

/-- Behind frames of the supported version the stream has one of another version. -/
def HasUnsupported (stream : List UInt8) : Prop :=
  ∃ (frames : List (List UInt8)) (frame rest : List UInt8) (version : UInt32),
    stream = frames.flatten ++ frame ++ rest ∧
    (∀ earlier ∈ frames, Verified verifier earlier PROTOCOL_VERSION) ∧
    Verified verifier frame version ∧ version ≠ PROTOCOL_VERSION

variable {verifier} {stream frame rest : List UInt8} {version : UInt32}

/-! ### One frame -/

theorem readExactBytes_append {front : List UInt8} {count : Nat} (h : front.length = count)
    (rest : List UInt8) : readExactBytes count (front ++ rest) = .ok front rest := by
  subst h
  rw [readExactBytes, if_pos (by rw [List.length_append]; omega), List.take_left, List.drop_left]

/-- The parts of a frame. -/
theorem Verified.split (h : Verified verifier frame version) : ∃ front payload, frame = front ++ payload ∧
    front.length = 4 ∧ payload.length = leValue front ∧ ¬ leValue front > DEFAULT_MAX_FRAME_LEN := by
  obtain ⟨hprefixed, hlength, hlimit⟩ := h.framed
  refine ⟨frame.take 4, frame.drop 4, (List.take_append_drop 4 frame).symm, ?_, ?_, Nat.not_lt.mpr hlimit⟩
  · rw [List.length_take]
    omega
  · rw [List.length_drop]
    omega

/-- The asynchronous reader takes a frame of any version. -/
theorem async_of_verified (h : Verified verifier frame version) (rest : List UInt8) :
    asyncReadDefaultFrame verifier readExactBytes (frame ++ rest) = .ok frame rest := by
  obtain ⟨front, payload, rfl, hfront, hpayload, hlimit⟩ := h.split
  have hversion := h.decoded
  rw [List.append_assoc]
  simp only [asyncReadDefaultFrame, bind, EStateM.bind, EStateM.adaptExcept, readExactBytes_append hfront,
    if_neg hlimit, readExactBytes_append hpayload, hversion]
  rfl

/-- The blocking reader takes it if the version is the supported one. -/
theorem blocking_of_verified (h : Verified verifier frame version) (rest : List UInt8) :
    readDefaultFrame verifier readExactBytes (frame ++ rest) =
      if version ≠ PROTOCOL_VERSION then .error (.protocolVersionUnsupported version PROTOCOL_VERSION) rest
      else .ok frame rest := by
  obtain ⟨front, payload, rfl, hfront, hpayload, hlimit⟩ := h.split
  have hversion := h.decoded
  rw [List.append_assoc]
  simp only [readDefaultFrame, readFrame, bind, EStateM.bind, EStateM.adaptExcept,
    readExactBytes_append hfront, if_neg hlimit, readExactBytes_append hpayload, validateProtocolVersion,
    hversion]
  by_cases hsupported : version ≠ PROTOCOL_VERSION
  · simp only [if_pos hsupported]
    rfl
  · simp only [if_neg hsupported]
    rfl

/-- On any stream both stop for one reason, or it starts with a verified frame. -/
theorem readers_cases (verifier : EnvelopeVerifier ε) (stream : List UInt8) :
    (∃ error error' last, readDefaultFrame verifier readExactBytes stream = .error error last ∧
      asyncReadDefaultFrame verifier readExactBytes stream = .error error' last ∧
      SameReason verifier error error') ∨
    ∃ frame rest version, stream = frame ++ rest ∧ Verified verifier frame version := by
  by_cases hprefix : 4 ≤ stream.length
  case neg =>
    have hshort : readExactBytes 4 stream = .error .unexpectedEof [] := if_neg hprefix
    refine .inl ⟨.io .unexpectedEof, .io .unexpectedEof, [], ?_, ?_, .closed _⟩
    · simp only [readDefaultFrame, readFrame, bind, EStateM.bind, EStateM.adaptExcept, hshort]
    · simp only [asyncReadDefaultFrame, bind, EStateM.bind, EStateM.adaptExcept, hshort]
  obtain ⟨front, behind, rfl, hfront⟩ : ∃ front behind, stream = front ++ behind ∧ front.length = 4 :=
    ⟨stream.take 4, stream.drop 4, (List.take_append_drop 4 stream).symm, by rw [List.length_take]; omega⟩
  have hread := readExactBytes_append hfront behind
  by_cases hlarge : leValue front > DEFAULT_MAX_FRAME_LEN
  · refine .inl ⟨_, _, behind, ?_, ?_, .tooLarge (leValue front) DEFAULT_MAX_FRAME_LEN⟩
    · simp only [readDefaultFrame, readFrame, bind, EStateM.bind, EStateM.adaptExcept, hread, if_pos hlarge]
      rfl
    · simp only [asyncReadDefaultFrame, bind, EStateM.bind, EStateM.adaptExcept, hread, if_pos hlarge]
      rfl
  by_cases hlength : leValue front ≤ behind.length
  case neg =>
    have hshort : readExactBytes (leValue front) behind = .error .unexpectedEof [] := if_neg hlength
    refine .inl ⟨.io .unexpectedEof, .io .unexpectedEof, [], ?_, ?_, .closed _⟩
    · simp only [readDefaultFrame, readFrame, bind, EStateM.bind, EStateM.adaptExcept, hread, if_neg hlarge,
        hshort]
    · simp only [asyncReadDefaultFrame, bind, EStateM.bind, EStateM.adaptExcept, hread, if_neg hlarge, hshort]
  obtain ⟨payload, rest, rfl, hpayload⟩ : ∃ payload rest, behind = payload ++ rest ∧
      payload.length = leValue front :=
    ⟨_, _, (List.take_append_drop (leValue front) behind).symm, by rw [List.length_take]; omega⟩
  have hreadPayload := readExactBytes_append hpayload rest
  cases hverify : verifier.protocolVersion (front ++ payload) with
  | error error =>
    refine .inl ⟨_, _, rest, ?_, ?_, .undecodable error⟩
    · simp only [readDefaultFrame, readFrame, bind, EStateM.bind, EStateM.adaptExcept, hread, if_neg hlarge,
        hreadPayload, validateProtocolVersion, hverify]
      rfl
    · simp only [asyncReadDefaultFrame, bind, EStateM.bind, EStateM.adaptExcept, hread, if_neg hlarge,
        hreadPayload, hverify]
      rfl
  | ok version =>
    exact .inr ⟨front ++ payload, rest, version, (List.append_assoc _ _ _).symm,
      .of_append hfront hpayload (Nat.not_lt.mp hlarge), hverify⟩

/-! ### Streams -/

/-- Every stream comes to an end of the blocking reader. -/
theorem exists_blocking (verifier : EnvelopeVerifier ε) (stream : List UInt8) : ∃ frames error last,
    ReadsUntil (readDefaultFrame verifier readExactBytes) stream frames error last := by
  refine exists_readsUntil List.length (fun stream frame rest hread => ?_) stream
  rcases readers_cases verifier stream with
    ⟨error, error', last, herror, -⟩ | ⟨first, behind, version, rfl, hverified⟩
  · rw [herror] at hread
    cases hread
  · rw [blocking_of_verified hverified] at hread
    split at hread
    case isTrue => cases hread
    case isFalse =>
      cases hread
      have hprefixed := hverified.framed.prefixed
      rw [List.length_append]
      omega

/-- What is behind a supported frame is unsupported only if the stream is. -/
theorem HasUnsupported.cons (h : HasUnsupported verifier rest)
    (hframe : Verified verifier frame PROTOCOL_VERSION) : HasUnsupported verifier (frame ++ rest) := by
  obtain ⟨frames, other, last, version, rfl, hframes, hother, hversion⟩ := h
  refine ⟨frame :: frames, other, last, version, by simp, fun earlier hearlier => ?_, hother, hversion⟩
  rcases List.mem_cons.mp hearlier with rfl | hearlier
  · exact hframe
  · exact hframes earlier hearlier

/-- Where no other version comes up, the asynchronous reader follows the blocking one. -/
theorem async_follows {frames : List (List UInt8)} {error : WireError ε} {last : List UInt8}
    (h : ReadsUntil (readDefaultFrame verifier readExactBytes) stream frames error last)
    (hsupported : ¬ HasUnsupported verifier stream) :
    ∃ error', ReadsUntil (asyncReadDefaultFrame verifier readExactBytes) stream frames error' last ∧
      SameReason verifier error error' := by
  induction h with
  | @stopped stream last error hread =>
    rcases readers_cases verifier stream with
      ⟨error₁, error', last₁, hblocking, hasync, hsame⟩ | ⟨frame, rest, version, rfl, hverified⟩
    · rw [hblocking] at hread
      cases hread
      exact ⟨error', .stopped hasync, hsame⟩
    · rw [blocking_of_verified hverified] at hread
      split at hread
      case isTrue hversion =>
        exact absurd ⟨[], frame, rest, version, rfl, by simp, hverified, hversion⟩ hsupported
      case isFalse => cases hread
  | @next stream stream' last frame frames error hread hrest ih =>
    rcases readers_cases verifier stream with
      ⟨error₁, error', last₁, hblocking, -⟩ | ⟨first, rest, version, rfl, hverified⟩
    · rw [hblocking] at hread
      cases hread
    · rw [blocking_of_verified hverified] at hread
      split at hread
      case isTrue => cases hread
      case isFalse hversion =>
        obtain rfl : version = PROTOCOL_VERSION := not_not.mp hversion
        cases hread
        obtain ⟨error', hasync, hsame⟩ := ih fun hbehind => hsupported (hbehind.cons hverified)
        exact ⟨error', .next (async_of_verified hverified _) hasync, hsame⟩

/-- Where one comes up, the blocking reader stops at it. -/
theorem HasUnsupported.blocking (h : HasUnsupported verifier stream) : ∃ frames version last,
    ReadsUntil (readDefaultFrame verifier readExactBytes) stream frames
      (.protocolVersionUnsupported version PROTOCOL_VERSION) last := by
  obtain ⟨frames, frame, rest, version, rfl, hframes, hframe, hversion⟩ := h
  refine ⟨frames, version, rest, ?_⟩
  induction frames with
  | nil =>
    refine .stopped ?_
    rw [List.flatten_nil, List.nil_append, blocking_of_verified hframe, if_pos hversion]
  | cons first frames ih =>
    have hfirst := hframes first List.mem_cons_self
    refine .next ?_ (ih fun earlier hearlier => hframes earlier (List.mem_cons_of_mem _ hearlier))
    rw [List.flatten_cons, List.append_assoc, List.append_assoc, blocking_of_verified hfirst,
      if_neg (not_not.mpr rfl), List.append_assoc]

/-- **The readers accept the same stream** exactly if no envelope of another version comes up in it. -/
theorem readers_agree_iff (verifier : EnvelopeVerifier ε) (stream : List UInt8) :
    (∃ frames error error' last,
      ReadsUntil (readDefaultFrame verifier readExactBytes) stream frames error last ∧
      ReadsUntil (asyncReadDefaultFrame verifier readExactBytes) stream frames error' last ∧
      SameReason verifier error error') ↔ ¬ HasUnsupported verifier stream := by
  constructor
  · rintro ⟨frames, error, error', last, hblocking, -, hsame⟩ hunsupported
    obtain ⟨frames', version, last', hstopped⟩ := hunsupported.blocking
    obtain ⟨-, rfl, -⟩ := hblocking.unique hstopped
    cases hsame
  · intro hsupported
    obtain ⟨frames, error, last, hblocking⟩ := exists_blocking verifier stream
    obtain ⟨error', hasync, hsame⟩ := async_follows hblocking hsupported
    exact ⟨frames, error, error', last, hblocking, hasync, hsame⟩

/-- An envelope with nothing but a protocol version. -/
def versionFrame (version : UInt8) : List UInt8 :=
  [20, 0, 0, 0, 12, 0, 0, 0, 6, 0, 8, 0, 4, 0, 0, 0, 8, 0, 0, 0, version, 0, 0, 0]

/-- A verifier that knows these envelopes only. -/
def versionVerifier : EnvelopeVerifier String where
  protocolVersion frame :=
    match frame[20]? with
    | some version => if frame = versionFrame version then .ok version.toUInt32 else .error "no envelope"
    | none => .error "no envelope"
  text := id

/-- **The asynchronous reader lets version two pass**, the blocking one does not. -/
theorem readers_disagree :
    asyncReadDefaultFrame versionVerifier readExactBytes (versionFrame 2) = .ok (versionFrame 2) [] ∧
    readDefaultFrame versionVerifier readExactBytes (versionFrame 2) =
      .error (.protocolVersionUnsupported 2 PROTOCOL_VERSION) [] ∧
    ¬ ∃ frames error error' last,
      ReadsUntil (readDefaultFrame versionVerifier readExactBytes) (versionFrame 2) frames error last ∧
      ReadsUntil (asyncReadDefaultFrame versionVerifier readExactBytes) (versionFrame 2) frames error' last ∧
      SameReason versionVerifier error error' := by
  have hblocking : readDefaultFrame versionVerifier readExactBytes (versionFrame 2) =
      .error (.protocolVersionUnsupported 2 PROTOCOL_VERSION) [] := rfl
  refine ⟨rfl, hblocking, ?_⟩
  rintro ⟨frames, error, error', last, hread, -, hsame⟩
  obtain ⟨-, rfl, -⟩ := hread.unique (.stopped hblocking)
  cases hsame

end Nmux.Wire
