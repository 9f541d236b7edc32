import Nmux.Lib.Framing

/-! Reading frames off a stream, once in the blocking crate and once in the asynchronous one. Both read
a prefix and the payload it announces, and verify the envelope; what verification makes of a frame is a
parameter. An error of the asynchronous reader is a text, kept here with what the text is made of. -/
namespace Nmux.Wire

open Lib.Framing

/-- `io::ErrorKind`, as far as reading a socket meets it. -/
inductive IoErrorKind where
  | unexpectedEof
  | wouldBlock
  | timedOut
  | connectionReset
  | brokenPipe
  | other
deriving DecidableEq, Repr

def DEFAULT_MAX_FRAME_LEN : Nat := 16 * 1024 * 1024

def PROTOCOL_VERSION : UInt32 := 1

/-- `WireError`, over the errors of the verifier. -/
inductive WireError (ε : Type) where
  | io (kind : IoErrorKind)
  | frameTooLarge (len max : Nat)
  | protocolVersionUnsupported (version supported : UInt32)
  | invalidFlatbuffer (error : ε)
deriving DecidableEq, Repr

/-- `ClientInputError`, as far as reading a frame goes. -/
inductive ClientInputError where
  | io (kind : IoErrorKind)
  | wire (message : String)
deriving DecidableEq, Repr

/-- The text of `WireError::FrameTooLarge`, which both readers have. -/
def frameTooLargeText (len max : Nat) : String :=
  "wire frame too large: " ++ toString len ++ " bytes exceeds " ++ toString max ++ " byte limit"

section
variable {ε σ : Type}

/-- `size_prefixed_root_as_envelope`, with the version of the envelope and the text of an error. -/
structure EnvelopeVerifier (ε : Type) where
  protocolVersion : List UInt8 → Except ε UInt32
  text : ε → String

variable (verifier : EnvelopeVerifier ε) (readExact : Nat → EStateM IoErrorKind σ (List UInt8))

def validateProtocolVersion (frame : List UInt8) : EStateM (WireError ε) σ Unit :=
  match verifier.protocolVersion frame with
  | .error error => throw (.invalidFlatbuffer error)
  | .ok version =>
    if version ≠ PROTOCOL_VERSION then throw (.protocolVersionUnsupported version PROTOCOL_VERSION)
    else return ()

def readFrame (maxLen : Nat) : EStateM (WireError ε) σ (List UInt8) := do
  let front ← EStateM.adaptExcept .io (readExact 4)
  let payloadLen := leValue front
  if payloadLen > maxLen then throw (.frameTooLarge payloadLen maxLen)
  else
    let payload ← EStateM.adaptExcept .io (readExact payloadLen)
    let frame := front ++ payload
    validateProtocolVersion verifier frame
    return frame

def readDefaultFrame : EStateM (WireError ε) σ (List UInt8) :=
  readFrame verifier readExact DEFAULT_MAX_FRAME_LEN

def asyncReadDefaultFrame : EStateM ClientInputError σ (List UInt8) := do
  let front ← EStateM.adaptExcept .io (readExact 4)
  let payloadLen := leValue front
  if payloadLen > DEFAULT_MAX_FRAME_LEN then
    throw (.wire (frameTooLargeText payloadLen DEFAULT_MAX_FRAME_LEN))
  else
    let payload ← EStateM.adaptExcept .io (readExact payloadLen)
    let frame := front ++ payload
    match verifier.protocolVersion frame with
    | .error error => throw (.wire (verifier.text error))
    | .ok _ => return frame

end

/-- `read_exact` on a stream that ends: what is left of it is used up where it is too short. -/
def readExactBytes (count : Nat) : EStateM IoErrorKind (List UInt8) (List UInt8) := fun stream =>
  if count ≤ stream.length then .ok (stream.take count) (stream.drop count) else .error .unexpectedEof []

end Nmux.Wire
