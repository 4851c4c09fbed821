import Presentment.Holder.Engagement
import Presentment.Message.Request
import Presentment.Message.Response
import Presentment.Message.Session
import Presentment.Security.Trust

/-!
# Security providers

A transfer session does not handle keys itself.  A `SecurityProvider` derives the session
encryption, makes the proofs of the device keys, and judges the signature of the reader.
-/

namespace Presentment

/-- Why a value cannot be read or written. -/
inductive CodecError where
  | decode (cause : Refusal)
  | encode (reason : String)
  deriving DecidableEq, Repr

/-- The failure of a header that cannot be written because a label stands twice in it. -/
def CodecError.repeatedLabel : CodecError :=
  .encode "Value(\"duplicate map key\")"

def CodecError.message : CodecError → String
  | .decode _ => "CBOR decoding failure"
  | .encode reason => "CBOR encoding failure: " ++ reason

/-- The rules that a value breaks. -/
def CodecError.reasons : CodecError → List String
  | .decode cause => cause.reasons
  | .encode _ => []

/-- Why a security provider fails. -/
inductive SecurityError where
  | readerKeyMissing
  | invalidReaderKey (reason : String)
  | session (cause : SessionError)
  | deviceAuth (reason : String)
  | codec (cause : CodecError)
  deriving DecidableEq, Repr

def SecurityError.message : SecurityError → String
  | .readerKeyMissing => "the reader ephemeral key is missing"
  | .invalidReaderKey reason => "the reader ephemeral key is not a usable P-256 key: " ++ reason
  | .session cause => "session cryptography failed: " ++ cause.message
  | .deviceAuth reason => "device authentication could not be produced: " ++ reason
  | .codec cause => cause.message

def SecurityError.reasons : SecurityError → List String
  | .codec cause => cause.reasons
  | _ => []

/-- The private key in a byte string. -/
def PrivateKey.ofBytes (bs : Bytes) : Except SecurityError PrivateKey :=
  match PrivateKey.ofBytes? bs with
  | some d => .ok d
  | none => .error (.deviceAuth "invalid device key")

/-- How the possession of device keys is proven. -/
inductive DeviceAuthMethod where
  | mac
  | signature
  deriving DecidableEq, Repr

/-- What the proof for a document is made from. -/
structure DeviceAuthRequest where
  docType : String
  transcript : SessionTranscript
  readerKey : Cose.Key
  deviceKey : PrivateKey
  method : DeviceAuthMethod
  unlockData : Option Bytes

/-- The signature of the reader over an items request, with its certificates, leaf first. -/
structure ReaderAuthInput where
  readerAuth : Cose.Sign1
  x5chain : List Bytes
  itemsRequest : Embedded ItemsRequest
  transcript : SessionTranscript

/-- What is known about the reader, to be shown to the user. -/
structure ReaderAuthOutcome where
  validated : Bool
  certificateIssuer : Option String
  certificateSubject : Option String
  message : Option String
  deriving DecidableEq, Repr

/-- The outcome when no certificate of the reader could be read. -/
def ReaderAuthOutcome.failed (message : String) : ReaderAuthOutcome :=
  ⟨false, none, none, some message⟩

/-- The cryptography of a session whose encryption has state `κ`. -/
structure SecurityProvider (κ : Type) where
  /-- The session encryption that the first message of the reader establishes. -/
  derive : SessionEstablishment → Engagement → Handover → Except SecurityError κ
  /-- Encrypts the next message to the reader. -/
  encrypt : (text : Bytes) → κ → Except SecurityError Bytes × κ
  /-- Decrypts the next message of the reader. -/
  decrypt : (ciphertext : Bytes) → κ → Except SecurityError Bytes × κ
  transcript : κ → SessionTranscript
  readerKey : κ → Cose.Key
  deviceAuth : DeviceAuthRequest → Except SecurityError DeviceAuth
  readerAuth : ReaderAuthInput → TrustAnchors → ReaderAuthOutcome

end Presentment
