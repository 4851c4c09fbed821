import Presentment.Security.Provider

/-!
# Failures of a presentation

A presentation fails with a `TransferError`.  Some failures can be recovered from by
starting over, and some are due to the message of the reader, which is then told a status.
-/

namespace Presentment

/-- Why a request cannot be decoded: a sentence, and the rules that the request breaks. -/
structure RequestFault where
  message : String
  reasons : List String
  deriving DecidableEq, Repr

/-- The fault of a request that cannot be read. -/
def RequestFault.ofRefusal (cause : Refusal) : RequestFault :=
  let e := CodecError.decode cause
  ⟨e.message, e.reasons⟩

/-- The fault of a request from which no session keys can be derived. -/
def RequestFault.ofSecurity (e : SecurityError) : RequestFault :=
  ⟨e.message, e.reasons⟩

/-- Why a presentation ended in error. -/
inductive TransferError where
  | transportUnauthorized
  | transportUnsupported
  /-- The radio refused to advertise the service. -/
  | transport (service : Uuid) (reason : String)
  | invalidCredentialInput
  | requestDecodeFailed (fault : RequestFault)
  | sessionNotEstablished
  | readerKeyMissing
  | engagementMissing
  | engagement (cause : HolderError)
  | userRejected
  | noDisclosableDocument
  | deviceAuthFailed (docType : String) (cause : SecurityError)
  | decryptFailed (cause : SecurityError)
  | encryptFailed (cause : SecurityError)
  | codec (cause : CodecError)
  deriving DecidableEq

namespace TransferError

/-- The name of the failure, for programs. -/
def kind : TransferError → String
  | .transportUnauthorized => "TRANSPORT_UNAUTHORIZED"
  | .transportUnsupported => "TRANSPORT_UNSUPPORTED"
  | .transport _ _ => "TRANSPORT"
  | .invalidCredentialInput => "INVALID_CREDENTIAL_INPUT"
  | .requestDecodeFailed _ => "REQUEST_DECODE_FAILED"
  | .sessionNotEstablished => "SESSION_NOT_ESTABLISHED"
  | .readerKeyMissing => "READER_KEY_MISSING"
  | .engagementMissing => "ENGAGEMENT_MISSING"
  | .engagement _ => "ENGAGEMENT"
  | .userRejected => "USER_REJECTED"
  | .noDisclosableDocument => "NO_DISCLOSABLE_DOCUMENT"
  | .deviceAuthFailed _ _ => "DEVICE_AUTH_FAILED"
  | .decryptFailed _ => "DECRYPT_FAILED"
  | .encryptFailed _ => "ENCRYPT_FAILED"
  | .codec _ => "CBOR"

def message : TransferError → String
  | .transportUnauthorized => "access to the transport is not authorized"
  | .transportUnsupported => "the transport is not supported on this device"
  | .transport service reason =>
    "unable to advertise service " ++ service.toText ++ ": " ++ reason
  | .invalidCredentialInput => "no valid credential was provided"
  | .requestDecodeFailed fault => "the request could not be decoded: " ++ fault.message
  | .sessionNotEstablished => "session encryption has not been established"
  | .readerKeyMissing => "the reader ephemeral key is missing"
  | .engagementMissing => "device engagement has not been performed"
  | .engagement cause => cause.message
  | .userRejected => "the user rejected the request"
  | .noDisclosableDocument => "no requested document can be disclosed"
  | .deviceAuthFailed docType cause =>
    "device authentication failed for '" ++ docType ++ "': " ++ cause.message
  | .decryptFailed cause => "unable to decrypt session data: " ++ cause.message
  | .encryptFailed cause => "unable to encrypt session data: " ++ cause.message
  | .codec cause => "unable to encode the response: " ++ cause.message

/-- The rules that a message breaks. -/
def reasons : TransferError → List String
  | .requestDecodeFailed fault => fault.reasons
  | .deviceAuthFailed _ cause => cause.reasons
  | .decryptFailed cause => cause.reasons
  | .encryptFailed cause => cause.reasons
  | .codec cause => cause.reasons
  | _ => []

/-- Whether starting over with a fresh engagement can succeed. -/
def isRecoverable : TransferError → Bool
  | .invalidCredentialInput | .transportUnauthorized | .transportUnsupported => false
  | _ => true

/-- The status that the reader is told when its request fails this way. -/
def sessionStatus? : TransferError → Option SessionStatus
  | .requestDecodeFailed _ => some .decodingError
  | .sessionNotEstablished | .readerKeyMissing | .engagementMissing | .decryptFailed _ =>
    some .encryptionError
  | _ => none

end TransferError

end Presentment
