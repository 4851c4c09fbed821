/-!
# Refusals

A byte string may fail to be an item of the expected shape, or be such an item and still
break a rule of the message it stands for.  `Refusal` lists both kinds of cause;
`Refusal.reasons` words the broken rules, outermost first, and is empty for a wrong shape.
-/

namespace Presentment

/-- Why an item is not a public key of the supported kind. -/
inductive KeyError where
  | missingX
  | missingY
  | notAMap
  | unsupportedCurve
  | unsupportedKeyType
  | notOnCurve
  deriving DecidableEq, Repr

def KeyError.message : KeyError → String
  | .missingX => "COSE_Key of kty 'EC2' missing x coordinate"
  | .missingY => "COSE_Key of kty 'EC2' missing y coordinate"
  | .notAMap => "Expected to parse a CBOR map"
  | .unsupportedCurve => "This implementation of COSE_Key only supports P-256"
  | .unsupportedKeyType => "This implementation of COSE_Key only supports EC2 keys"
  | .notOnCurve => "Could not reconstruct a point on the curve from the provided COSE_Key"

/-- Why an item is not a device engagement. -/
inductive EngagementError where
  | unsupportedVersion
  | unsupportedRetrieval
  | notAMap
  | malformed
  deriving DecidableEq, Repr

def EngagementError.message : EngagementError → String
  | .unsupportedVersion => "unsupported device engagement version, expected 1.0"
  | .unsupportedRetrieval => "Unsupported device retrieval method"
  | .notAMap => "Invalid DeviceEngagement found"
  | .malformed => "Malformed object not recognised"

/-- Why a byte string is not the encoding of a message. -/
inductive Refusal where
  /-- The bytes are no item, or an item of another shape. -/
  | malformed
  | emptyList
  | emptyMap
  | key (cause : KeyError)
  | engagement (cause : EngagementError)
  /-- An embedded item is a byte string with tag 24. -/
  | notEmbedded
  | embeddedNotBytes
  /-- The bytes of an embedded item are refused. -/
  | embedded (cause : Refusal)
  | handoverNotNull
  | unknownSessionStatus (code : Nat)
  | invalidResponseStatus (code : Nat)
  deriving DecidableEq, Repr

/-- The rules that were broken, outermost first. -/
def Refusal.reasons : Refusal → List String
  | .malformed => []
  | .emptyList => ["expected a non-empty array"]
  | .emptyMap => ["expected a non-empty map"]
  | .key cause => [cause.message]
  | .engagement cause => [cause.message]
  | .notEmbedded => ["Expected a CBOR tagged data item with tag number 24"]
  | .embeddedNotBytes => ["Expected a CBOR byte string"]
  | .embedded cause => "Unable to decode bytes to inner type" :: cause.reasons
  | .handoverNotNull => ["handover must be null for QR engagement"]
  | .unknownSessionStatus code => ["unrecognised session status code: " ++ toString code]
  | .invalidResponseStatus code => ["invalid status value: " ++ toString code]

end Presentment
