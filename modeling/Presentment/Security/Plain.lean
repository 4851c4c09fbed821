import Presentment.Security.Provider

/-!
# The plain provider

A provider without cryptography, which shows what a session does with its provider.  A
message to the reader is its text behind the byte `E0` and the number of the message, one
from the reader behind `D0` and its number, and the proof of a device key names what it is
made from.  Every operation may be set to fail.
-/

namespace Presentment.Plain

/-- How the plain provider behaves. -/
structure Behaviour where
  /-- The failure of every derivation of session keys. -/
  derive : Option SecurityError := none
  /-- The failure of every proof of a device key. -/
  deviceAuth : Option SecurityError := none
  /-- The failure of every encryption. -/
  encrypt : Option SecurityError := none
  /-- Whether readers are found to be genuine. -/
  validated : Bool := false

/-- The session encryption: the messages of both directions are counted. -/
structure Encryption where
  transcript : SessionTranscript
  readerKey : Cose.Key
  encrypted : Nat
  decrypted : Nat

/-- `a`, unless a failure is set. -/
def failOr {α : Type} (failure : Option SecurityError) (a : Except SecurityError α) :
    Except SecurityError α :=
  match failure with
  | some e => .error e
  | none => a

/-- The session encryption that takes the key of the reader as it is. -/
def derive (b : Behaviour) (establishment : SessionEstablishment) (engagement : Engagement)
    (handover : Handover) : Except SecurityError Encryption :=
  failOr b.derive (match establishment.readerKey with
    | some key => .ok ⟨⟨engagement.deviceEngagement, key, handover⟩, key.content, 0, 0⟩
    | none => .error .readerKeyMissing)

/-- Marks a text with its number. -/
def encrypt (b : Behaviour) (text : Bytes) (e : Encryption) :
    Except SecurityError Bytes × Encryption :=
  match b.encrypt with
  | some failure => (.error failure, e)
  | none =>
    let n := e.encrypted + 1
    (.ok (0xE0 :: UInt8.ofNat n :: text), { e with encrypted := n })

/-- The text behind its mark. -/
def decrypt (ciphertext : Bytes) (e : Encryption) : Except SecurityError Bytes × Encryption :=
  let n := e.decrypted + 1
  (if [0xD0, UInt8.ofNat n].isPrefixOf ciphertext then .ok (ciphertext.drop 2)
    else .error (.session .decryption), { e with decrypted := n })

/-- Text that names the document, the start of the device key and what unlocks it. -/
def proof (request : DeviceAuthRequest) : Bytes :=
  Bytes.ofText ("|".intercalate [request.docType,
    Hex.encode (request.deviceKey.toBytes.take 4),
    (request.unlockData.map Hex.encode).getD "none"])

/-- A message that has nothing but a proof. -/
def message (kind : Cose.Proof) (request : DeviceAuthRequest) : Cose.Message kind :=
  ⟨⟨[], .empty⟩, .empty, none, proof request⟩

/-- The proof of a device key. -/
def deviceAuth (b : Behaviour) (request : DeviceAuthRequest) : Except SecurityError DeviceAuth :=
  failOr b.deviceAuth (.ok (match request.method with
    | .mac => .mac (message .tag request)
    | .signature => .signature (message .signature request)))

/-- The judgement of a reader, which names what it is made from. -/
def readerAuth (b : Behaviour) (input : ReaderAuthInput) (anchors : TrustAnchors) :
    ReaderAuthOutcome :=
  ⟨b.validated, none, input.x5chain.head?.map Hex.encode,
    some ("|".intercalate [input.itemsRequest.content.docType, toString input.x5chain.length,
      toString anchors.certificates.length])⟩

/-- The plain provider. -/
def provider (b : Behaviour) : SecurityProvider Encryption where
  derive := derive b
  encrypt := encrypt b
  decrypt := decrypt
  transcript := Encryption.transcript
  readerKey := Encryption.readerKey
  deviceAuth := deviceAuth b
  readerAuth := readerAuth b

end Presentment.Plain
