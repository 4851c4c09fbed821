import Presentment.Security.Provider

/-!
# The standard provider

The cryptography of ISO/IEC 18013-5 over a cipher suite.  Session keys come from the secret
that the ephemeral keys share.  A device key is proven by a signature, or by a tag under a
key agreed with the ephemeral key of the reader; both are made over the transcript, the
document type and the device-signed elements, of which there are none.
-/

namespace Presentment.Iso

/-- The session encryption of the holder. -/
structure Encryption where
  transcript : SessionTranscript
  readerKey : Cose.Key
  deviceSide : SessionKey
  readerSide : SessionKey

/-- The session encryption from the point of view of the holder. -/
def derive (suite : CipherSuite) (establishment : SessionEstablishment)
    (engagement : Engagement) (handover : Handover) : Except SecurityError Encryption := do
  let some readerKey := establishment.readerKey | throw .readerKeyMissing
  if !suite.isUsable readerKey.content then
    throw (.invalidReaderKey KeyError.notOnCurve.message)
  let transcript : SessionTranscript := ⟨engagement.deviceEngagement, readerKey, handover⟩
  let secret := suite.agree engagement.secret readerKey.content
  return ⟨transcript, readerKey.content, .derive suite secret transcript .device,
    .derive suite secret transcript .reader⟩

/-- Encrypts the next message to the reader. -/
def encrypt (suite : CipherSuite) (text : Bytes) (e : Encryption) :
    Except SecurityError Bytes × Encryption :=
  let (ciphertext, key) := e.deviceSide.encrypt suite text
  (ciphertext.mapError .session, { e with deviceSide := key })

/-- Decrypts the next message of the reader. -/
def decrypt (suite : CipherSuite) (ciphertext : Bytes) (e : Encryption) :
    Except SecurityError Bytes × Encryption :=
  let (text, key) := e.readerSide.decrypt suite ciphertext
  (text.mapError .session, { e with readerSide := key })

/-! ### Device keys -/

/-- The header of a message that names its algorithm. -/
def algorithmHeader (algorithm : Int) : Cose.Header :=
  ⟨[(.algorithm, .int algorithm)]⟩

/-- The number of the signature algorithm. -/
def es256 : Int := -7

/-- The number of the tag algorithm. -/
def hmac256 : Int := 5

/-- What the proof for a document is made over. -/
def devicePayload (transcript : SessionTranscript) (docType : String) :
    Except SecurityError Bytes := do
  let namespaces ← noDeviceNamespaces.mapError
    (fun cause => .deviceAuth (", ".intercalate cause.reasons))
  return taggedBytes (DeviceAuthentication.of transcript docType namespaces)

/-- The proof for a document. -/
def deviceAuth (suite : CipherSuite) (request : DeviceAuthRequest) :
    Except SecurityError DeviceAuth := do
  let payload ← devicePayload request.transcript request.docType
  match request.method with
  | .signature =>
    return .signature (.detached .signature (algorithmHeader es256) .empty payload
      (suite.sign request.deviceKey))
  | .mac =>
    if !suite.isUsable request.readerKey then
      throw (.invalidReaderKey KeyError.notOnCurve.message)
    let key := macKey suite request.deviceKey request.readerKey request.transcript
    return .mac (.detached .tag (algorithmHeader hmac256) .empty payload (suite.mac key))

/-! ### Readers -/

/-- Why the signature of the reader is not accepted, if it is not. -/
def signatureFault? (suite : CipherSuite) (input : ReaderAuthInput) (leaf : Certificate) :
    Option String :=
  match leaf.publicKey suite with
  | .error e => some e.message
  | .ok key =>
    let payload := taggedBytes (ReaderAuthentication.of input.transcript input.itemsRequest)
    let signed := Cose.Message.toBeProven .signature input.readerAuth.protectedHeader payload
    if suite.verify key signed input.readerAuth.proof then none
    else some "reader signature is invalid"

/-- Judges the signature of the reader at the time `now`. -/
def readerAuth (suite : CipherSuite) (now : Nat) (input : ReaderAuthInput)
    (anchors : TrustAnchors) : ReaderAuthOutcome :=
  match input.x5chain.head? with
  | none => .failed "reader certificate chain is missing"
  | some leaf => match Certificate.ofBytes? leaf with
    | none => .failed "unable to parse reader certificate"
    | some leaf =>
      let fault := match signatureFault? suite input leaf with
        | some fault => some fault
        | none => match anchors.verify suite now leaf with
          | .ok _ => none
          | .error e => some e.message
      ⟨fault.isNone, some leaf.body.issuer.toText, some leaf.body.subject.toText, fault⟩

/-- The standard provider at the time `now`. -/
def provider (suite : CipherSuite) (now : Nat) : SecurityProvider Encryption where
  derive := derive suite
  encrypt := encrypt suite
  decrypt := decrypt suite
  transcript := Encryption.transcript
  readerKey := Encryption.readerKey
  deviceAuth := deviceAuth suite
  readerAuth := readerAuth suite now

end Presentment.Iso
