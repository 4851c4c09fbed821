import Presentment.Message.Response
import Presentment.Security.Iso

/-!
# The reader's side

The reader takes the engagement of the holder, agrees on session keys, and sends its request
in the first message.  It decrypts the response and checks that every document comes with a
proof of its device key.
-/

namespace Presentment

/-- Why the reader's side of a session fails. -/
inductive ReaderError where
  /-- The engagement holds no usable key. -/
  | deviceKey (cause : KeyError)
  | engagement (cause : DeviceEngagement.UriError)
  | session (cause : SessionError)
  | codec (cause : CodecError)
  | encoding (reason : String)
  | nothingRequested
  /-- The holder ended the session without a response. -/
  | terminated (status : Option SessionStatus)
  | notDeviceSigned
  | invalidDeviceAuth
  deriving DecidableEq

namespace ReaderError

def message : ReaderError → String
  | .deviceKey cause => "the device engagement carries no usable key: " ++ cause.message
  | .engagement cause => cause.message
  | .session cause => cause.message
  | .codec cause => cause.message
  | .encoding reason => "unable to encode: " ++ reason
  | .nothingRequested => "no document was requested"
  | .terminated none => "the holder ended the session (status None)"
  | .terminated (some status) =>
    "the holder ended the session (status " ++ toString status.code ++ ")"
  | .notDeviceSigned => "device authentication is invalid: document is not device signed"
  | .invalidDeviceAuth => "device authentication is invalid"

/-- The rules that a message of the holder breaks. -/
def reasons : ReaderError → List String
  | .engagement cause => cause.reasons
  | .codec cause => cause.reasons
  | _ => []

/-- The failure to write a value. -/
def ofRefusal (cause : Refusal) : ReaderError :=
  .encoding (", ".intercalate cause.reasons)

end ReaderError

/-- The key and the certificates, leaf first, with which a reader signs its requests. -/
structure ReaderAuthKey where
  privateKey : PrivateKey
  x5chain : List Bytes

namespace ReaderAuthKey

/-- The item that carries the certificates: a single one stands without a list around it. -/
def chainValue : List Bytes → Cbor.Value
  | [leaf] => .bytes leaf
  | chain => .array (chain.map .bytes)

/-- The signature over an items request in a session. -/
def sign (suite : CipherSuite) (key : ReaderAuthKey) (transcript : SessionTranscript)
    (itemsRequest : Embedded ItemsRequest) : Cose.Sign1 :=
  .detached .signature (Iso.algorithmHeader Iso.es256) ⟨[(.x5chain, chainValue key.x5chain)]⟩
    (taggedBytes (ReaderAuthentication.of transcript itemsRequest)) (suite.sign key.privateKey)

end ReaderAuthKey

/-- A session from the point of view of the reader. -/
structure ReaderSession where
  transcript : SessionTranscript
  privateKey : PrivateKey
  readerSide : SessionKey
  deviceSide : SessionKey

namespace ReaderSession

/-- The session with the holder of an engagement under the given ephemeral key. -/
def of (suite : CipherSuite) (privateKey : PrivateKey)
    (engagement : Embedded DeviceEngagement) : Except ReaderError ReaderSession := do
  let readerKey ← (Embedded.ofContent (suite.publicKey privateKey)).mapError .ofRefusal
  let deviceKey := engagement.content.security.key.content
  if !suite.isUsable deviceKey then throw (.deviceKey .notOnCurve)
  let transcript : SessionTranscript := ⟨engagement, readerKey, .qr⟩
  let secret := suite.agree privateKey deviceKey
  return ⟨transcript, privateKey, .derive suite secret transcript .reader,
    .derive suite secret transcript .device⟩

/-- A session with a fresh ephemeral key. -/
def generate (suite : CipherSuite) (supply : Supply) (engagement : Embedded DeviceEngagement) :
    Except ReaderError ReaderSession × Supply :=
  let (privateKey, supply) := supply.drawKey
  (of suite privateKey engagement, supply)

/-- Encrypts the next message to the holder. -/
def encrypt (suite : CipherSuite) (text : Bytes) (r : ReaderSession) :
    Except ReaderError Bytes × ReaderSession :=
  let (ciphertext, key) := r.readerSide.encrypt suite text
  (ciphertext.mapError .session, { r with readerSide := key })

/-- Decrypts the next message of the holder. -/
def decrypt (suite : CipherSuite) (ciphertext : Bytes) (r : ReaderSession) :
    Except ReaderError Bytes × ReaderSession :=
  let (text, key) := r.deviceSide.decrypt suite ciphertext
  (text.mapError .session, { r with deviceSide := key })

/-- The first message of the session, which carries the request. -/
def establishment (suite : CipherSuite) (request : Bytes) (r : ReaderSession) :
    Except ReaderError Bytes × ReaderSession :=
  let (data, r) := r.encrypt suite request
  (data.map (fun data => Cbor.encode (⟨some r.transcript.readerKey, data⟩ : SessionEstablishment)),
    r)

/-- A session with the holder of an engagement, and its first message. -/
def establish (suite : CipherSuite) (supply : Supply) (engagement : Embedded DeviceEngagement)
    (request : Bytes) : Except ReaderError (Bytes × ReaderSession) × Supply :=
  let (session, supply) := generate suite supply engagement
  (do
    let (message, r) := (← session).establishment suite request
    return (← message, r), supply)

/-- A session with the holder of the engagement at an address, and its first message. -/
def establishFromUri (suite : CipherSuite) (supply : Supply) (uri : String) (request : Bytes) :
    Except ReaderError (Bytes × ReaderSession) × Supply :=
  match DeviceEngagement.ofUri uri with
  | .error cause => (.error (.engagement cause), supply)
  | .ok engagement => establish suite supply engagement request

/-- The request for some documents, each signed if a key is given. -/
def deviceRequest (suite : CipherSuite) (requests : List ItemsRequest)
    (key : Option ReaderAuthKey) (r : ReaderSession) : Except ReaderError Bytes := do
  let docRequests ← requests.mapM (fun request => do
    let itemsRequest ← (Embedded.ofContent request).mapError .ofRefusal
    return (⟨itemsRequest, key.map (·.sign suite r.transcript itemsRequest)⟩ : DocRequest))
  let some docRequests := NonEmptyList.ofList? docRequests | throw .nothingRequested
  return Cbor.encode (⟨DeviceRequest.currentVersion, docRequests⟩ : DeviceRequest)

/-- Decodes and decrypts the message that carries the response. -/
def handleResponse (suite : CipherSuite) (message : Bytes) (r : ReaderSession) :
    Except ReaderError DeviceResponse × ReaderSession :=
  match (Cbor.decode message : Except Refusal SessionData) with
  | .error cause => (.error (.codec (.decode cause)), r)
  | .ok ⟨none, status⟩ => (.error (.terminated status), r)
  | .ok ⟨some data, _⟩ =>
    let (text, r) := r.decrypt suite data
    (do (Cbor.decode (← text)).mapError (fun cause => .codec (.decode cause)), r)

/-- Whether the proof of a device key is one over `payload`. -/
def isProofOver (suite : CipherSuite) (deviceKey : Cose.Key) (payload : Bytes)
    (r : ReaderSession) : DeviceAuth → Bool
  | .signature m =>
    suite.verify deviceKey (Cose.Message.toBeProven .signature m.protectedHeader payload) m.proof
  | .mac m =>
    let key := macKey suite r.privateKey deviceKey r.transcript
    suite.mac key (Cose.Message.toBeProven .tag m.protectedHeader payload) == m.proof

/-- Checks that a document comes with a proof of the given device key. -/
def verifyDeviceAuth (suite : CipherSuite) (document : Document) (deviceKey : Cose.Key)
    (r : ReaderSession) : Except ReaderError Unit := do
  let some deviceSigned := document.deviceSigned | throw .notDeviceSigned
  let payload := taggedBytes
    (DeviceAuthentication.of r.transcript document.docType deviceSigned.namespaces)
  if !r.isProofOver suite deviceKey payload deviceSigned.deviceAuth then throw .invalidDeviceAuth

end ReaderSession

end Presentment
