import Presentment.Disclosure.Response
import Presentment.Transfer.Session

/-!
# The exchange

The request of the reader is read and shown to the user, and when the user accepts, the
response is made and queued.  A step of the exchange that fails leaves the session as it was
when the failure came about.
-/

namespace Presentment.Session

variable {η κ α β : Type}

/-- Goes on after a step that did not fail. -/
def andThen (step : Except TransferError α × Session η κ)
    (f : α → Session η κ → Except TransferError β × Session η κ) :
    Except TransferError β × Session η κ :=
  match step with
  | (.ok a, s) => f a s
  | (.error e, s) => (.error e, s)

/-- Encrypts a message to the reader. -/
def encrypt (setup : Setup η κ) (text : Bytes) (s : Session η κ) :
    Except TransferError Bytes × Session η κ :=
  let (ciphertext, tunnel) := s.tunnel.encrypt setup.provider text
  (ciphertext, { s with tunnel := tunnel }.record (.encrypt text))

/-- Decrypts a message of the reader. -/
def decrypt (setup : Setup η κ) (ciphertext : Bytes) (s : Session η κ) :
    Except TransferError Bytes × Session η κ :=
  let (text, tunnel) := s.tunnel.decrypt setup.provider ciphertext
  (text, { s with tunnel := tunnel }.record (.decrypt ciphertext))

/-! ### The engagement -/

/-- Makes a fresh engagement. -/
def beginEngagement (setup : Setup η κ) (s : Session η κ) :
    Except TransferError Unit × Session η κ :=
  let (engagement, supply) := Engagement.generate setup.suite s.supply
  let s := { s with tunnel := .closed, supply := supply }
  match engagement with
  | .ok engagement => (.ok (), { s with engagement := some engagement })
  | .error cause => (.error (.engagement cause), s)

/-- Advertises the service of the engagement. -/
def startAdvertising (setup : Setup η κ) (s : Session η κ) :
    Except TransferError Unit × Session η κ :=
  match s.engagement with
  | none => (.error .engagementMissing, s)
  | some engagement =>
    let (refusal, s) := s.call (setup.host.startAdvertising engagement.service)
      (.advertise engagement.service ·)
    match refusal with
    | some reason => (.error (.transport engagement.service reason), s)
    | none => (.ok (), { s with isAdvertising := true })

/-! ### The request -/

/-- The failure of a request from which no session keys can be derived. -/
def deriveFailure : SecurityError → TransferError
  | .readerKeyMissing => .readerKeyMissing
  | e => .requestDecodeFailed (.ofSecurity e)

/-- The first message of the reader, which has to hold its key, and the engagement that it
answers. -/
def readEstablishment (message : Bytes) (engagement : Option Engagement) :
    Except TransferError (SessionEstablishment × Engagement) := do
  let establishment : SessionEstablishment ←
    (Cbor.decode message).mapError (fun cause => .requestDecodeFailed (.ofRefusal cause))
  if establishment.readerKey.isNone then throw .readerKeyMissing
  let some engagement := engagement | throw .engagementMissing
  return (establishment, engagement)

/-- Establishes the session with the message that was gathered: the encrypted request. -/
def establish (setup : Setup η κ) (s : Session η κ) :
    Except TransferError Bytes × Session η κ :=
  let gathered := { s with reassembly := [] }
  match readEstablishment s.reassembly s.engagement with
  | .error e => (.error e, gathered)
  | .ok (establishment, engagement) =>
    let derived := gathered.record (.derive engagement)
    match setup.provider.derive establishment engagement .qr with
    | .error e => (.error (deriveFailure e), derived)
    | .ok state => (.ok establishment.data, { derived with tunnel := .established state })

/-- Decrypts and decodes the request. -/
def readRequest (setup : Setup η κ) (data : Bytes) (s : Session η κ) :
    Except TransferError DeviceRequest × Session η κ :=
  andThen (s.decrypt setup data) fun text s =>
    ((Cbor.decode text).mapError (fun cause => .requestDecodeFailed (.ofRefusal cause)), s)

/-- The judgement of the first signature in a request, if it has one. -/
def judgeReader (setup : Setup η κ) (tunnel : Tunnel κ) (request : DeviceRequest) :
    Except TransferError (Option ReaderAuthOutcome) :=
  let signed := request.docRequests.toList.findSome? (fun doc =>
    doc.readerAuth.map (fun readerAuth => (doc.itemsRequest, readerAuth)))
  match signed with
  | none => .ok none
  | some (itemsRequest, readerAuth) => do
    let transcript ← tunnel.transcript setup.provider
    let input : ReaderAuthInput := ⟨readerAuth, readerAuth.x5chain, itemsRequest, transcript⟩
    return some (setup.provider.readerAuth input setup.anchors)

/-- Shows the request to the user. -/
def ask (setup : Setup η κ) (request : DeviceRequest) (s : Session η κ) :
    Except TransferError Unit × Session η κ :=
  match judgeReader setup s.tunnel request with
  | .error e => (.error e, s)
  | .ok readerAuth =>
    let requests := request.itemsRequests
    let disclosure := Disclosure.filter setup.credentials (.verifier requests none)
    let prompt := Prompt.ofDisclosure disclosure readerAuth
    let s := { s with cycle := s.cycle + 1, pending := some requests }
    (.ok (), (s.call (setup.host.requestReceived prompt s.cycle)
      (fun _ => .prompt prompt s.cycle)).2)

/-- Reads the request that was gathered and shows it to the user. -/
def processRequest (setup : Setup η κ) (s : Session η κ) :
    Except TransferError Unit × Session η κ :=
  andThen (s.establish setup) fun data s =>
    andThen (s.readRequest setup data) fun request s => s.ask setup request

/-- Processes the request; if that fails the reader is told, where there is a status for
it. -/
def answerRequest (setup : Setup η κ) (s : Session η κ) :
    Except TransferError Unit × Session η κ :=
  match s.processRequest setup with
  | (.ok (), s) => (.ok (), s)
  | (.error e, s) => match e.sessionStatus? with
    | some status => (.error e, s.sendStatus setup status)
    | none => (.error e, s)

/-! ### The response -/

/-- The response for a disclosure, with proofs of the device keys, if it can be written. -/
def makeResponse (setup : Setup η κ) (tunnel : Tunnel κ) (d : Disclosure) :
    Except TransferError DeviceResponse := do
  let transcript ← tunnel.transcript setup.provider
  let readerKey ← tunnel.readerKey setup.provider
  let response ← d.response setup.provider setup.credentials
    (some ⟨transcript, readerKey, setup.config.deviceAuthMethod⟩)
  if response.isWritable then return response else throw (.codec .repeatedLabel)

/-- The message that carries the encrypted response and ends the session. -/
def responseMessage (data : Bytes) : Bytes :=
  Cbor.encode (⟨some data, some .termination⟩ : SessionData)

/-- Queues the fragments of a message with data. -/
def queue (setup : Setup η κ) (message : Bytes) (s : Session η κ) : Session η κ :=
  { s with outgoing := Fragment.frame message (s.block setup) }.record (.queue message)

/-- Makes the response to the request that waits, with the items that the user chose, and
queues its fragments. -/
def buildResponse (setup : Setup η κ) (items : Option Selection) (s : Session η κ) :
    Except TransferError Unit × Session η κ :=
  match s.pending with
  | none => (.error .sessionNotEstablished, s)
  | some requests =>
    let taken := { s with pending := none }
    let disclosure := Disclosure.filter setup.credentials (.verifier requests items)
    if disclosure.isEmpty then
      (.error .noDisclosableDocument, taken.sendStatus setup .termination)
    else match makeResponse setup taken.tunnel disclosure with
      | .error e => (.error e, taken)
      | .ok response => andThen (taken.encrypt setup (Cbor.encode response)) fun data s =>
        (.ok (), s.queue setup (responseMessage data))

end Presentment.Session
