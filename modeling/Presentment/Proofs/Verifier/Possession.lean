import Presentment.Proofs.Message.Recovery
import Presentment.Proofs.Verifier.Delivery
import Presentment.Proofs.Verifier.Handshake

/-!
# Possession of device keys

The holder proves that it has the device key of every document that it returns, and the reader
checks this from what it has itself: the transcript, its own private key, and what the document
says.  Both make up the same bytes and the same key, so whatever the holder proves, the reader
accepts.  The response may hold signatures of issuers that are read back as others, or that keep
the response from being read at all; the proofs of the device keys are not changed by this.
-/

namespace Presentment

variable {suite : CipherSuite}

/-- The reader has the secret of the key that is in its transcript. -/
def ReaderSession.IsKeyed (suite : CipherSuite) (r : ReaderSession) : Prop :=
  r.transcript.readerKey.content = suite.publicKey r.privateKey

theorem ReaderSession.isKeyed_of (sound : suite.IsSound) {privateKey : PrivateKey}
    {engagement : Embedded DeviceEngagement} {r : ReaderSession}
    (h : ReaderSession.of suite privateKey engagement = .ok r) :
  r.IsKeyed suite
  := by
  obtain ⟨readerKey, content_eq, -, transcript_eq, -⟩ := ReaderSession.of_eq_ok sound h
  have privateKey_eq : r.privateKey = privateKey := by
    obtain ⟨_, -, h⟩ := Except.bind_eq_ok_iff.mp h
    dsimp only at h
    split at h
    · cases h
    · cases h
      rfl
  rw [ReaderSession.IsKeyed, transcript_eq, privateKey_eq]
  exact content_eq

/-- The session in which a holder proves its device keys to a reader. -/
structure DeviceAuthContext.IsSharedWith (context : DeviceAuthContext) (r : ReaderSession) :
    Prop where
  transcript_eq : context.transcript = r.transcript
  readerKey_eq : context.readerKey = r.transcript.readerKey.content

/-- The session encryption of a holder that goes together with the reader's session. -/
theorem Mirrors.isSharedWith {state : Iso.Encryption} {r : ReaderSession} (h : Mirrors state r)
    (method : DeviceAuthMethod) :
  (⟨state.transcript, state.readerKey, method⟩ : DeviceAuthContext).IsSharedWith r
  := ⟨h.transcript_eq, h.readerKey_eq⟩

/-! ### Proofs -/

/-- What proves the device key `d` over `payload`, which is detached, in the session of a holder: a
signature, or a tag under the key that the device key shares with the reader. -/
inductive DeviceAuthContext.Proves (suite : CipherSuite) (context : DeviceAuthContext)
    (d : PrivateKey) (payload : Bytes) : DeviceAuth → Prop
  | signature {m : Cose.Sign1} :
      context.method = .signature → m.payload = none →
        m.proof = suite.sign d (Cose.Message.toBeProven .signature m.protectedHeader payload) →
        Proves suite context d payload (.signature m)
  | mac {m : Cose.Mac0} :
      context.method = .mac → m.payload = none →
        m.proof = suite.mac (macKey suite d context.readerKey context.transcript)
          (Cose.Message.toBeProven .tag m.protectedHeader payload) →
        Proves suite context d payload (.mac m)

/-- What a reader accepts as a proof of a device key over `payload`. -/
inductive ReaderSession.Accepts (suite : CipherSuite) (r : ReaderSession) (deviceKey : Cose.Key)
    (payload : Bytes) : DeviceAuth → Prop
  | signature {m : Cose.Sign1} :
      suite.verify deviceKey (Cose.Message.toBeProven .signature m.protectedHeader payload)
          m.proof →
        Accepts suite r deviceKey payload (.signature m)
  | mac {m : Cose.Mac0} :
      m.proof = suite.mac (macKey suite r.privateKey deviceKey r.transcript)
          (Cose.Message.toBeProven .tag m.protectedHeader payload) →
        Accepts suite r deviceKey payload (.mac m)

/-- The proof in a document: the holder made it over `payload` with the device key of a credential,
and the reader, which makes up the same bytes and the same key, accepts it.  What the reader checks
is this very proof over these very bytes, under whatever key it takes for the device key. -/
structure Document.IsProvenBy (suite : CipherSuite) (context : DeviceAuthContext)
    (r : ReaderSession) (c : Credential) (document : Document) (signed : DeviceSigned)
    (payload : Bytes) : Prop where
  deviceSigned_eq : document.deviceSigned = some signed
  payload_eq : Iso.devicePayload context.transcript document.docType = .ok payload
  proves : context.Proves suite c.privateKey payload signed.deviceAuth
  rebuilt_eq : taggedBytes (DeviceAuthentication.of r.transcript document.docType signed.namespaces)
    = payload
  macKey_eq : macKey suite r.privateKey (suite.publicKey c.privateKey) r.transcript
    = macKey suite c.privateKey context.readerKey context.transcript
  checks : ∀ deviceKey, r.verifyDeviceAuth suite document deviceKey = .ok ()
    ↔ r.Accepts suite deviceKey payload signed.deviceAuth
  accepted : r.verifyDeviceAuth suite document (suite.publicKey c.privateKey) = .ok ()

/-- A document of a disclosure as it is returned, with the proof for the credential that the
disclosure names. -/
structure IsProven (suite : CipherSuite) (store : CredentialStore) (context : DeviceAuthContext)
    (r : ReaderSession) (disclosed : DisclosedDocument) (document : Document) : Prop where
  docType_eq : document.docType = disclosed.docType
  proven : ∃ c signed payload, store.find? disclosed.documentId = some c
    ∧ document.IsProvenBy suite context r c signed payload

section

variable {store : CredentialStore} {context : DeviceAuthContext} {r : ReaderSession} {now : Nat}
  {document document' : Document} {disclosed : DisclosedDocument}

/-- Both sides agree on the key of the authentication tags. -/
theorem macKey_comm (symmetric : suite.IsSymmetric) (keyed : r.IsKeyed suite)
    (shared : context.IsSharedWith r) (d : PrivateKey) :
  macKey suite r.privateKey (suite.publicKey d) r.transcript
    = macKey suite d context.readerKey context.transcript
  := by
  rw [macKey, macKey, shared.readerKey_eq, keyed, symmetric r.privateKey d, shared.transcript_eq]

theorem Iso.deviceAuth_proves {docType : String} {d : PrivateKey} {unlockData : Option Bytes}
    {payload : Bytes} {auth : DeviceAuth}
    (payload_eq : Iso.devicePayload context.transcript docType = .ok payload)
    (auth_eq : Iso.deviceAuth suite ⟨docType, context.transcript, context.readerKey, d,
        context.method, unlockData⟩ = .ok auth) :
  context.Proves suite d payload auth
  := by
  rw [Iso.deviceAuth, payload_eq] at auth_eq
  dsimp only [bind, Except.bind] at auth_eq
  cases hmethod : context.method with
  | signature =>
    rw [hmethod] at auth_eq
    cases auth_eq
    exact .signature hmethod rfl rfl
  | mac =>
    rw [hmethod] at auth_eq
    dsimp only at auth_eq
    split at auth_eq
    · cases auth_eq
    · cases auth_eq
      exact .mac hmethod rfl rfl

/-- The reader accepts what the holder proves. -/
theorem DeviceAuthContext.Proves.accepts (symmetric : suite.IsSymmetric)
    (authentic : suite.IsAuthentic) (keyed : r.IsKeyed suite) (shared : context.IsSharedWith r)
    {d : PrivateKey} {payload : Bytes} {auth : DeviceAuth} (proves : context.Proves suite d payload auth) :
  r.Accepts suite (suite.publicKey d) payload auth
  := by
  cases proves with
  | signature _ _ proof_eq =>
    apply ReaderSession.Accepts.signature
    rw [proof_eq]
    exact authentic d _
  | mac _ _ proof_eq =>
    apply ReaderSession.Accepts.mac
    rw [macKey_comm symmetric keyed shared]
    exact proof_eq

theorem ReaderSession.isProofOver_iff {deviceKey : Cose.Key} {payload : Bytes}
    {auth : DeviceAuth} :
  r.isProofOver suite deviceKey payload auth ↔ r.Accepts suite deviceKey payload auth
  := by
  cases auth with
  | signature m =>
    constructor
    · exact .signature
    · intro accepts
      cases accepts with
      | signature verified => exact verified
  | mac m =>
    rw [isProofOver, beq_iff_eq]
    constructor
    · exact fun tag_eq => .mac tag_eq.symm
    · intro accepts
      cases accepts with
      | mac proof_eq => exact proof_eq.symm

/-- The reader checks the proof in a document over the bytes that it makes up itself. -/
theorem ReaderSession.verifyDeviceAuth_eq_ok_iff {deviceKey : Cose.Key} {signed : DeviceSigned}
    (deviceSigned_eq : document.deviceSigned = some signed) :
  r.verifyDeviceAuth suite document deviceKey = .ok ()
    ↔ r.Accepts suite deviceKey
      (taggedBytes (DeviceAuthentication.of r.transcript document.docType signed.namespaces))
      signed.deviceAuth
  := by
  rw [← isProofOver_iff, verifyDeviceAuth, deviceSigned_eq]
  dsimp only
  cases r.isProofOver suite deviceKey
    (taggedBytes (DeviceAuthentication.of r.transcript document.docType signed.namespaces))
    signed.deviceAuth with
  | true => exact ⟨fun _ => rfl, fun _ => rfl⟩
  | false =>
    constructor
    · intro rejected
      cases rejected
    · exact fun unproven => absurd unproven Bool.false_ne_true

/-! ### Documents -/

/-- What the holder returns for a document of a disclosure proves its device key. -/
theorem isProven_of_answer (symmetric : suite.IsSymmetric) (authentic : suite.IsAuthentic)
    (keyed : r.IsKeyed suite) (shared : context.IsSharedWith r)
    (h : Disclosure.answer (Iso.provider suite now) store (some context) disclosed
      = .ok document) :
  IsProven suite store context r disclosed document
  := by
  obtain ⟨signed, hsigned, document_eq⟩ := Disclosure.answer_some_eq_ok_iff.mp h
  have docType_eq : document.docType = disclosed.docType := congrArg Document.docType document_eq
  have deviceSigned_eq : document.deviceSigned = some signed :=
    congrArg Document.deviceSigned document_eq
  obtain ⟨asked, hnamespaces⟩ := Disclosure.deviceSigned_eq_ok_iff.mp hsigned
  obtain ⟨c, hfind, made⟩ := Option.map_eq_some_iff.mp asked
  rw [← docType_eq] at made
  have payload_eq : Iso.devicePayload context.transcript document.docType
      = .ok (taggedBytes
        (DeviceAuthentication.of r.transcript document.docType signed.namespaces)) := by
    rw [Iso.devicePayload, hnamespaces, shared.transcript_eq]
    rfl
  have proves := Iso.deviceAuth_proves payload_eq made
  have checks (deviceKey : Cose.Key) : r.verifyDeviceAuth suite document deviceKey = .ok ()
      ↔ r.Accepts suite deviceKey _ signed.deviceAuth :=
    ReaderSession.verifyDeviceAuth_eq_ok_iff deviceSigned_eq
  have accepted := (checks _).mpr (proves.accepts symmetric authentic keyed shared)
  exact ⟨docType_eq, c, signed, _, hfind, deviceSigned_eq, payload_eq, proves, rfl,
    macKey_comm symmetric keyed shared c.privateKey, checks, accepted⟩

/-- The proof is read back from the bytes of the document, wherever they stand. -/
theorem survives_of_answer
    (h : Disclosure.answer (Iso.provider suite now) store (some context) disclosed
      = .ok document) :
  ∀ signed ∈ document.deviceSigned, ∀ levels, Cbor.Survives (levels + 4) signed
  := by
  obtain ⟨signed, hsigned, rfl⟩ := Disclosure.answer_some_eq_ok_iff.mp h
  rintro _ ⟨⟩ levels
  exact Disclosure.survives_deviceSigned hsigned

/-- What else is in a document makes no difference. -/
theorem IsProven.of_eq (h : IsProven suite store context r disclosed document)
    (docType_eq : document'.docType = document.docType)
    (deviceSigned_eq : document'.deviceSigned = document.deviceSigned) :
  IsProven suite store context r disclosed document'
  := by
  have verifies (deviceKey : Cose.Key) : r.verifyDeviceAuth suite document' deviceKey
      = r.verifyDeviceAuth suite document deviceKey := by
    rw [ReaderSession.verifyDeviceAuth, ReaderSession.verifyDeviceAuth, docType_eq,
      deviceSigned_eq]
  obtain ⟨docType_eq', c, signed, payload, hfind, proven⟩ := h
  refine ⟨docType_eq.trans docType_eq', c, signed, payload, hfind, ?_⟩
  constructor
  case deviceSigned_eq => exact deviceSigned_eq.trans proven.deviceSigned_eq
  case payload_eq =>
    rw [docType_eq]
    exact proven.payload_eq
  case proves => exact proven.proves
  case rebuilt_eq =>
    rw [docType_eq]
    exact proven.rebuilt_eq
  case macKey_eq => exact proven.macKey_eq
  case checks =>
    intro deviceKey
    rw [verifies]
    exact proven.checks deviceKey
  case accepted =>
    rw [verifies]
    exact proven.accepted

end

/-- Every proof that the holder makes is accepted by the reader: in the response for a disclosure,
every document proves its device key, and so does every document of whatever is read from the bytes
of the response.  If the signatures of the issuers can be read back, this is the response itself.  A
longer response has no encoding, since heads cannot count its bytes. -/
theorem response_isProven (symmetric : suite.IsSymmetric) (authentic : suite.IsAuthentic)
    {store : CredentialStore} {context : DeviceAuthContext} {r : ReaderSession} {now : Nat}
    {d : Disclosure} {response : DeviceResponse} (keyed : r.IsKeyed suite)
    (shared : context.IsSharedWith r)
    (response_eq : d.response (Iso.provider suite now) store (some context) = .ok response) :
  List.Forall₂ (IsProven suite store context r) d.documents
      (response.documents.elim [] NonEmptyList.toList)
    ∧ ((Cbor.encode response).length < Cbor.headCapacity →
      (∀ read : DeviceResponse, Cbor.decode (Cbor.encode response) = .ok read →
        List.Forall₂ (IsProven suite store context r) d.documents
          (read.documents.elim [] NonEmptyList.toList))
      ∧ (d.IsReadable 249 → Cbor.decode (Cbor.encode response) = .ok response))
  := by
  obtain ⟨documents, hanswers, heq⟩ := Disclosure.response_eq_ok_iff.mp response_eq
  have documents_eq : response.documents.elim [] NonEmptyList.toList = documents := by
    rw [heq, NonEmptyList.elim_ofList?]
  constructor
  · rw [documents_eq]
    exact hanswers.imp fun _ _ => isProven_of_answer symmetric authentic keyed shared
  · intro short
    constructor
    · intro read decoded
      have same := ((@DeviceResponse.recovers 249 response).of_decode short decoded).forall₂
      rw [documents_eq] at same
      apply forall₂_comp hanswers same
      intro disclosed document document' answered holds
      exact (isProven_of_answer symmetric authentic keyed shared answered).of_eq holds.docType
        (holds.deviceSigned (survives_of_answer answered))
    · intro readable
      exact (DeviceResponse.survives (readable.response response_eq)).decode_encode short

/-! ### The proof for the document with the name -/

open Session (nameRequest nameWallet)

/-- A holder that has derived the keys of its session with a reader, and this reader. -/
def mirrored? (suite : CipherSuite) (secret privateKey : PrivateKey) (service : Uuid) :
    Option (Iso.Encryption × ReaderSession) := do
  let (e, r) ← ReaderSession.meeting? suite secret privateKey service
  let state ← (Iso.derive suite ⟨some r.transcript.readerKey, []⟩ e .qr).toOption
  return (state, r)

theorem mirrors_of_mirrored? (sound : suite.IsSound) {secret privateKey : PrivateKey}
    {service : Uuid} {state : Iso.Encryption} {r : ReaderSession}
    (h : mirrored? suite secret privateKey service = some (state, r)) :
  Mirrors state r ∧ r.IsKeyed suite
  := by
  obtain ⟨⟨e, r'⟩, hmet, h⟩ := Option.bind_eq_some_iff.mp h
  obtain ⟨state', hderive, h⟩ := Option.bind_eq_some_iff.mp h
  cases h
  obtain ⟨he, hr⟩ := ReaderSession.of_meeting? hmet
  have genuine := Engagement.isGenuine_of_of sound he
  have derive_eq := Except.toOption_eq_some_iff.mp hderive
  exact ⟨derive_mirrors sound genuine hr rfl derive_eq, ReaderSession.isKeyed_of sound hr⟩

/-- The session in which the document with the name is returned to the reader. -/
def Iso.Encryption.context (state : Iso.Encryption) : DeviceAuthContext :=
  ⟨state.transcript, state.readerKey, .mac⟩

/-- The response with the name. -/
def nameResponse (state : Iso.Encryption) : Except TransferError DeviceResponse :=
  (Disclosure.filter nameWallet.credentials (.verifier [nameRequest] none)).response
    (Iso.provider .transparent 0) nameWallet.credentials (some state.context)

/-- Whether a response has a document, and is short. -/
def isBrief (response : DeviceResponse) : Bool :=
  response.documents.isSome && decide ((Cbor.encode response).length < Cbor.headCapacity)

/-- The reader accepts the proof for the document with the name, as it reads it back. -/
theorem response_isProven_name :
  ∃ state r response, Mirrors state r
    ∧ r.IsKeyed .transparent
    ∧ state.context.IsSharedWith r
    ∧ nameResponse state = .ok response
    ∧ (Cbor.encode response).length < Cbor.headCapacity
    ∧ Cbor.decode (Cbor.encode response) = .ok response
    ∧ response.documents.isSome
    ∧ List.Forall₂ (IsProven .transparent nameWallet.credentials state.context r)
      (Disclosure.filter nameWallet.credentials (.verifier [nameRequest] none)).documents
      (response.documents.elim [] NonEmptyList.toList)
  := by
  have outcome : (mirrored? .transparent default default (.ofNat 1)).any
      (fun met => (nameResponse met.1).toOption.any isBrief) := by
    decide +kernel
  obtain ⟨⟨state, r⟩, hmet, hresponse⟩ := (Option.any_eq_true _ _).mp outcome
  obtain ⟨response, hresponse, brief⟩ := (Option.any_eq_true _ _).mp hresponse
  rw [isBrief, Bool.and_eq_true, decide_eq_true_iff] at brief
  obtain ⟨returned, short⟩ := brief
  obtain ⟨mirrors, keyed⟩ := mirrors_of_mirrored? CipherSuite.isSound_transparent hmet
  have shared : state.context.IsSharedWith r := mirrors.isSharedWith .mac
  have response_eq := Except.toOption_eq_some_iff.mp hresponse
  obtain ⟨proven, survives⟩ := (response_isProven CipherSuite.isSound_transparent.agree_comm
    CipherSuite.isAuthentic_transparent keyed shared response_eq).2 short
  have decoded :=
    survives (Disclosure.isReadable_filter Presentation.isReadable_nameWallet _ _)
  exact ⟨state, r, response, mirrors, keyed, shared, response_eq, short, decoded, returned,
    proven response decoded⟩

end Presentment
