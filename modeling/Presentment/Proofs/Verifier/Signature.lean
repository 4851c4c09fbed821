import Presentment.Proofs.Transfer.Diagnosis
import Presentment.Proofs.Transfer.Judgement
import Presentment.Proofs.Verifier.Handshake

/-!
# Signatures of readers

A reader signs every items request over the transcript of the session, and sends its
certificates along.  The holder makes the same bytes up from its own transcript and from the
items request as it came, so it finds the signature genuine whenever it trusts the first
certificate.
-/

namespace Presentment

variable {suite : CipherSuite}

/-! ### The judgement of a signature -/

/-- The outcome for a reader whose certificate is trusted and whose signature is genuine. -/
def ReaderAuthOutcome.passed (leaf : Certificate) : ReaderAuthOutcome :=
  ⟨true, some leaf.body.issuer.toText, some leaf.body.subject.toText, none⟩

namespace ReaderAuthKey

/-- The first certificate of a reader is for its key, and it is trusted. -/
structure IsTrusted (suite : CipherSuite) (now : Nat) (anchors : TrustAnchors)
    (key : ReaderAuthKey) (leaf : Certificate) : Prop where
  leaf_eq : key.x5chain.head?.bind Certificate.ofBytes? = some leaf
  publicKey_eq : leaf.publicKey suite = .ok (suite.publicKey key.privateKey)
  trusted : ∃ anchor, anchors.verify suite now leaf = .ok anchor

/-- The certificates are found again, whether there is a list around them or not. -/
theorem x5chain_sign (suite : CipherSuite) (key : ReaderAuthKey) (transcript : SessionTranscript)
    (itemsRequest : Embedded ItemsRequest) :
  (key.sign suite transcript itemsRequest).x5chain = key.x5chain
  := by
  have found : (key.sign suite transcript itemsRequest).unprotectedHeader.find? .x5chain
    = some (chainValue key.x5chain) := rfl
  rw [Cose.Message.x5chain, found, Option.orElse_eq_orElse, Option.orElse_some]
  rcases hchain : key.x5chain with _ | ⟨leaf, _ | ⟨issuer, issuers⟩⟩
  · rfl
  · rfl
  · dsimp only [chainValue]
    rw [List.filterMap_map]
    exact List.filterMap_some

variable {now : Nat} {anchors : TrustAnchors} {key : ReaderAuthKey} {leaf : Certificate}

theorem signatureFault?_sign (authentic : suite.IsAuthentic) (transcript : SessionTranscript)
    (itemsRequest : Embedded ItemsRequest) (chain : List Bytes)
    (publicKey_eq : leaf.publicKey suite = .ok (suite.publicKey key.privateKey)) :
  Iso.signatureFault? suite
      ⟨key.sign suite transcript itemsRequest, chain, itemsRequest, transcript⟩ leaf
    = none
  := by
  rw [Iso.signatureFault?, publicKey_eq]
  exact if_pos (authentic key.privateKey _)

/-- The signature of a reader that is trusted is accepted in the session that it was made in. -/
theorem IsTrusted.readerAuth_sign (authentic : suite.IsAuthentic)
    (trusted : key.IsTrusted suite now anchors leaf) (transcript : SessionTranscript)
    (itemsRequest : Embedded ItemsRequest) :
  Iso.readerAuth suite now
      ⟨key.sign suite transcript itemsRequest, key.x5chain, itemsRequest, transcript⟩ anchors
    = .passed leaf
  := by
  obtain ⟨first, head_eq, parse_eq⟩ := Option.bind_eq_some_iff.mp trusted.leaf_eq
  obtain ⟨anchor, verify_eq⟩ := trusted.trusted
  have faultless := signatureFault?_sign authentic transcript itemsRequest key.x5chain
    trusted.publicKey_eq
  rw [Iso.readerAuth]
  dsimp only
  rw [head_eq]
  dsimp only
  rw [parse_eq]
  dsimp only
  rw [faultless, verify_eq]
  rfl

end ReaderAuthKey

/-! ### The document requests -/

/-- A document request for `items` that a reader with `key` has signed over the transcript
`signed`, as a holder finds it in a session with the transcript `held`. -/
structure DocRequest.IsVouched (suite : CipherSuite) (now : Nat) (anchors : TrustAnchors)
    (key : ReaderAuthKey) (leaf : Certificate) (signed held : SessionTranscript)
    (items : ItemsRequest) (doc : DocRequest) : Prop where
  bytes_eq : doc.itemsRequest.bytes = Cbor.encode items
  vouched : ∃ signature, doc.readerAuth = some signature
    ∧ signature.x5chain = key.x5chain
    ∧ signature.proof = suite.sign key.privateKey (Cose.Message.toBeProven .signature
        signature.protectedHeader
        (taggedBytes (ReaderAuthentication.of signed doc.itemsRequest)))
    ∧ taggedBytes (ReaderAuthentication.of held doc.itemsRequest)
      = taggedBytes (ReaderAuthentication.of signed doc.itemsRequest)
    ∧ Iso.readerAuth suite now ⟨signature, signature.x5chain, doc.itemsRequest, held⟩ anchors
      = .passed leaf

theorem ReaderAuthKey.IsTrusted.isVouched (authentic : suite.IsAuthentic) {now : Nat}
    {anchors : TrustAnchors} {key : ReaderAuthKey} {leaf : Certificate}
    (trusted : key.IsTrusted suite now anchors leaf) (transcript : SessionTranscript)
    {items : ItemsRequest} {doc : DocRequest}
    (items_eq : Embedded.ofContent items = .ok doc.itemsRequest)
    (readerAuth_eq : doc.readerAuth = some (key.sign suite transcript doc.itemsRequest)) :
  doc.IsVouched suite now anchors key leaf transcript transcript items
  := by
  constructor
  case bytes_eq => exact Embedded.bytes_of_ofBytes items_eq
  case vouched =>
    have chain_eq := key.x5chain_sign suite transcript doc.itemsRequest
    refine ⟨_, readerAuth_eq, chain_eq, rfl, rfl, ?_⟩
    rw [chain_eq]
    exact trusted.readerAuth_sign authentic transcript doc.itemsRequest

/-! ### The request -/

/-- The holder reads a signed request as it was made. -/
theorem ReaderAuthKey.IsTrusted.decode_deviceRequest (authentic : suite.IsAuthentic) {now : Nat}
    {anchors : TrustAnchors} {key : ReaderAuthKey} {leaf : Certificate}
    (trusted : key.IsTrusted suite now anchors leaf) {r : ReaderSession}
    {requests : List ItemsRequest} {text : Bytes}
    (h : r.deviceRequest suite requests (some key) = .ok text)
    (short : text.length < Cbor.headCapacity) :
  ∃ request : DeviceRequest, Cbor.decode text = .ok request
    ∧ List.Forall₂ (DocRequest.IsVouched suite now anchors key leaf r.transcript r.transcript)
      requests request.docRequests.toList
  := by
  obtain ⟨request, rfl, hdocs⟩ := ReaderSession.deviceRequest_eq_ok h
  refine ⟨request, (request.survives ?_).decode_encode short, ?_⟩
  · intro doc hdoc readerAuth hreaderAuth
    obtain ⟨items, -, -, readerAuth_eq⟩ := exists_of_mem_of_forall₂ hdocs hdoc
    rw [readerAuth_eq, Option.map_some, Option.mem_some_iff] at hreaderAuth
    subst hreaderAuth
    exact key.survives_sign suite r.transcript doc.itemsRequest
  · apply hdocs.imp
    rintro items doc ⟨items_eq, readerAuth_eq⟩
    exact trusted.isVouched authentic r.transcript items_eq readerAuth_eq

/-! ### The prompt -/

namespace Session

variable {η κ : Type}

/-- A request that is received is shown to the user, together with the judgement of its
signature. -/
theorem Step.asks {setup : Setup η κ} {s s' : Session η κ} {event : Event} {followUps : List Event}
    {request : DeviceRequest} {state : κ} (received : IsReceived setup s event request state)
    (step : Step setup s event followUps s') (status_eq : s.status = .started)
    (ends : s'.status = .requestReceived ∨ s'.status = .error) :
  ∃ added readerAuth, s'.trace = s.trace ++ added
    ∧ judgeReader setup (.established state) request = .ok readerAuth
    ∧ .prompt (promptFor setup.credentials request.itemsRequests readerAuth) (s.cycle + 1) ∈ added
  := by
  obtain ⟨value, payload, establishment, engagement, derived, text, rfl, parse_eq, read_eq,
    derive_eq, decrypt_eq, decode_eq⟩ := received
  have opening := opening_of_readEstablishment read_eq
  rcases step.of_last status_eq parse_eq ends with
    ⟨e, supply, actions, fault, called⟩
      | ⟨_, _, _, _, _, _, readerAuth, read_eq', derive_eq', decrypt_eq', decode_eq', judge_eq, -,
        trace_eq⟩
  · -- whatever fails is reported, but there is nothing to report of a request that can be read
    have engaged : s.engagement.isSome := by
      rw [opening.held_eq]
      rfl
    obtain ⟨status, diagnosis, -⟩ := fault.reports engaged parse_eq called
    exact (Readable.not_diagnosis (.request opening derive_eq decrypt_eq decode_eq)
      diagnosis).elim
  · cases read_eq.symm.trans read_eq'
    cases derive_eq.symm.trans derive_eq'
    cases decrypt_eq.symm.trans decrypt_eq'
    cases decode_eq.symm.trans decode_eq'
    refine ⟨_, readerAuth, trace_eq, judge_eq, ?_⟩
    simp

/-- When all fragments of a message have come, the request in it is shown to the user. -/
theorem exists_prompt {setup : Setup η κ} {s : Session η κ} {message text : Bytes}
    {establishment : SessionEstablishment} {e : Engagement} {state state' : κ}
    {request : DeviceRequest} (nonempty : message ≠ []) (status_eq : s.status = .started)
    (reassembly_eq : s.reassembly = [])
    (read_eq : readEstablishment message s.engagement = .ok (establishment, e))
    (derive_eq : setup.provider.derive establishment e .qr = .ok state)
    (decrypt_eq : setup.provider.decrypt establishment.data state = (.ok text, state'))
    (decode_eq : Cbor.decode text = .ok request) (block : BlockSize) :
  ∃ added readerAuth,
    ((Fragment.frame message block).foldl
      (fun s fragment => (s.apply setup (.write .client2Server fragment)).2.2) s).trace
        = s.trace ++ added
    ∧ judgeReader setup (.established state') request = .ok readerAuth
    ∧ .prompt (promptFor setup.credentials request.itemsRequests readerAuth) (s.cycle + 1) ∈ added
  := by
  obtain ⟨before, last, payload, gathered, frame_eq, parse_eq, whole, folded⟩ :=
    exists_gathered setup (Fragment.carries_frame message block nonempty) status_eq
  rw [reassembly_eq, List.nil_append] at whole
  have started : { s with reassembly := gathered }.status = .started := status_eq
  have received : IsReceived setup { s with reassembly := gathered }
      (.write .client2Server last) request state' := by
    refine ⟨last, payload, establishment, e, state, text, rfl, parse_eq, ?_, derive_eq,
      decrypt_eq, decode_eq⟩
    dsimp only
    rw [whole]
    exact read_eq
  have step := apply_step setup (.write .client2Server last) { s with reassembly := gathered }
  have asked := step.asks received started (status_of_last setup started parse_eq)
  rw [frame_eq, List.foldl_append, folded]
  exact asked

/-- If every signature in a request is accepted, the user is told so. -/
theorem passed_of_judgeReader {setup : Setup η Iso.Encryption} {now : Nat}
    {anchors : TrustAnchors} {key : ReaderAuthKey} {leaf : Certificate}
    {signed : SessionTranscript} {state : Iso.Encryption} {requests : List ItemsRequest}
    {request : DeviceRequest} {readerAuth : Option ReaderAuthOutcome}
    (provider_eq : setup.provider = Iso.provider suite now) (anchors_eq : setup.anchors = anchors)
    (vouched : List.Forall₂
      (DocRequest.IsVouched suite now anchors key leaf signed state.transcript)
      requests request.docRequests.toList)
    (h : judgeReader setup (.established state) request = .ok readerAuth) :
  readerAuth = some (.passed leaf)
  := by
  obtain ⟨unjudged_iff, judged⟩ := judgeReader_eq_ok h
  cases readerAuth with
  | none =>
    have unsigned := unjudged_iff.mp rfl
    obtain ⟨doc, hdoc⟩ := List.exists_mem_of_ne_nil _ request.docRequests.ne_nil
    obtain ⟨items, -, -, signature, signed_eq, -⟩ := exists_of_mem_of_forall₂ vouched hdoc
    rw [unsigned doc hdoc] at signed_eq
    cases signed_eq
  | some outcome =>
    obtain ⟨before, doc, after, signature, docs_eq, -, signed_eq, rfl⟩ := judged outcome rfl
    have hdoc : doc ∈ request.docRequests.toList := by
      rw [docs_eq]
      exact List.mem_append_right before List.mem_cons_self
    obtain ⟨items, -, -, signature', signed_eq', -, -, -, passed⟩ :=
      exists_of_mem_of_forall₂ vouched hdoc
    cases signed_eq.symm.trans signed_eq'
    rw [provider_eq, anchors_eq]
    exact congrArg some passed

end Session

/-! ### Both sides -/

/-- What the holder of an engagement makes of `message`, in which a reader with `key` asks for
`requests`, signed over the transcript `signed`. -/
structure IsVerified (suite : CipherSuite) (now : Nat) (anchors : TrustAnchors)
    (key : ReaderAuthKey) (leaf : Certificate) (e : Engagement) (signed : SessionTranscript)
    (requests : List ItemsRequest) (message : Bytes) : Prop where
  /-- However the message is cut, it is put together again. -/
  reassembles : ∀ block, Fragment.reassemble? (Fragment.frame message block) = .ok (some message)
  /-- The document requests in it are those that were signed, and every signature is accepted. -/
  vouched : ∃ (establishment : SessionEstablishment) (state state' : Iso.Encryption)
    (text : Bytes) (request : DeviceRequest), Cbor.decode message = .ok establishment
    ∧ Iso.derive suite establishment e .qr = .ok state
    ∧ Iso.decrypt suite establishment.data state = (.ok text, state')
    ∧ Cbor.decode text = .ok request
    ∧ List.Forall₂ (DocRequest.IsVouched suite now anchors key leaf signed state'.transcript)
      requests request.docRequests.toList
  /-- When a session has received it, the user is shown that the reader is genuine. -/
  shown : ∀ {η : Type} (setup : Setup η Iso.Encryption) (s : Session η Iso.Encryption)
    (block : BlockSize), setup.provider = Iso.provider suite now → setup.anchors = anchors →
      s.status = .started → s.reassembly = [] → s.engagement = some e →
        ∃ added prompt cycle,
          ((Fragment.frame message block).foldl
            (fun s fragment => (s.apply setup (.write .client2Server fragment)).2.2) s).trace
              = s.trace ++ added
          ∧ .prompt prompt cycle ∈ added
          ∧ prompt.readerAuth = some (.passed leaf)

section

variable {now : Nat} {anchors : TrustAnchors} {e : Engagement} {privateKey : PrivateKey}
  {r₀ r : ReaderSession} {key : ReaderAuthKey} {leaf : Certificate}
  {requests : List ItemsRequest} {text message : Bytes}

theorem ReaderAuthKey.IsTrusted.isVerified (sound : suite.IsSound) (available : suite.IsAvailable)
    (authentic : suite.IsAuthentic) (genuine : e.IsGenuine suite)
    (hr : ReaderSession.of suite privateKey e.deviceEngagement = .ok r₀)
    (trusted : key.IsTrusted suite now anchors leaf)
    (request_eq : r₀.deviceRequest suite requests (some key) = .ok text)
    (message_eq : r₀.establishment suite text = (.ok message, r)) :
  IsVerified suite now anchors key leaf e r₀.transcript requests message
  := by
  have nonempty := ReaderSession.establishment_ne_nil message_eq
  obtain ⟨data, state, state', decode_eq, derive_eq, -, decrypt_eq, mirrors, encrypt_eq, r_eq⟩ :=
    ReaderSession.exists_opened sound available genuine hr message_eq
  have transcript_eq : state'.transcript = r₀.transcript := by
    rw [mirrors.transcript_eq, r_eq]
  have short : text.length < Cbor.headCapacity :=
    Nat.lt_of_le_of_lt (SessionKey.length_of_encrypt sound encrypt_eq).1 (by decide)
  obtain ⟨request, read_eq, vouched⟩ := trusted.decode_deviceRequest authentic request_eq short
  constructor
  case reassembles => exact Fragment.reassemble?_frame nonempty
  case vouched =>
    refine ⟨_, state, state', text, request, decode_eq, derive_eq, decrypt_eq, read_eq, ?_⟩
    rw [transcript_eq]
    exact vouched
  case shown =>
    intro η setup s block provider_eq anchors_eq status_eq reassembly_eq engagement_eq
    have established : Session.readEstablishment message s.engagement
        = .ok (⟨some r₀.transcript.readerKey, data⟩, e) := by
      rw [Session.readEstablishment, decode_eq, engagement_eq]
      rfl
    have derived : setup.provider.derive ⟨some r₀.transcript.readerKey, data⟩ e .qr
        = .ok state := by
      rw [provider_eq]
      exact derive_eq
    have decrypted : setup.provider.decrypt data state = (.ok text, state') := by
      rw [provider_eq]
      exact decrypt_eq
    obtain ⟨added, readerAuth, trace_eq, judge_eq, prompted⟩ :=
      Session.exists_prompt nonempty status_eq reassembly_eq established derived decrypted
        read_eq block
    rw [← transcript_eq] at vouched
    have passed := Session.passed_of_judgeReader provider_eq anchors_eq vouched judge_eq
    exact ⟨added, _, _, trace_eq, prompted, passed⟩

end

/-- A genuine signature is accepted: if a reader signs its requests with the key of a certificate
that is trusted, the holder finds the same certificates and the same bytes under every signature,
and judges every signature to be genuine. -/
theorem deviceRequest_isVerified (sound : suite.IsSound) (available : suite.IsAvailable)
    (authentic : suite.IsAuthentic) {now : Nat} {anchors : TrustAnchors} {e : Engagement}
    {privateKey : PrivateKey} {r₀ : ReaderSession} {key : ReaderAuthKey} {leaf : Certificate}
    (genuine : e.IsGenuine suite)
    (hr : ReaderSession.of suite privateKey e.deviceEngagement = .ok r₀)
    (trusted : key.IsTrusted suite now anchors leaf) (requests : List ItemsRequest) :
  (requests ≠ [] →
      (∀ request ∈ requests, request.IsReadable 253
        ∧ (Cbor.encode request).length < Cbor.headCapacity) →
      ∃ text, r₀.deviceRequest suite requests (some key) = .ok text)
    ∧ ∀ text, r₀.deviceRequest suite requests (some key) = .ok text →
      (text.length ≤ Gcm.maxText → ∃ message r, r₀.establishment suite text = (.ok message, r))
      ∧ ∀ message r, r₀.establishment suite text = (.ok message, r) →
        IsVerified suite now anchors key leaf e r₀.transcript requests message
  := by
  constructor
  · exact r₀.exists_deviceRequest (some key)
  · intro text request_eq
    constructor
    · exact ReaderSession.exists_establishment sound available hr
    · intro message r message_eq
      exact trusted.isVerified sound available authentic genuine hr request_eq message_eq

/-! ### A reader with a certificate -/

open Der (ObjectIdentifier)
open Session (nameRequest)

/-- The name of an algorithm. -/
def plainAlgorithm : Bytes :=
  Der.encode Der.Tag.sequence (ObjectIdentifier.ofArcs [1, 2, 840, 10045, 4, 3, 2]).encode

/-- A name with a single part. -/
def plainName (name : String) : Bytes :=
  Der.encode Der.Tag.sequence (Der.encode Der.Tag.set (Der.encode Der.Tag.sequence
    ((ObjectIdentifier.ofArcs [2, 5, 4, 3]).encode
      ++ Der.encode Der.Tag.utf8String (Bytes.ofText name))))

/-- What a certificate says of the first private key. -/
def plainBody (issuer subject : String) : Bytes :=
  let time (text : String) := Der.encode Der.Tag.utcTime (Bytes.ofText text)
  Der.encode Der.Tag.sequence
    (Der.encode Der.Tag.integer [1] ++ plainAlgorithm ++ plainName issuer
      ++ Der.encode Der.Tag.sequence (time "700101000000Z" ++ time "491231235959Z")
      ++ plainName subject
      ++ Der.encode Der.Tag.sequence (plainAlgorithm ++ Der.encode Der.Tag.bitString [0, 1]))

/-- A certificate for the first private key, which has also signed it. -/
def plainCertificate (issuer subject : String) : Bytes :=
  let body := plainBody issuer subject
  let signature := Der.encode Der.Tag.sequence
    (Der.encode Der.Tag.integer [1] ++ Der.encode Der.Tag.integer (body.drop (body.length - 32)))
  Der.encode Der.Tag.sequence
    (body ++ plainAlgorithm ++ Der.encode Der.Tag.bitString (0 :: signature))

/-- A reader with two certificates. -/
def rootedKey : ReaderAuthKey :=
  ⟨default, [plainCertificate "root" "reader", plainCertificate "root" "root"]⟩

/-- The second certificate, which is trusted. -/
def rootAnchors : TrustAnchors :=
  ⟨(Certificate.ofBytes? (plainCertificate "root" "root")).toList⟩

/-- Whether a certificate is for the key of the reader, and trusted. -/
def isRooted (leaf : Certificate) : Bool :=
  (leaf.publicKey .certified).toOption
      == some (CipherSuite.certified.publicKey rootedKey.privateKey)
    && (rootAnchors.verify .certified 0 leaf).toOption.isSome

theorem rootedKey_isTrusted {leaf : Certificate}
    (leaf_eq : rootedKey.x5chain.head?.bind Certificate.ofBytes? = some leaf)
    (rooted : isRooted leaf) :
  rootedKey.IsTrusted .certified 0 rootAnchors leaf
  := by
  rw [isRooted, Bool.and_eq_true, beq_iff_eq] at rooted
  obtain ⟨anchor, hanchor⟩ := Option.isSome_iff_exists.mp rooted.2
  exact ⟨leaf_eq, Except.toOption_eq_some_iff.mp rooted.1, anchor,
    Except.toOption_eq_some_iff.mp hanchor⟩

/-- Whether a reader asks for the name in a short text. -/
def asksBriefly (r : ReaderSession) : Bool :=
  (r.deviceRequest .certified [nameRequest] (some rootedKey)).toOption.any
    (fun text => decide (text.length ≤ Gcm.maxText))

/-- The signature of the reader with two certificates is accepted. -/
theorem deviceRequest_isVerified_name :
  ∃ e r₀ leaf text message r, e.IsGenuine .certified
    ∧ ReaderSession.of .certified default e.deviceEngagement = .ok r₀
    ∧ rootedKey.IsTrusted .certified 0 rootAnchors leaf
    ∧ r₀.deviceRequest .certified [nameRequest] (some rootedKey) = .ok text
    ∧ r₀.establishment .certified text = (.ok message, r)
    ∧ IsVerified .certified 0 rootAnchors rootedKey leaf e r₀.transcript [nameRequest] message
  := by
  have outcome : (rootedKey.x5chain.head?.bind Certificate.ofBytes?).any isRooted
      ∧ (ReaderSession.meeting? .certified default default (.ofNat 1)).any
        (fun met => asksBriefly met.2) := by
    decide +kernel
  obtain ⟨rooted, brief⟩ := outcome
  obtain ⟨leaf, leaf_eq, rooted⟩ := (Option.any_eq_true _ _).mp rooted
  obtain ⟨⟨e, r₀⟩, hmet, brief⟩ := (Option.any_eq_true _ _).mp brief
  obtain ⟨text, htext, brief⟩ := (Option.any_eq_true _ _).mp brief
  obtain ⟨he, hr⟩ := ReaderSession.of_meeting? hmet
  have genuine := Engagement.isGenuine_of_of CipherSuite.isSound_certified he
  have trusted := rootedKey_isTrusted leaf_eq rooted
  have text_eq := Except.toOption_eq_some_iff.mp htext
  obtain ⟨-, verified⟩ := deviceRequest_isVerified CipherSuite.isSound_certified
    CipherSuite.isAvailable_certified CipherSuite.isAuthentic_certified genuine hr trusted
    [nameRequest]
  obtain ⟨sends, verified⟩ := verified text text_eq
  obtain ⟨message, r, message_eq⟩ := sends (of_decide_eq_true brief)
  exact ⟨e, r₀, leaf, text, message, r, genuine, hr, trusted, text_eq, message_eq,
    verified message r message_eq⟩

end Presentment
