import Presentment.Proofs.Transfer.Consent

/-!
# What a prompt says of the reader

A request may hold several document requests, and each may be signed.  The prompt shows what
all of them ask for together, and one judgement: that of the first signature.  So a judgement
vouches for one document request, and the user may be shown elements that only others ask for.
-/

namespace Presentment

/-- Whether a document request asks for an element. -/
def DocRequest.AsksFor (doc : DocRequest) (docType ns identifier : String) : Prop :=
  doc.itemsRequest.content.docType = docType
    ∧ ∃ elements retain, (ns, elements) ∈ doc.itemsRequest.content.namespaces.entries
      ∧ (identifier, retain) ∈ elements.entries

theorem DeviceRequest.mem_asked_iff {request : DeviceRequest} {docType ns identifier : String} :
  identifier ∈ Disclosure.asked request.itemsRequests docType ns
    ↔ ∃ doc ∈ request.docRequests.toList, doc.AsksFor docType ns identifier
  := by
  simp only [Disclosure.mem_asked_iff, DeviceRequest.itemsRequests, List.mem_map,
    exists_exists_and_eq_and]
  rfl

/-- Whether a prompt shows an element, held or not. -/
def Prompt.Shows (p : Prompt) (docType ns identifier : String) : Prop :=
  p.validItems.Lists docType ns identifier ∨ p.errorItems.Lists docType ns identifier

/-- A prompt for a request of a reader, in a session with a transcript. -/
structure Prompt.IsFor {κ : Type} (p : Prompt) (provider : SecurityProvider κ)
    (anchors : TrustAnchors) (transcript : SessionTranscript) (request : DeviceRequest) :
    Prop where
  /-- There is a judgement if something is signed. -/
  unjudged_iff : p.readerAuth = none
    ↔ ∀ doc ∈ request.docRequests.toList, doc.readerAuth = none
  /-- It is the judgement of the first signature, over the items request that it signs; what is
  shown is asked for there or elsewhere in the same request. -/
  judged : ∀ outcome ∈ p.readerAuth, ∃ before doc after signature,
    request.docRequests.toList = before ++ doc :: after
      ∧ (∀ other ∈ before, other.readerAuth = none)
      ∧ doc.readerAuth = some signature
      ∧ outcome = provider.readerAuth
          ⟨signature, signature.x5chain, doc.itemsRequest, transcript⟩ anchors
      ∧ ∀ docType ns identifier, p.Shows docType ns identifier →
        doc.AsksFor docType ns identifier
          ∨ ∃ other ∈ before ++ after, other.AsksFor docType ns identifier

namespace Session

variable {η κ : Type}

/-- The reader is judged by its first signature. -/
theorem judgeReader_eq_ok {setup : Setup η κ} {state : κ} {request : DeviceRequest}
    {readerAuth : Option ReaderAuthOutcome}
    (h : judgeReader setup (.established state) request = .ok readerAuth) :
  (readerAuth = none ↔ ∀ doc ∈ request.docRequests.toList, doc.readerAuth = none)
    ∧ ∀ outcome ∈ readerAuth, ∃ before doc after signature,
      request.docRequests.toList = before ++ doc :: after
        ∧ (∀ other ∈ before, other.readerAuth = none)
        ∧ doc.readerAuth = some signature
        ∧ outcome = setup.provider.readerAuth
          ⟨signature, signature.x5chain, doc.itemsRequest, setup.provider.transcript state⟩
          setup.anchors
  := by
  rw [judgeReader] at h
  dsimp only at h
  split at h
  · rename_i hsigned
    cases h
    constructor
    · simpa [List.findSome?_eq_none_iff] using hsigned
    · intro outcome houtcome
      cases houtcome
  · rename_i itemsRequest signature hsigned
    cases h
    obtain ⟨before, doc, after, hlist, hdoc, hbefore⟩ := List.findSome?_eq_some_iff.mp hsigned
    obtain ⟨_, hauth, heq⟩ := Option.map_eq_some_iff.mp hdoc
    cases heq
    constructor
    · constructor
      · intro hnone
        cases hnone
      · intro hunsigned
        have hmem : doc ∈ request.docRequests.toList := by
          rw [hlist]
          exact List.mem_append_right before List.mem_cons_self
        rw [hunsigned doc hmem] at hauth
        cases hauth
    · rintro outcome houtcome
      cases houtcome
      refine ⟨before, doc, after, signature, hlist, ?_, hauth, rfl⟩
      intro other hother
      simpa using hbefore other hother

/-- A message of the reader completes a request, which is read in the session encryption
`state`. -/
def IsReceived (setup : Setup η κ) (s : Session η κ) (event : Event) (request : DeviceRequest)
    (state : κ) : Prop :=
  ∃ value payload establishment engagement derived text,
    event = .write .client2Server value
      ∧ Fragment.parse value = .ok (.last, payload)
      ∧ readEstablishment (s.reassembly ++ payload) s.engagement = .ok (establishment, engagement)
      ∧ setup.provider.derive establishment engagement .qr = .ok derived
      ∧ setup.provider.decrypt establishment.data derived = (.ok text, state)
      ∧ Cbor.decode text = .ok request

/-- The prompt for items requests of a reader that was judged. -/
theorem promptFor_isFor {setup : Setup η κ} {state : κ} {request : DeviceRequest}
    {readerAuth : Option ReaderAuthOutcome}
    (h : judgeReader setup (.established state) request = .ok readerAuth) :
  (promptFor setup.credentials request.itemsRequests readerAuth).IsFor setup.provider
    setup.anchors (setup.provider.transcript state) request
  := by
  obtain ⟨unjudged_iff, judged⟩ := judgeReader_eq_ok h
  constructor
  case unjudged_iff => exact unjudged_iff
  case judged =>
    intro outcome houtcome
    obtain ⟨before, doc, after, signature, hlist, hbefore, hauth, heq⟩ := judged outcome houtcome
    use before, doc, after, signature, hlist, hbefore, hauth, heq
    intro docType ns identifier hshows
    obtain ⟨other, hother, hasks⟩ :=
      DeviceRequest.mem_asked_iff.mp (Disclosure.mem_asked_of_lists hshows)
    rw [hlist] at hother
    rcases List.mem_append.mp hother with hother | hother
    · exact .inr ⟨other, List.mem_append_left after hother, hasks⟩
    · rcases List.mem_cons.mp hother with rfl | hother
      · exact .inl hasks
      · exact .inr ⟨other, List.mem_append_right before hother, hasks⟩

/-- Only a step that asks the user adds a prompt, for the request that it has read. -/
theorem Step.isFor {setup : Setup η κ} {s s' : Session η κ} {event : Event}
    {followUps : List Event} {added : List Action} {prompt : Prompt} {cycle : Nat}
    (step : Step setup s event followUps s') (trace_eq : s'.trace = s.trace ++ added)
    (hprompt : .prompt prompt cycle ∈ added) :
  ∃ request state, IsReceived setup s event request state
    ∧ prompt.IsFor setup.provider setup.anchors (setup.provider.transcript state) request
  := by
  have hgate : .prompt prompt cycle ∈ gates added := mem_gates_iff.mpr ⟨hprompt, rfl⟩
  have unasked (actions : List Action) (took : Took setup actions s s')
      (hnot : .prompt prompt cycle ∉ gates actions) : False := by
    rw [List.append_cancel_left (took.trace_eq.symm.trans trace_eq)] at hnot
    exact hnot hgate
  cases step with
  | stay | subscribe | unsubscribe | gather =>
    exact (unasked [] ⟨rfl, (List.append_nil _).symm, (List.append_nil _).symm⟩
      List.not_mem_nil).elim
  | fail fault called =>
    apply (unasked _ (called.tookFrom rfl rfl rfl) _).elim
    rw [fault.gates_eq]
    exact List.not_mem_nil
  | leave _ called | setUp _ _ called | advertise _ _ _ called | connect _ _ called
  | start _ called | sendMore _ _ called | finish _ called | recover _ called
  | respond _ _ _ _ _ _ _ _ _ called =>
    apply (unasked _ (called.tookFrom rfl rfl rfl) _).elim
    simp [Action.isGate]
  | ask status_eq parse_eq read_eq derive_eq decrypt_eq decode_eq judge_eq called =>
    have took : Took setup _ s s' := called.tookFrom rfl rfl rfl
    have added_eq := List.append_cancel_left (took.trace_eq.symm.trans trace_eq)
    rw [← added_eq] at hgate
    simp only [gates_append, gates_cons, Action.isGate, gates_stops, gates_nil,
      Bool.false_eq_true, if_false, if_true, List.nil_append, List.mem_singleton] at hgate
    cases hgate
    exact ⟨_, _, ⟨_, _, _, _, _, _, rfl, parse_eq, read_eq, derive_eq, decrypt_eq, decode_eq⟩,
      promptFor_isFor judge_eq⟩

/-- Every prompt is for a request that was received: its judgement, if there is one, is that of
the first signature in the request, and everything that it shows is asked for by some document
request. -/
theorem prompt_isFor {setup : Setup η κ} {s : Session η κ} {event : Event} {added : List Action}
    {prompt : Prompt} {cycle : Nat} (trace_eq : (s.apply setup event).2.2.trace = s.trace ++ added)
    (hprompt : .prompt prompt cycle ∈ added) :
  ∃ request state, IsReceived setup s event request state
    ∧ prompt.IsFor setup.provider setup.anchors (setup.provider.transcript state) request
  := (apply_step setup event s).isFor trace_eq hprompt

/-! ### A request that is signed in part -/

/-- A wallet with a document with a name, in which every signature is found to be genuine. -/
def trustingWallet : Setup Radio Plain.Encryption :=
  { nameWallet with provider := Plain.provider { validated := true } }

/-- A request for a document that is not held, which is signed, and for the name, which is
not. -/
def mixedRequest : Except Refusal DeviceRequest := do
  let signed ← Embedded.ofContent { nameRequest with docType := "other" }
  let unsigned ← Embedded.ofContent nameRequest
  return ⟨DeviceRequest.currentVersion,
    [⟨signed, some ⟨⟨[], .empty⟩, .empty, none, []⟩⟩, ⟨unsigned, none⟩], List.cons_ne_nil _ _⟩

/-- The request as the first message of a reader. -/
def mixedMessage : Except Refusal Bytes := do
  let readerKey ← Embedded.ofContent (CipherSuite.transparent.publicKey default)
  return Cbor.encode
    (⟨some readerKey, 0xD0 :: 0x01 :: Cbor.encode (← mixedRequest)⟩ : SessionEstablishment)

/-- The last fragment of the request. -/
def mixedEvent : Event :=
  .write .client2Server (0x00 :: mixedMessage.toOption.getD [])

/-- A session to which the reader is about to send the request. -/
def mixedStarted : Session Radio Plain.Encryption :=
  [.setUp, .transportState .ready, .subscribed .state, .subscribed .server2Client,
      .write .state Channel.startMarker].foldl
    (fun s event => (s.apply trustingWallet event).2.2)
    (.fresh ⟨fun _ => default, fun _ => .ofNat 1, 0, 0⟩ {})

/-- Whether a prompt with a good judgement that shows the name is told. -/
def tellsOfName : Action → Bool
  | .prompt prompt _ => prompt.readerAuth.any (·.validated)
      && (prompt.validItems.listed "doc" "ns").any (·.contains "name")
  | _ => false

/-- Whether no signature vouches for the document with the name. -/
def isUnsigned (request : DeviceRequest) : Bool :=
  request.docRequests.toList.all (fun doc =>
    doc.readerAuth.isNone || doc.itemsRequest.content.docType != "doc")

/-- The user is told that the reader is genuine, and is shown the name. -/
theorem mixed_prompt :
  ∃ added prompt cycle,
    (mixedStarted.apply trustingWallet mixedEvent).2.2.trace = mixedStarted.trace ++ added
    ∧ .prompt prompt cycle ∈ added
    ∧ prompt.readerAuth.any (·.validated)
    ∧ prompt.Shows "doc" "ns" "name"
  := by
  obtain ⟨added, took⟩ := (apply_step trustingWallet mixedEvent mixedStarted).took
  have told : mixedStarted.trace.all (!·.isGate)
      ∧ (mixedStarted.apply trustingWallet mixedEvent).2.2.trace.any tellsOfName := by
    decide +kernel
  obtain ⟨untold, htold⟩ := told
  obtain ⟨action, haction, htells⟩ := List.any_eq_true.mp htold
  rw [took.trace_eq] at haction
  cases action with
  | prompt prompt cycle =>
    rw [tellsOfName, Bool.and_eq_true] at htells
    obtain ⟨identifiers, hlisted, hmem⟩ := (Option.any_eq_true _ _).mp htells.2
    use added, prompt, cycle, took.trace_eq
    constructor
    · apply (List.mem_append.mp haction).resolve_left
      intro hearlier
      have ungated := List.all_eq_true.mp untold _ hearlier
      cases ungated
    · exact ⟨htells.1, .inl ⟨identifiers, hlisted, List.contains_iff_mem.mp hmem⟩⟩
  | _ => cases htells

/-- The request is received, and nobody vouches for the document with the name. -/
theorem mixed_isReceived :
  ∃ request state, IsReceived trustingWallet mixedStarted mixedEvent request state
    ∧ isUnsigned request
  := by
  have read : (readEstablishment (mixedStarted.reassembly ++ mixedMessage.toOption.getD [])
        mixedStarted.engagement).toOption.any (fun read =>
      (trustingWallet.provider.derive read.1 read.2 .qr).toOption.any (fun derived =>
        (trustingWallet.provider.decrypt read.1.data derived).1.toOption.any (fun text =>
          (Cbor.decode text : Except Refusal DeviceRequest).toOption.any isUnsigned))) := by
    decide +kernel
  obtain ⟨⟨establishment, engagement⟩, hread, hderived⟩ := (Option.any_eq_true _ _).mp read
  obtain ⟨derived, hderive, hdecrypted⟩ := (Option.any_eq_true _ _).mp hderived
  obtain ⟨text, hdecrypt, hdecoded⟩ := (Option.any_eq_true _ _).mp hdecrypted
  obtain ⟨request, hdecode, unsigned⟩ := (Option.any_eq_true _ _).mp hdecoded
  refine ⟨request, (trustingWallet.provider.decrypt establishment.data derived).2, ?_, unsigned⟩
  refine ⟨_, mixedMessage.toOption.getD [], establishment, engagement, derived, text, rfl, rfl,
    Except.toOption_eq_some_iff.mp hread, Except.toOption_eq_some_iff.mp hderive, ?_,
    Except.toOption_eq_some_iff.mp hdecode⟩
  rw [← Except.toOption_eq_some_iff.mp hdecrypt]

/-- The user is told that the reader is genuine, though nobody genuine has asked for the name
that is shown. -/
theorem prompt_shows_unsigned :
  ∃ request state added prompt cycle,
    Reached trustingWallet mixedStarted
    ∧ IsReceived trustingWallet mixedStarted mixedEvent request state
    ∧ (mixedStarted.apply trustingWallet mixedEvent).2.2.trace = mixedStarted.trace ++ added
    ∧ .prompt prompt cycle ∈ added
    ∧ prompt.readerAuth.any (·.validated)
    ∧ prompt.Shows "doc" "ns" "name"
    ∧ ¬∃ doc ∈ request.docRequests.toList, ∃ signature, doc.readerAuth = some signature
      ∧ (trustingWallet.provider.readerAuth ⟨signature, signature.x5chain, doc.itemsRequest,
        trustingWallet.provider.transcript state⟩ trustingWallet.anchors).validated
      ∧ doc.AsksFor "doc" "ns" "name"
  := by
  obtain ⟨request, state, received, unsigned⟩ := mixed_isReceived
  obtain ⟨added, prompt, cycle, trace_eq, hprompt, validated, shows⟩ := mixed_prompt
  refine ⟨request, state, added, prompt, cycle, Reached.foldl (.fresh _ _) _, received, trace_eq,
    hprompt, validated, shows, ?_⟩
  rintro ⟨doc, hdoc, signature, hsigned, -, docType_eq, -⟩
  have hunsigned := List.all_eq_true.mp unsigned doc hdoc
  rw [hsigned, docType_eq] at hunsigned
  cases hunsigned

/-- The prompt for the request that is signed in part. -/
theorem prompt_isFor_mixed :
  ∃ added prompt cycle,
    (mixedStarted.apply trustingWallet mixedEvent).2.2.trace = mixedStarted.trace ++ added
    ∧ .prompt prompt cycle ∈ added
    ∧ prompt.readerAuth.any (·.validated)
    ∧ ∃ request state, IsReceived trustingWallet mixedStarted mixedEvent request state
      ∧ prompt.IsFor trustingWallet.provider trustingWallet.anchors
        (trustingWallet.provider.transcript state) request
  := by
  obtain ⟨added, prompt, cycle, trace_eq, hprompt, validated, -⟩ := mixed_prompt
  exact ⟨added, prompt, cycle, trace_eq, hprompt, validated, prompt_isFor trace_eq hprompt⟩

end Session

end Presentment
