import Presentment.Proofs.Transfer.Consent
import Presentment.Proofs.Verifier.Presentation

/-!
# Delivery

In a run of a presentation the reader writes the fragments of its message, in order, while
other events are handled, the radio takes or refuses what it is offered, and events are posted.
When the session has sent its response, the reader has received exactly what the user
discloses.
-/

namespace Presentment.Presentation

variable {η : Type} {p : Presentation η} {fragments fragments' : List Bytes}
  {s s' : Session η Iso.Encryption} {event : Event}

/-! ### Runs -/

/-- The session after the reader has written all of `written` but `fragments`, while other
events were handled, things happened to the host and events were posted. -/
inductive Run (p : Presentation η) (written : List Bytes) :
    List Bytes → Session η Iso.Encryption → Prop
  | start : Run p written written p.start
  | write {fragment : Bytes} {fragments : List Bytes} {fuel : Nat}
      {acknowledgement : Acknowledgement} {s s' : Session η Iso.Encryption} :
      Run p written (fragment :: fragments) s →
        s.handle p.setup fuel (.write .client2Server fragment) = some (acknowledgement, s') →
          Run p written fragments s'
  | handle {fragments : List Bytes} {fuel : Nat} {event : Event}
      {acknowledgement : Acknowledgement} {s s' : Session η Iso.Encryption} :
      Run p written fragments s → p.Expects event →
        s.handle p.setup fuel event = some (acknowledgement, s') → Run p written fragments s'
  | handlePosted {fragments : List Bytes} {fuel : Nat} {s s' : Session η Iso.Encryption} :
      Run p written fragments s → s.handlePosted p.setup fuel = some s' → Run p written fragments s'
  | outside {fragments : List Bytes} {s : Session η Iso.Encryption} (host : η)
      (posted : List Event) :
      Run p written fragments s → p.polite host → (∀ event ∈ posted, p.Expects event) →
        Run p written fragments { s with host := host, posted := posted }

/-- The reader may write several fragments one after the other. -/
theorem Run.writes {written fragments rest : List Bytes} {fuel : Nat}
    (run : p.Run written (fragments ++ rest) s)
    (heq : fragments.foldlM (fun s fragment =>
      (s.handle p.setup fuel (.write .client2Server fragment)).map (·.2)) s = some s') :
  p.Run written rest s'
  := by
  induction fragments generalizing s with
  | nil =>
    cases heq
    exact run
  | cons fragment fragments ih =>
    rw [List.foldlM_cons] at heq
    obtain ⟨s₁, hwrite, hrest⟩ := Option.bind_eq_some_iff.mp heq
    obtain ⟨⟨acknowledgement, _⟩, handle_eq, rfl⟩ := Option.map_eq_some_iff.mp hwrite
    exact ih (run.write handle_eq) hrest

/-- A preview does nothing. -/
theorem Run.status_eq_of_preview {written : List Bytes} (opened : p.IsOpened)
    (run : p.Run written fragments s) (preview : p.setup.config.preview) :
  s.status = .started
  := by
  induction run with
  | start => exact opened.status_eq
  | write _ heq ih | handle _ _ heq ih =>
    rw [Session.handle, if_pos preview] at heq
    cases heq
    exact ih
  | handlePosted _ heq ih =>
    rw [Session.handlePosted, if_pos preview] at heq
    cases heq
    exact ih
  | outside _ _ _ _ _ ih => exact ih

theorem Holds.handle {fuel : Nat} {acknowledgement : Acknowledgement} (reliable : p.IsReliable)
    (opened : p.IsOpened) (live : ¬p.setup.config.preview) (h : p.Holds fragments [] s)
    (admits : p.Admits s fragments event fragments')
    (heq : s.handle p.setup fuel event = some (acknowledgement, s')) :
  p.Holds fragments' [] s'
  := by
  rw [Session.handle, if_neg live, Option.map_eq_some_iff] at heq
  obtain ⟨_, hdrain, hpair⟩ := heq
  cases hpair
  exact (h.apply reliable opened admits).drain reliable opened hdrain

/-- Between two calls the session holds what its phase calls for. -/
theorem Run.holds {written : List Bytes} (reliable : p.IsReliable) (opened : p.IsOpened)
    (live : ¬p.setup.config.preview) (carries : Fragment.Carries written p.message)
    (run : p.Run written fragments s) :
  p.Holds fragments [] s
  := by
  induction run with
  | start =>
    constructor
    case conforms =>
      rw [Conforms, opened.status_eq]
      constructor
      case engagement_eq => rfl
      case cycle_eq => rfl
      case carried =>
        use p.message, carries
        rw [opened.reassembly_eq, List.nil_append]
      case notified => exact ⟨[], (List.append_nil _).symm, rfl⟩
    case waiting => exact fun event hevent => absurd hevent List.not_mem_nil
    case polite => exact opened.polite
    case posted => exact opened.posted
  | write _ heq ih => exact ih.handle reliable opened live (.write _ _) heq
  | handle _ expected heq ih => exact ih.handle reliable opened live (.expected expected) heq
  | handlePosted _ heq ih =>
    rw [Session.handlePosted, if_neg live] at heq
    exact ih.drain reliable opened heq
  | outside host posted _ polite expected ih =>
    exact ⟨ih.conforms.same _ host posted, fun event hevent => absurd hevent List.not_mem_nil,
      polite, expected⟩

/-! ### The response -/

/-- The response returns exactly what the user discloses, every document with a proof of its
device key. -/
structure IsAnsweredBy (p : Presentation η) (response : DeviceResponse) : Prop where
  documents : List.Forall₂
    (fun disclosed document => ∃ signed,
      Disclosure.deviceSigned p.setup.provider p.setup.credentials p.context disclosed = .ok signed
        ∧ document = ⟨disclosed.docType, disclosed.issuerSigned, some signed, disclosed.errors⟩)
    p.disclosure.documents (response.documents.elim [] (·.toList))
  documentErrors : response.documentErrors.elim [] (·.toList) = p.disclosure.documentErrors
  status_eq : response.status = .ok

theorem isAnsweredBy_of_response {response : DeviceResponse}
    (h : p.disclosure.response p.setup.provider p.setup.credentials (some p.context)
      = .ok response) :
  p.IsAnsweredBy response
  := by
  obtain ⟨documents, answers, rfl⟩ := Disclosure.response_eq_ok_iff.mp h
  constructor
  case documents =>
    rw [NonEmptyList.elim_ofList?]
    exact answers.imp (fun _ _ answer => Disclosure.answer_some_eq_ok_iff.mp answer)
  case documentErrors => exact NonEmptyList.elim_ofList? _
  case status_eq => rfl

/-- The reader reads an answer. -/
theorem IsAnswer.handleResponse {message : Bytes} (reliable : p.IsReliable)
    (answer : p.IsAnswer message) :
  ∃ response reader, p.reader.handleResponse p.setup.suite message = (.ok response, reader)
    ∧ p.IsAnsweredBy response
  := by
  obtain ⟨response, state, state', data, response_eq, mirrors, encrypt_eq, rfl⟩ := answer
  obtain ⟨now, provider_eq⟩ := reliable.standard
  have answered := isAnsweredBy_of_response response_eq
  rw [provider_eq] at response_eq encrypt_eq
  have readable : response.IsReadable 249 :=
    (Disclosure.isReadable_filter reliable.credentials _ _).response response_eq
  obtain ⟨reader, handle_eq⟩ := mirrors.handleResponse reliable.sound readable encrypt_eq
  exact ⟨response, reader, handle_eq, answered⟩

/-- When the fragments of the request were written and the response was sent, what the radio
accepted since is one message, in which the reader finds exactly what the user discloses. -/
theorem responseSent_isAnswered (reliable : p.IsReliable) (opened : p.IsOpened) (block : BlockSize)
    (run : p.Run (Fragment.frame p.message block) [] s) (status_eq : s.status = .responseSent) :
  ∃ added message response reader, s.trace = p.start.trace ++ added
    ∧ Fragment.reassemble? (accepted added) = .ok (some message)
    ∧ p.reader.handleResponse p.setup.suite message = (.ok response, reader)
    ∧ p.IsAnsweredBy response
  := by
  have live : ¬p.setup.config.preview := by
    intro preview
    cases status_eq.symm.trans (run.status_eq_of_preview opened preview)
  obtain ⟨e, -, opens⟩ := opened.opens
  have carries := Fragment.carries_frame p.message block opens.message_ne_nil
  have conforms := (run.holds reliable opened live carries).conforms
  rw [Conforms, status_eq] at conforms
  obtain ⟨message, block', sent, answer, frame_eq, added, trace_eq, rfl⟩ := conforms
  obtain ⟨response, reader, handle_eq, answered⟩ := answer.handleResponse reliable
  use added, message, response, reader, trace_eq
  refine ⟨?_, handle_eq, answered⟩
  have message_ne_nil : message ≠ [] := by
    obtain ⟨_, _, _, data, -, -, -, rfl⟩ := answer
    apply Cbor.Value.encode_ne_nil
  rw [List.append_nil] at frame_eq
  rw [← frame_eq]
  exact Fragment.reassemble?_frame message_ne_nil block'

/-! ### The presentation of a name -/

open Session (nameDocument nameRequest nameWallet)

/-- A user who accepts at once. -/
def accept (_ : Prompt) (cycle : Nat) : List Event :=
  [.consent ⟨true, none, cycle⟩]

/-- A wallet with a document with a name, and the standard provider. -/
def nameSetup : Setup Radio Iso.Encryption where
  credentials := nameWallet.credentials
  anchors := ⟨[]⟩
  config := { maxFragmentSize := 100 }
  suite := .transparent
  provider := Iso.provider .transparent 0
  host := Radio.host

/-- A session that was started, in front of a radio that takes one notification. -/
@[irreducible]
def nameStarted : Session Radio Iso.Encryption :=
  [.setUp, .transportState .ready, .subscribed .state, .subscribed .server2Client,
      .write .state Channel.startMarker].foldl
    (fun s event => (s.apply nameSetup event).2.2)
    (.fresh ⟨fun _ => default, fun _ => .ofNat 1, 0, 0⟩
      { credits := some 1, answer := some accept })

/-- The reader of the name that a holder engages with, and its first message. -/
def nameReader? (engagement : Option Engagement) : Option (Bytes × ReaderSession) := do
  let e ← engagement
  let r ← (ReaderSession.of .transparent default e.deviceEngagement).toOption
  let request ← (r.deviceRequest .transparent [nameRequest] none).toOption
  let (message, r) := r.establishment .transparent request
  return (← message.toOption, r)

theorem opens_of_nameReader? {engagement : Option Engagement} {message : Bytes}
    {reader : ReaderSession} (h : nameReader? engagement = some (message, reader)) :
  ∃ e ∈ engagement, Opens .transparent e.deviceEngagement [nameRequest] message reader
  := by
  obtain ⟨e, held, h⟩ := Option.bind_eq_some_iff.mp h
  obtain ⟨r, hr, h⟩ := Option.bind_eq_some_iff.mp h
  obtain ⟨request, hrequest, h⟩ := Option.bind_eq_some_iff.mp h
  obtain ⟨message, hmessage, h⟩ := Option.bind_eq_some_iff.mp h
  cases h
  exact ⟨e, held, default, r, none, request, Except.toOption_eq_some_iff.mp hr,
    Except.toOption_eq_some_iff.mp hrequest,
    Prod.ext (Except.toOption_eq_some_iff.mp hmessage) rfl⟩

/-- The presentation of the name to a reader. -/
def namePresentation (message : Bytes) (reader : ReaderSession) : Presentation Radio where
  setup := nameSetup
  start := nameStarted
  requests := [nameRequest]
  message := message
  reader := reader
  selection := none
  polite r := r.answer = some accept

/-- The fragments of a request, in blocks of a hundred bytes. -/
def nameFragments (message : Bytes) : List Bytes :=
  Fragment.frame message ⟨100, by decide⟩

/-- The reader writes its fragments, and then the radio takes more. -/
def nameSent? : Option ((Bytes × ReaderSession) × Session Radio Iso.Encryption) := do
  let (message, reader) ← nameReader? nameStarted.engagement
  let s ← (nameFragments message).foldlM (fun s fragment =>
    (s.handle nameSetup 3 (.write .client2Server fragment)).map (·.2)) nameStarted
  let (_, s) ← Session.handle nameSetup 3 .readyToSendMore
    { s with host := { answer := some accept }, posted := [] }
  return ((message, reader), s)

theorem posts_accept {kind : Event → Prop} (h : ∀ cycle, kind (.consent ⟨true, none, cycle⟩)) :
  Radio.host.Posts (fun r => r.answer = some accept) kind
  := by
  intro action r hr
  cases action with
  | prompt prompt cycle =>
    have asked : Radio.host.take (.prompt prompt cycle) r = (accept prompt cycle, r) := by
      simp [Host.take, Host.take.of, Radio.host, Radio.ask, hr]
    rw [asked]
    use hr
    intro event hevent
    rw [List.mem_singleton.mp hevent]
    exact h cycle
  | notify c value taken =>
    simp only [Host.take, Host.take.of, Radio.host, Radio.notify]
    split
    · exact ⟨hr, fun event hevent => absurd hevent List.not_mem_nil⟩
    · exact ⟨hr, fun event hevent => absurd hevent List.not_mem_nil⟩
  | _ => exact ⟨hr, fun event hevent => absurd hevent List.not_mem_nil⟩

/-- The signature of the document with the name is read back from its bytes. -/
theorem isReadable_nameWallet :
  nameWallet.credentials.IsReadable 249
  := by
  intro c hc
  have readable : Cose.Message.IsReadable 251 nameDocument.issuerAuth := by
    constructor
    case protected_eq =>
      change Cose.Header.ofBytes [] = .ok .empty
      rw [Cose.Header.ofBytes, Cose.Header.ofBytesWithin, List.isEmpty_nil, if_pos rfl]
      rfl
    case unprotected_eq => exact Cose.Header.ofValue_empty
    case survives_unprotected => exact Cbor.survives_map (fun _ h => absurd h List.not_mem_nil)
  rw [List.mem_singleton.mp hc]
  exact readable.survives

theorem namePresentation_isReliable (message : Bytes) (reader : ReaderSession) :
  (namePresentation message reader).IsReliable
  := by
  constructor
  case sound => exact CipherSuite.isSound_transparent
  case standard => exact ⟨0, rfl⟩
  case credentials => exact isReadable_nameWallet
  case requests =>
    intro request hrequest info hinfo
    rw [List.mem_singleton.mp hrequest] at hinfo
    cases hinfo
  case posts => exact posts_accept (fun _ _ => ⟨rfl, rfl⟩)

theorem reached_nameStarted :
  Session.Reached nameSetup nameStarted
  := by
  unfold nameStarted
  apply Session.Reached.foldl
  apply Session.Reached.fresh

theorem answer_nameStarted :
  nameStarted.host.answer = some accept
  := by
  unfold nameStarted
  have posts : nameSetup.host.Posts (fun r => r.answer = some accept) (fun _ => True) :=
    posts_accept (fun _ => trivial)
  exact Session.good_foldl posts _ rfl

/-- Although the radio takes only one notification at first, the reader gets the name. -/
theorem responseSent_isAnswered_name :
  ∃ first reader₀ s, (namePresentation first reader₀).Run (nameFragments first) [] s
    ∧ s.status = .responseSent
    ∧ ∃ added message response reader, s.trace = nameStarted.trace ++ added
      ∧ Fragment.reassemble? (accepted added) = .ok (some message)
      ∧ reader₀.handleResponse .transparent message = (.ok response, reader)
      ∧ (namePresentation first reader₀).IsAnsweredBy response
  := by
  have outcome : nameStarted.status = .started ∧ nameStarted.reassembly = []
      ∧ nameStarted.posted = [] ∧ nameSent?.map (·.2.status) = some .responseSent := by
    decide +kernel
  obtain ⟨started, empty, silent, sent⟩ := outcome
  obtain ⟨⟨⟨first, reader₀⟩, s'⟩, sent, status_eq⟩ := Option.map_eq_some_iff.mp sent
  obtain ⟨⟨first', reader₁⟩, hreader, h⟩ := Option.bind_eq_some_iff.mp sent
  obtain ⟨s, hwrites, h⟩ := Option.bind_eq_some_iff.mp h
  obtain ⟨⟨acknowledgement, _⟩, handle_eq, heq⟩ := Option.bind_eq_some_iff.mp h
  cases heq
  have opened : (namePresentation first reader₀).IsOpened := by
    constructor
    case reached => exact reached_nameStarted
    case status_eq => exact started
    case reassembly_eq => exact empty
    case polite => exact answer_nameStarted
    case posted =>
      change ∀ event ∈ nameStarted.posted, _
      rw [silent]
      exact fun event hevent => absurd hevent List.not_mem_nil
    case opens => exact opens_of_nameReader? hreader
  have written : (namePresentation first reader₀).Run (nameFragments first) [] s := by
    apply Run.writes _ hwrites
    rw [List.append_nil]
    exact Run.start
  have polite : (namePresentation first reader₀).polite { answer := some accept } := rfl
  have taken := written.outside _ [] polite (fun event hevent => absurd hevent List.not_mem_nil)
  have expected : (namePresentation first reader₀).Expects .readyToSendMore := trivial
  have finished := taken.handle expected handle_eq
  have reliable := namePresentation_isReliable first reader₀
  exact ⟨first, reader₀, s', finished, status_eq,
    responseSent_isAnswered reliable opened _ finished status_eq⟩

end Presentment.Presentation
