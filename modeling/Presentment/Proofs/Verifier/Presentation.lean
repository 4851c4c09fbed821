import Presentment.Proofs.Fragment
import Presentment.Proofs.Transfer.Runs
import Presentment.Proofs.Verifier.Agreement
import Presentment.Proofs.Verifier.Response

/-!
# Presentations

A presentation is a session that has just been started, together with the first message of a
reader and the choice of the user.  While the reader writes the fragments of its message, the
session goes through phases; `Conforms` tells what it holds in each of them, up to the fragments
that are still to be written.  Every step keeps it, as long as nobody else writes and the user
decides as chosen.
-/

namespace Presentment

/-- A session holds no engagement but those that it has made. -/
theorem Session.Reached.isGenuine {η κ : Type} {setup : Setup η κ} (sound : setup.suite.IsSound)
    {s : Session η κ} (h : Session.Reached setup s) :
  ∀ e ∈ s.engagement, e.IsGenuine setup.suite
  := by
  have given : ∀ e ∈ (none : Option Engagement), e.IsGenuine setup.suite :=
    fun e he => absurd he (by simp)
  induction h with
  | fresh supply host => exact given
  | outside host posted _ ih => exact ih
  | @apply s event _ ih =>
    have step := Session.apply_step setup event s
    revert step
    generalize (s.apply setup event).2.1 = followUps
    generalize (s.apply setup event).2.2 = s'
    intro step
    cases step with
    | advertise status_eq generate_eq _ called =>
      obtain ⟨_, _, -, rfl⟩ := called
      intro e he
      cases he
      exact Engagement.isGenuine_of_of sound (congrArg Prod.fst generate_eq)
    | stay | subscribe | unsubscribe | gather => exact ih
    | fail _ called | leave _ called =>
      obtain ⟨_, _, -, rfl⟩ := called
      exact given
    | setUp _ _ called | connect _ _ called | start _ called | ask _ _ _ _ _ _ _ called
    | respond _ _ _ _ _ _ _ _ _ called | sendMore _ _ called | finish _ called
    | recover _ called =>
      obtain ⟨_, _, -, rfl⟩ := called
      exact ih

/-- What takes part in a presentation. -/
structure Presentation (η : Type) where
  setup : Setup η Iso.Encryption
  /-- The session before the first fragment is written. -/
  start : Session η Iso.Encryption
  requests : List ItemsRequest
  /-- The first message of the reader. -/
  message : Bytes
  /-- The reader after its first message. -/
  reader : ReaderSession
  /-- What the user chooses, if not everything. -/
  selection : Option Selection
  /-- The states of the host in which it posts nothing unexpected. -/
  polite : η → Prop

namespace Presentation

variable {η : Type}

/-- What may happen besides the writes of the reader: the user accepts with the choice made,
and decides nothing else about the request. -/
def Expects (p : Presentation η) : Event → Prop
  | .write _ _ | .queueDrained => False
  | .consent decision =>
    decision.cycle = p.start.cycle + 1 → decision.accepted ∧ decision.items = p.selection
  | _ => True

/-- What the user discloses to the reader. -/
def disclosure (p : Presentation η) : Disclosure :=
  .filter p.setup.credentials (.verifier p.requests p.selection)

/-- The session in which device keys are proven, as the reader sees it. -/
def context (p : Presentation η) : DeviceAuthContext :=
  ⟨p.reader.transcript, p.reader.transcript.readerKey.content, p.setup.config.deviceAuthMethod⟩

/-- What both sides rely on: the laws of the cipher suite, the standard provider, that what
comes from elsewhere is read back from its bytes, and that the host does as expected. -/
structure IsReliable (p : Presentation η) : Prop where
  sound : p.setup.suite.IsSound
  standard : ∃ now, p.setup.provider = Iso.provider p.setup.suite now
  credentials : p.setup.credentials.IsReadable 249
  requests : ∀ request ∈ p.requests, request.IsReadable 253
  posts : p.setup.host.Posts p.polite p.Expects

/-- The session waits for the first message of the reader, which was made for it. -/
structure IsOpened (p : Presentation η) : Prop where
  reached : Session.Reached p.setup p.start
  status_eq : p.start.status = .started
  reassembly_eq : p.start.reassembly = []
  polite : p.polite p.start.host
  posted : ∀ event ∈ p.start.posted, p.Expects event
  opens : ∃ e ∈ p.start.engagement,
    Opens p.setup.suite e.deviceEngagement p.requests p.message p.reader

/-! ### Phases -/

variable {p : Presentation η} {fragments : List Bytes} {s : Session η Iso.Encryption}

/-- Since the start the radio has accepted the fragments `sent`. -/
def Notified (p : Presentation η) (sent : List Bytes) (s : Session η Iso.Encryption) : Prop :=
  ∃ added, s.trace = p.start.trace ++ added ∧ accepted added = sent

/-- The message of the reader is complete once `fragments` are written. -/
structure Gathering (p : Presentation η) (fragments : List Bytes)
    (s : Session η Iso.Encryption) : Prop where
  engagement_eq : s.engagement = p.start.engagement
  cycle_eq : s.cycle = p.start.cycle
  carried : ∃ rest, Fragment.Carries fragments rest ∧ s.reassembly ++ rest = p.message
  notified : p.Notified [] s

/-- The request waits for the user. -/
structure Asked (p : Presentation η) (s : Session η Iso.Encryption) : Prop where
  cycle_eq : s.cycle = p.start.cycle + 1
  pending_eq : s.pending = some p.requests
  mirrored : ∃ state, s.tunnel = .established state ∧ Mirrors state p.reader
  notified : p.Notified [] s

/-- A message for the reader with the response to its request. -/
def IsAnswer (p : Presentation η) (message : Bytes) : Prop :=
  ∃ response state state' data,
    p.disclosure.response p.setup.provider p.setup.credentials (some p.context) = .ok response
    ∧ Mirrors state p.reader
    ∧ p.setup.provider.encrypt (Cbor.encode response) state = (.ok data, state')
    ∧ message = Session.responseMessage data

/-- The answer is complete once `rest` is accepted. -/
def Answering (p : Presentation η) (rest : List Bytes) (s : Session η Iso.Encryption) : Prop :=
  ∃ message block sent, p.IsAnswer message ∧ Fragment.frame message block = sent ++ rest
    ∧ p.Notified sent s

/-- What the session holds in each phase, with `fragments` still to be written. -/
def Conforms (p : Presentation η) (fragments : List Bytes) (s : Session η Iso.Encryption) : Prop :=
  match s.status with
  | .started => p.Gathering fragments s
  | .requestReceived => p.Asked s
  | .userSelected => p.Answering s.outgoing s
  | .responseSent => p.Answering [] s
  | _ => True

/-- A session that exchanges no messages conforms, as it never will again. -/
theorem conforms_of_isExchanging_eq_false (h : s.status.isExchanging = false) :
  p.Conforms fragments s
  := by
  rw [Conforms]
  cases hs : s.status with
  | started | requestReceived | userSelected | responseSent =>
    rw [hs] at h
    cases h
  | _ => trivial

/-- Subscriptions and the host do not matter. -/
theorem Conforms.same (h : p.Conforms fragments s) (subscriptions : Subscriptions) (host : η)
    (posted : List Event) :
  p.Conforms fragments
    { s with
      subscriptions := subscriptions
      host := host
      posted := posted }
  := by
  rw [Conforms] at h ⊢
  dsimp only
  cases hs : s.status with
  | started =>
    rw [hs] at h
    exact ⟨h.engagement_eq, h.cycle_eq, h.carried, h.notified⟩
  | requestReceived =>
    rw [hs] at h
    exact ⟨h.cycle_eq, h.pending_eq, h.mirrored, h.notified⟩
  | userSelected | responseSent =>
    rw [hs] at h
    exact h
  | _ => trivial

/-! ### Steps -/

/-- Nothing of the answer is left to be sent. -/
structure IsDrained (s : Session η Iso.Encryption) : Prop where
  ne_started : s.status ≠ .started
  ne_requestReceived : s.status ≠ .requestReceived
  outgoing_eq : s.status = .userSelected → s.outgoing = []

/-- How an event comes about: what remains to be written before it and after it. -/
inductive Admits (p : Presentation η) (s : Session η Iso.Encryption) :
    List Bytes → Event → List Bytes → Prop
  | expected {fragments : List Bytes} {event : Event} :
      p.Expects event → Admits p s fragments event fragments
  /-- It follows from the last fragment of the answer. -/
  | drained {fragments : List Bytes} : IsDrained s → Admits p s fragments .queueDrained fragments
  /-- The reader writes. -/
  | write (fragment : Bytes) (fragments : List Bytes) :
      Admits p s (fragment :: fragments) (.write .client2Server fragment) fragments

variable {fragments' : List Bytes} {event : Event} {followUps : List Event}
  {s' : Session η Iso.Encryption}

theorem Notified.called {sent sent' : List Bytes} {actions : List Action}
    (h : p.Notified sent s) (trace_eq : s'.trace = s.trace ++ actions)
    (accepted_eq : accepted actions = sent') :
  p.Notified (sent ++ sent') s'
  := by
  obtain ⟨added, trace_eq', rfl⟩ := h
  use added ++ actions
  rw [trace_eq, trace_eq', List.append_assoc, accepted_append, accepted_eq]
  exact ⟨rfl, rfl⟩

/-- What the reader writes next is a fragment of its message. -/
theorem Gathering.parse_write {fragment : Bytes} (h : p.Gathering (fragment :: fragments) s) :
  ∃ header payload, Fragment.parse fragment = .ok (header, payload)
    ∧ (header = .more → ∃ rest, Fragment.Carries fragments rest
        ∧ s.reassembly ++ payload ++ rest = p.message)
    ∧ (header = .last → s.reassembly ++ payload = p.message)
  := by
  obtain ⟨rest, carries, whole⟩ := h.carried
  cases carries with
  | last =>
    refine ⟨.last, rest, Fragment.parse_byte .last rest, ?_, ?_⟩
    · rintro ⟨⟩
    · exact fun _ => whole
  | @more payload _ rest carries =>
    refine ⟨.more, payload, Fragment.parse_byte .more payload, ?_, ?_⟩
    · intro _
      use rest, carries
      rw [List.append_assoc, whole]
    · rintro ⟨⟩

/-- It is not passed over. -/
theorem Gathering.not_stay {fragment : Bytes} (h : p.Gathering (fragment :: fragments) s)
    (status_eq : s.status = .started)
    (next_eq : (transition s.snapshot (.write .client2Server fragment)).next = none)
    (effects_eq : (transition s.snapshot (.write .client2Server fragment)).effects = []) :
  False
  := by
  obtain ⟨header, payload, parse_eq, -⟩ := h.parse_write
  cases header with
  | more =>
    simp [transition, Session.snapshot, Transition.ofWrite_started, Transition.ofFragment, status_eq,
      parse_eq] at effects_eq
  | last =>
    simp [transition, Session.snapshot, Transition.ofWrite_started, Transition.ofFragment, status_eq,
      parse_eq, Transition.enter] at next_eq

/-- The session finds in the message what the reader asks for. -/
theorem IsOpened.read {establishment : SessionEstablishment} {engagement : Engagement}
    {state state' : Iso.Encryption} {text : Bytes} {request : DeviceRequest}
    (opened : p.IsOpened) (reliable : p.IsReliable)
    (read_eq : Session.readEstablishment p.message p.start.engagement
      = .ok (establishment, engagement))
    (derive_eq : p.setup.provider.derive establishment engagement .qr = .ok state)
    (decrypt_eq : p.setup.provider.decrypt establishment.data state = (.ok text, state'))
    (decode_eq : Cbor.decode text = .ok request) :
  request.itemsRequests = p.requests ∧ Mirrors state' p.reader
  := by
  obtain ⟨e, held, opens⟩ := opened.opens
  obtain ⟨now, provider_eq⟩ := reliable.standard
  have genuine := opened.reached.isGenuine reliable.sound e held
  rw [Option.mem_def.mp held] at read_eq
  rw [provider_eq] at derive_eq decrypt_eq
  exact opens.read reliable.sound genuine reliable.requests read_eq derive_eq decrypt_eq decode_eq

/-- Both sides have the same session in mind, so the message is one that the reader reads. -/
theorem IsReliable.isAnswer {state state' : Iso.Encryption} {response : DeviceResponse}
    {data : Bytes} (reliable : p.IsReliable) (mirrors : Mirrors state p.reader)
    (response_eq : Session.makeResponse p.setup (.established state) p.disclosure = .ok response)
    (encrypt_eq : p.setup.provider.encrypt (Cbor.encode response) state = (.ok data, state')) :
  p.IsAnswer (Session.responseMessage data)
  := by
  obtain ⟨now, provider_eq⟩ := reliable.standard
  have context_eq : Session.authContext p.setup state = p.context := by
    rw [Session.authContext, provider_eq, context, ← mirrors.readerKey_eq, ← mirrors.transcript_eq]
    rfl
  obtain ⟨_, established, made, -⟩ := Session.makeResponse_eq_ok_iff.mp response_eq
  cases established
  rw [context_eq] at made
  exact ⟨response, state, state', data, made, mirrors, encrypt_eq, rfl⟩

/-- Every step keeps what the session holds in each phase. -/
theorem Conforms.step (reliable : p.IsReliable) (opened : p.IsOpened)
    (h : p.Conforms fragments s) (admits : p.Admits s fragments event fragments')
    (step : Session.Step p.setup s event followUps s') :
  p.Conforms fragments' s'
  := by
  cases step with
  | stay next_eq effects_eq =>
    cases admits with
    | expected | drained => exact h
    | write fragment fragments =>
      rw [Conforms] at h ⊢
      cases hs : s.status with
      | started =>
        rw [hs] at h
        exact (h.not_stay hs next_eq effects_eq).elim
      | requestReceived | userSelected | responseSent =>
        rw [hs] at h
        exact h
      | _ => trivial
  | fail _ called | leave _ called | setUp _ _ called | advertise _ _ _ called
  | connect _ _ called | recover _ called =>
    obtain ⟨_, _, -, rfl⟩ := called
    exact conforms_of_isExchanging_eq_false rfl
  | subscribe | unsubscribe =>
    cases admits with
    | expected => exact h.same _ s.host s.posted
  | start status_eq called =>
    cases admits with
    | expected expected => exact expected.elim
  | gather status_eq parse_eq =>
    cases admits with
    | expected expected => exact expected.elim
    | write fragment fragments =>
      rw [Conforms, status_eq] at h
      obtain ⟨header, payload, parse_eq', more, -⟩ := h.parse_write
      rw [parse_eq] at parse_eq'
      cases parse_eq'
      rw [Conforms, status_eq]
      exact ⟨h.engagement_eq, h.cycle_eq, more rfl, h.notified⟩
  | ask status_eq parse_eq read_eq derive_eq decrypt_eq decode_eq _ called =>
    cases admits with
    | expected expected => exact expected.elim
    | write fragment fragments =>
      rw [Conforms, status_eq] at h
      obtain ⟨header, payload, parse_eq', -, last⟩ := h.parse_write
      rw [parse_eq] at parse_eq'
      cases parse_eq'
      rw [last rfl, h.engagement_eq] at read_eq
      obtain ⟨items_eq, mirrors⟩ := opened.read reliable read_eq derive_eq decrypt_eq decode_eq
      obtain ⟨_, _, -, rfl⟩ := called
      constructor
      case cycle_eq => exact congrArg (· + 1) h.cycle_eq
      case pending_eq => exact congrArg some items_eq
      case mirrored => exact ⟨_, rfl, mirrors⟩
      case notified =>
        apply h.notified.called rfl
        simp [Action.accepted?]
  | respond status_eq accepted cycle_eq pending_eq _ response_eq tunnel_eq encrypt_eq frame_eq
      called =>
    cases admits with
    | expected expected =>
      rw [Conforms, status_eq] at h
      obtain ⟨-, items_eq⟩ := expected (cycle_eq.trans h.cycle_eq)
      obtain ⟨_, tunnel_eq', mirrors⟩ := h.mirrored
      cases tunnel_eq.symm.trans tunnel_eq'
      cases pending_eq.symm.trans h.pending_eq
      rw [tunnel_eq, items_eq] at response_eq
      have answer := reliable.isAnswer mirrors response_eq encrypt_eq
      obtain ⟨_, _, -, rfl⟩ := called
      refine ⟨_, _, _, answer, frame_eq, h.notified.called rfl ?_⟩
      simp [Action.accepted?]
  | sendMore status_eq outgoing_eq called =>
    cases admits with
    | expected =>
      rw [Conforms, status_eq] at h
      obtain ⟨message, block, sent, answer, frame_eq, notified⟩ := h
      obtain ⟨_, _, -, rfl⟩ := called
      rw [Conforms]
      dsimp only
      rw [status_eq]
      rw [outgoing_eq, ← List.append_assoc] at frame_eq
      exact ⟨message, block, _, answer, frame_eq, notified.called rfl (Session.accepted_notices _ _)⟩
  | finish status_eq called =>
    cases admits with
    | expected expected => exact expected.elim
    | drained drained =>
      rw [Conforms, status_eq] at h
      obtain ⟨message, block, sent, answer, frame_eq, notified⟩ := h
      obtain ⟨_, _, -, rfl⟩ := called
      rw [drained.outgoing_eq status_eq] at frame_eq
      refine ⟨message, block, sent, answer, frame_eq, ?_⟩
      rw [← List.append_nil sent]
      exact notified.called rfl rfl

/-! ### Events that follow -/

theorem IsDrained.step (drained : IsDrained s) (admits : p.Admits s fragments event fragments')
    (step : Session.Step p.setup s event followUps s') :
  IsDrained s'
  := by
  cases step with
  | stay => exact drained
  | subscribe | unsubscribe =>
    exact ⟨drained.ne_started, drained.ne_requestReceived, drained.outgoing_eq⟩
  | fail _ called | leave _ called | setUp _ _ called | advertise _ _ _ called
  | connect _ _ called | finish _ called | recover _ called =>
    obtain ⟨_, _, -, rfl⟩ := called
    exact ⟨nofun, nofun, nofun⟩
  | start =>
    cases admits with
    | expected expected => exact expected.elim
  | gather status_eq | ask status_eq => exact absurd status_eq drained.ne_started
  | respond status_eq => exact absurd status_eq drained.ne_requestReceived
  | sendMore status_eq outgoing_eq called =>
    obtain ⟨_, _, -, rfl⟩ := called
    rw [drained.outgoing_eq status_eq, eq_comm, List.append_eq_nil_iff] at outgoing_eq
    exact ⟨drained.ne_started, drained.ne_requestReceived, fun _ => outgoing_eq.2⟩

/-- The session itself follows up with what is expected, or when its answer is sent. -/
theorem followUps_wait (step : Session.Step p.setup s event followUps s') :
  ∀ event ∈ followUps, p.Expects event ∨ event = .queueDrained ∧ IsDrained s'
  := by
  cases step with
  | stay | leave | advertise | subscribe | connect | unsubscribe | start | gather | ask | finish =>
    exact fun event hevent => absurd hevent List.not_mem_nil
  | fail =>
    intro event hevent
    rw [Session.recovery] at hevent
    split at hevent
    · rw [List.mem_singleton.mp hevent]
      exact .inl trivial
    · cases hevent
  | setUp | recover =>
    intro event hevent
    rw [List.mem_singleton.mp hevent]
    exact .inl trivial
  | @respond _ _ _ _ _ _ _ rest _ _ _ _ _ _ _ _ _ _ called
  | @sendMore _ rest _ status_eq _ called =>
    obtain ⟨_, _, -, rfl⟩ := called
    intro event hevent
    cases rest with
    | cons fragment rest => cases hevent
    | nil =>
      right
      use List.mem_singleton.mp hevent
      constructor
      · simp_all
      · simp_all
      · exact fun _ => rfl

/-- What holds while the events `waiting` are still to be applied. -/
structure Holds (p : Presentation η) (fragments : List Bytes) (waiting : List Event)
    (s : Session η Iso.Encryption) : Prop where
  conforms : p.Conforms fragments s
  waiting : ∀ event ∈ waiting, p.Expects event ∨ event = .queueDrained ∧ IsDrained s
  polite : p.polite s.host
  posted : ∀ event ∈ s.posted, p.Expects event

theorem Holds.apply {waiting : List Event} (reliable : p.IsReliable) (opened : p.IsOpened)
    (h : p.Holds fragments waiting s) (admits : p.Admits s fragments event fragments') :
  p.Holds fragments' (waiting ++ (s.apply p.setup event).2.1) (s.apply p.setup event).2.2
  := by
  have step := Session.apply_step p.setup event s
  obtain ⟨actions, took⟩ := step.took
  obtain ⟨polite, posts⟩ := reliable.posts.replay actions h.polite
  constructor
  case conforms => exact h.conforms.step reliable opened admits step
  case waiting =>
    intro event hevent
    rcases List.mem_append.mp hevent with hevent | hevent
    · apply (h.waiting event hevent).imp_right
      exact fun ⟨drained_eq, drained⟩ => ⟨drained_eq, drained.step admits step⟩
    · exact followUps_wait step event hevent
  case polite =>
    rw [took.host_eq]
    exact polite
  case posted =>
    intro event hevent
    rw [took.posted_eq] at hevent
    rcases List.mem_append.mp hevent with hevent | hevent
    · exact h.posted event hevent
    · exact posts event hevent

theorem Holds.drain {fuel : Nat} {queue : List Event} (reliable : p.IsReliable)
    (opened : p.IsOpened) (h : p.Holds fragments queue s)
    (heq : s.drain p.setup fuel queue = some s') :
  p.Holds fragments [] s'
  := by
  apply Session.drain_induction (motive := p.Holds fragments) _ _ h heq
  · intro event waiting s hs
    have others : p.Holds fragments waiting s :=
      { hs with waiting := fun event hevent => hs.waiting event (List.mem_cons_of_mem _ hevent) }
    apply others.apply reliable opened
    rcases hs.waiting event List.mem_cons_self with expected | ⟨rfl, drained⟩
    · exact .expected expected
    · exact .drained drained
  · intro event posted s posted_eq hs
    have expected : p.Expects event ∧ ∀ event ∈ posted, p.Expects event := by
      apply List.forall_mem_cons.mp
      rw [← posted_eq]
      exact hs.posted
    constructor
    case conforms => exact hs.conforms.same s.subscriptions s.host posted
    case waiting =>
      intro event hevent
      rw [List.mem_singleton.mp hevent]
      exact .inl expected.1
    case polite => exact hs.polite
    case posted => exact expected.2

end Presentation

end Presentment
