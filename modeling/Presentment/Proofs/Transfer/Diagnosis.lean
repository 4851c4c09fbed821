import Presentment.Proofs.Transfer.Period
import Presentment.Proofs.Transfer.Resources
import Presentment.Security.Iso

/-!
# What the reader is told of its request

A message that cannot be shown is `Undecodable`, or no session keys come of it (`Unkeyed`), or
its data is `Undecryptable`.  When the last fragment of a message comes, the message is shown,
or it is for one of these reasons that the reader is told a status and all is given up.  A
message that is undecodable is told apart from one that is undecryptable, but a key of the
reader from which nothing can be derived is reported as if it could not be decoded.
-/

namespace Presentment.Session

variable {η κ : Type}

/-! ### What is wrong with a message -/

/-- A message cannot be decoded, or the request in it cannot. -/
inductive Undecodable (setup : Setup η κ) (message : Bytes) (held : Option Engagement) : Prop
  | establishment {cause : Refusal}
      (decode_eq : (Cbor.decode message : Except Refusal SessionEstablishment) = .error cause)
  | request {establishment : SessionEstablishment} {engagement : Engagement} {state state' : κ}
      {text : Bytes} {cause : Refusal}
      (opening : Opening message held establishment engagement)
      (derive_eq : setup.provider.derive establishment engagement .qr = .ok state)
      (decrypt_eq : setup.provider.decrypt establishment.data state = (.ok text, state'))
      (decode_eq : (Cbor.decode text : Except Refusal DeviceRequest) = .error cause)

/-- No session keys come of a message. -/
inductive Unkeyed (setup : Setup η κ) (message : Bytes) (held : Option Engagement) :
    SecurityError → Prop
  | missing {establishment : SessionEstablishment}
      (decode_eq : Cbor.decode message = .ok establishment)
      (unkeyed : establishment.readerKey = none) :
      Unkeyed setup message held .readerKeyMissing
  | derive {establishment : SessionEstablishment} {engagement : Engagement} {cause : SecurityError}
      (opening : Opening message held establishment engagement)
      (derive_eq : setup.provider.derive establishment engagement .qr = .error cause) :
      Unkeyed setup message held cause

/-- The data of a message does not decrypt. -/
inductive Undecryptable (setup : Setup η κ) (message : Bytes) (held : Option Engagement) : Prop
  | data {establishment : SessionEstablishment} {engagement : Engagement} {state state' : κ}
      {cause : SecurityError}
      (opening : Opening message held establishment engagement)
      (derive_eq : setup.provider.derive establishment engagement .qr = .ok state)
      (decrypt_eq : setup.provider.decrypt establishment.data state = (.error cause, state'))

/-- A message holds a request. -/
inductive Readable (setup : Setup η κ) (message : Bytes) (held : Option Engagement) : Prop
  | request {establishment : SessionEstablishment} {engagement : Engagement} {state state' : κ}
      {text : Bytes} {request : DeviceRequest}
      (opening : Opening message held establishment engagement)
      (derive_eq : setup.provider.derive establishment engagement .qr = .ok state)
      (decrypt_eq : setup.provider.decrypt establishment.data state = (.ok text, state'))
      (decode_eq : Cbor.decode text = .ok request)

/-! ### The reasons exclude each other -/

section

variable {setup : Setup η κ} {message : Bytes} {held : Option Engagement}

theorem Undecodable.not_unkeyed {cause : SecurityError} (h : Undecodable setup message held) :
  ¬Unkeyed setup message held cause
  := by
  intro h'
  cases h with
  | establishment decode_eq =>
    cases h' with
    | missing decode_eq' => cases decode_eq.symm.trans decode_eq'
    | derive opening => cases decode_eq.symm.trans opening.decode_eq
  | request opening derive_eq =>
    cases h' with
    | missing decode_eq' unkeyed =>
      cases opening.decode_eq.symm.trans decode_eq'
      cases unkeyed ▸ opening.keyed
    | derive opening' derive_eq' =>
      obtain ⟨rfl, rfl⟩ := opening.unique opening'
      cases derive_eq.symm.trans derive_eq'

theorem Undecodable.not_undecryptable (h : Undecodable setup message held) :
  ¬Undecryptable setup message held
  := by
  rintro ⟨opening', derive_eq', decrypt_eq'⟩
  cases h with
  | establishment decode_eq => cases decode_eq.symm.trans opening'.decode_eq
  | request opening derive_eq decrypt_eq =>
    obtain ⟨rfl, rfl⟩ := opening.unique opening'
    cases derive_eq.symm.trans derive_eq'
    cases decrypt_eq.symm.trans decrypt_eq'

theorem Unkeyed.not_undecryptable {cause : SecurityError} (h : Unkeyed setup message held cause) :
  ¬Undecryptable setup message held
  := by
  rintro ⟨opening', derive_eq', -⟩
  cases h with
  | missing decode_eq unkeyed =>
    cases decode_eq.symm.trans opening'.decode_eq
    cases unkeyed ▸ opening'.keyed
  | derive opening derive_eq =>
    obtain ⟨rfl, rfl⟩ := opening.unique opening'
    cases derive_eq.symm.trans derive_eq'

theorem Unkeyed.unique {cause cause' : SecurityError} (h : Unkeyed setup message held cause)
    (h' : Unkeyed setup message held cause') :
  cause = cause'
  := by
  cases h with
  | missing decode_eq unkeyed =>
    cases h' with
    | missing => rfl
    | derive opening =>
      cases decode_eq.symm.trans opening.decode_eq
      cases unkeyed ▸ opening.keyed
  | derive opening derive_eq =>
    cases h' with
    | missing decode_eq' unkeyed =>
      cases opening.decode_eq.symm.trans decode_eq'
      cases unkeyed ▸ opening.keyed
    | derive opening' derive_eq' =>
      obtain ⟨rfl, rfl⟩ := opening.unique opening'
      exact Except.error.inj (derive_eq.symm.trans derive_eq')

/-- A message that holds a request meets no obstacle. -/
theorem Readable.unobstructed (h : Readable setup message held) :
  ¬Undecodable setup message held ∧ (∀ cause, ¬Unkeyed setup message held cause)
    ∧ ¬Undecryptable setup message held
  := by
  obtain ⟨opening, derive_eq, decrypt_eq, decode_eq⟩ := h
  refine ⟨?_, ?_, ?_⟩
  · intro h'
    cases h' with
    | establishment decode_eq' => cases opening.decode_eq.symm.trans decode_eq'
    | request opening' derive_eq' decrypt_eq' decode_eq' =>
      obtain ⟨rfl, rfl⟩ := opening.unique opening'
      cases derive_eq.symm.trans derive_eq'
      cases decrypt_eq.symm.trans decrypt_eq'
      cases decode_eq.symm.trans decode_eq'
  · intro cause h'
    cases h' with
    | missing decode_eq' unkeyed =>
      cases opening.decode_eq.symm.trans decode_eq'
      cases unkeyed ▸ opening.keyed
    | derive opening' derive_eq' =>
      obtain ⟨rfl, rfl⟩ := opening.unique opening'
      cases derive_eq.symm.trans derive_eq'
  · rintro ⟨opening', derive_eq', decrypt_eq'⟩
    obtain ⟨rfl, rfl⟩ := opening.unique opening'
    cases derive_eq.symm.trans derive_eq'
    cases decrypt_eq.symm.trans decrypt_eq'

end

/-! ### The status that is told -/

/-- The status that the reader is told of a message, if any is told. -/
inductive Diagnosis (setup : Setup η κ) (message : Bytes) (held : Option Engagement) :
    SessionStatus → Prop
  | undecodable :
      Undecodable setup message held → Diagnosis setup message held .decodingError
  /-- The key of the reader is there, but it cannot be used. -/
  | underivable {cause : SecurityError} (present : cause ≠ .readerKeyMissing) :
      Unkeyed setup message held cause → Diagnosis setup message held .decodingError
  | missing :
      Unkeyed setup message held .readerKeyMissing →
        Diagnosis setup message held .encryptionError
  | undecryptable :
      Undecryptable setup message held → Diagnosis setup message held .encryptionError

section

variable {setup : Setup η κ} {message : Bytes} {held : Option Engagement} {status : SessionStatus}

theorem Diagnosis.eq_decodingError_iff (h : Diagnosis setup message held status) :
  status = .decodingError ↔ Undecodable setup message held
    ∨ ∃ cause, cause ≠ .readerKeyMissing ∧ Unkeyed setup message held cause
  := by
  constructor
  · rintro rfl
    cases h with
    | undecodable h => exact .inl h
    | underivable present h => exact .inr ⟨_, present, h⟩
  · intro h'
    cases h with
    | undecodable | underivable => rfl
    | missing h =>
      rcases h' with h' | ⟨cause, present, h'⟩
      · exact (h'.not_unkeyed h).elim
      · exact (present (h'.unique h)).elim
    | undecryptable h =>
      rcases h' with h' | ⟨cause, -, h'⟩
      · exact (h'.not_undecryptable h).elim
      · exact (h'.not_undecryptable h).elim

theorem Diagnosis.eq_encryptionError_iff (h : Diagnosis setup message held status) :
  status = .encryptionError
    ↔ Unkeyed setup message held .readerKeyMissing ∨ Undecryptable setup message held
  := by
  constructor
  · rintro rfl
    cases h with
    | missing h => exact .inl h
    | undecryptable h => exact .inr h
  · intro h'
    cases h with
    | missing | undecryptable => rfl
    | undecodable h =>
      rcases h' with h' | h'
      · exact (h.not_unkeyed h').elim
      · exact (h.not_undecryptable h').elim
    | underivable present h =>
      rcases h' with h' | h'
      · exact (present (h.unique h')).elim
      · exact (h.not_undecryptable h').elim

theorem Diagnosis.ne_termination (h : Diagnosis setup message held status) :
  status ≠ .termination
  := by
  rintro rfl
  cases h

/-- There is no status for a message that holds a request. -/
theorem Readable.not_diagnosis (h : Readable setup message held) :
  ¬Diagnosis setup message held status
  := by
  obtain ⟨decodable, keyed, decryptable⟩ := h.unobstructed
  intro diagnosis
  cases diagnosis with
  | undecodable h => exact decodable h
  | underivable _ h => exact keyed _ h
  | missing h => exact keyed _ h
  | undecryptable h => exact decryptable h

/-- While an engagement is held, there is a status for whatever is wrong with a message. -/
theorem Unread.diagnosis {e : TransferError} {actions : List Action} (engaged : held.isSome)
    (h : Unread setup message held e actions) :
  ∃ status, e.sessionStatus? = some status ∧ Diagnosis setup message held status
  := by
  cases h with
  | read read_eq =>
    rcases readEstablishment_error engaged read_eq with
      ⟨cause, decode_eq, rfl⟩ | ⟨establishment, decode_eq, unkeyed, rfl⟩
    · exact ⟨_, rfl, .undecodable (.establishment decode_eq)⟩
    · exact ⟨_, rfl, .missing (.missing decode_eq unkeyed)⟩
  | @derive _ _ cause read_eq derive_eq =>
    have unkeyed : Unkeyed setup message held cause :=
      .derive (opening_of_readEstablishment read_eq) derive_eq
    cases cause with
    | readerKeyMissing => exact ⟨.encryptionError, rfl, .missing unkeyed⟩
    | invalidReaderKey | session | deviceAuth | codec =>
      refine ⟨.decodingError, rfl, .underivable ?_ unkeyed⟩
      nofun
  | decrypt read_eq derive_eq decrypt_eq =>
    exact ⟨_, rfl, .undecryptable
      (.data (opening_of_readEstablishment read_eq) derive_eq decrypt_eq)⟩
  | decode read_eq derive_eq decrypt_eq decode_eq =>
    exact ⟨_, rfl, .undecodable
      (.request (opening_of_readEstablishment read_eq) derive_eq decrypt_eq decode_eq)⟩

end

/-! ### When the last fragment comes -/

/-- The reader is told a status, as far as the radio takes it, and nothing else, and all is
given up. -/
structure Reports (setup : Setup η κ) (status : SessionStatus) (s s' : Session η κ) : Prop where
  told : ∃ before sent rest e, AreQuiet before
    ∧ Fragment.frame (statusMessage status) (setup.block (setup.host.replay before s.host).2)
      = sent ++ rest
    ∧ s'.trace = s.trace ++ (before ++ notices sent rest
      ++ [Action.statusChanged .error, Action.finishedWithError e])
  status_eq : s'.status = .error
  engagement_eq : s'.engagement = none
  tunnel_eq : s'.tunnel = .closed
  reassembly_eq : s'.reassembly = []
  outgoing_eq : s'.outgoing = []
  pending_eq : s'.pending = none

/-- The user is asked, and the reader is told nothing. -/
structure Shows (s s' : Session η κ) : Prop where
  told : ∃ added, AreQuiet added ∧ s'.trace = s.trace ++ added
  status_eq : s'.status = .requestReceived

section

variable {setup : Setup η κ} {s s' : Session η κ} {value payload : Bytes}
  {followUps : List Event}

/-- Whatever is wrong with the message, its status is reported. -/
theorem Fault.reports {e : TransferError} {supply : Supply} {actions : List Action}
    (engaged : s.engagement.isSome)
    (parse_eq : Fragment.parse value = .ok (.last, payload))
    (fault : Fault setup s (.write .client2Server value) e supply actions)
    (called : Called setup actions
      { s.released .error with
        supply := supply
        lastError := some e } s') :
  ∃ status, Diagnosis setup (s.reassembly ++ payload) s.engagement status
    ∧ Reports setup status s s'
  := by
  have took : Took setup actions s s' := called.tookFrom rfl rfl rfl
  obtain ⟨_, _, -, rfl⟩ := called
  cases fault with
  | @request _ _ _ done _ _ parse_eq' unread tells =>
    cases parse_eq.symm.trans parse_eq'
    obtain ⟨status, told_eq, diagnosis⟩ := unread.diagnosis engaged
    rw [told_eq] at tells
    cases tells with
    | @status _ sent rest frame_eq =>
      use status, diagnosis
      constructor
      case told =>
        have quiet : AreQuiet ([Action.statusChanged .requestReceived] ++ s.stops ++ done) :=
          ((areQuiet_singleton rfl).append (areQuiet_stops s)).append unread.areQuiet
        refine ⟨_, sent, rest, e, quiet, frame_eq, ?_⟩
        rw [took.trace_eq]
        simp only [List.append_assoc]
      all_goals rfl

/-- When the last fragment comes, the user is asked or something fails. -/
theorem status_of_last (setup : Setup η κ) (status_eq : s.status = .started)
    (parse_eq : Fragment.parse value = .ok (.last, payload)) :
  (s.apply setup (.write .client2Server value)).2.2.status = .requestReceived
    ∨ (s.apply setup (.write .client2Server value)).2.2.status = .error
  := by
  have enters : (transition s.snapshot (.write .client2Server value)).next
      = some .requestReceived := by
    simp [transition, snapshot, Transition.ofWrite_started, Transition.ofFragment, status_eq,
      parse_eq, Transition.enter]
  have step := apply_step setup (.write .client2Server value) s
  generalize (s.apply setup (.write .client2Server value)).2 = outcome at step ⊢
  obtain ⟨followUps, s'⟩ := outcome
  cases step with
  | stay next_eq | leave _ _ next_eq => cases enters.symm.trans next_eq
  | fail _ called => exact .inr called.status_eq
  | gather _ parse_eq' => cases parse_eq.symm.trans parse_eq'
  | ask _ _ _ _ _ _ _ called => exact .inl called.status_eq

/-- What comes of the last fragment: something fails, or a request is read and shown. -/
theorem Step.of_last (status_eq : s.status = .started)
    (parse_eq : Fragment.parse value = .ok (.last, payload))
    (step : Step setup s (.write .client2Server value) followUps s')
    (ends : s'.status = .requestReceived ∨ s'.status = .error) :
  (∃ e supply actions, Fault setup s (.write .client2Server value) e supply actions
      ∧ Called setup actions
        { s.released .error with
          supply := supply
          lastError := some e } s')
    ∨ ∃ establishment engagement state state' text request readerAuth,
      readEstablishment (s.reassembly ++ payload) s.engagement = .ok (establishment, engagement)
      ∧ setup.provider.derive establishment engagement .qr = .ok state
      ∧ setup.provider.decrypt establishment.data state = (.ok text, state')
      ∧ Cbor.decode text = .ok request
      ∧ judgeReader setup (.established state') request = .ok readerAuth
      ∧ s'.status = .requestReceived
      ∧ s'.trace = s.trace ++ (.statusChanged .requestReceived :: s.stops
          ++ [Action.derive engagement, Action.decrypt establishment.data,
            Action.prompt (promptFor setup.credentials request.itemsRequests readerAuth)
              (s.cycle + 1)])
  := by
  cases step with
  | stay =>
    rw [status_eq] at ends
    rcases ends with ends | ends
    all_goals cases ends
  | leave _ called =>
    rw [called.status_eq] at ends
    rcases ends with ends | ends
    all_goals cases ends
  | fail fault called => exact .inl ⟨_, _, _, fault, called⟩
  | gather _ parse_eq' => cases parse_eq.symm.trans parse_eq'
  | ask _ parse_eq' read_eq derive_eq decrypt_eq decode_eq judge_eq called =>
    cases parse_eq.symm.trans parse_eq'
    have took : Took setup _ s s' := called.tookFrom rfl rfl rfl
    exact .inr ⟨_, _, _, _, _, _, _, read_eq, derive_eq, decrypt_eq, decode_eq, judge_eq,
      called.status_eq, took.trace_eq⟩

theorem Step.reported_or_shown (engaged : s.engagement.isSome) (status_eq : s.status = .started)
    (parse_eq : Fragment.parse value = .ok (.last, payload))
    (step : Step setup s (.write .client2Server value) followUps s')
    (ends : s'.status = .requestReceived ∨ s'.status = .error) :
  (∃ status, Diagnosis setup (s.reassembly ++ payload) s.engagement status
      ∧ Reports setup status s s')
    ∨ (Readable setup (s.reassembly ++ payload) s.engagement ∧ Shows s s')
  := by
  rcases step.of_last status_eq parse_eq ends with
    ⟨e, supply, actions, fault, called⟩
      | ⟨establishment, engagement, state, state', text, request, readerAuth, read_eq, derive_eq,
        decrypt_eq, decode_eq, -, status_eq', trace_eq⟩
  · exact .inl (fault.reports engaged parse_eq called)
  · refine .inr ⟨.request (opening_of_readEstablishment read_eq) derive_eq decrypt_eq decode_eq,
      ⟨_, ?_, trace_eq⟩, status_eq'⟩
    apply AreQuiet.append ((areQuiet_singleton rfl).append (areQuiet_stops s))
    simp [AreQuiet, Action.isQuiet]

/-- When the last fragment comes, the message is shown, or the reader is told a status and all
is given up.  The status says that the message could not be decoded exactly when it could not,
or when its key is there but no session keys come of it; and it says that encryption failed
exactly when the message has no key or its data does not decrypt. -/
theorem Reached.reports_or_shows {message : Bytes} (h : Reached setup s)
    (status_eq : s.status = .started)
    (parse_eq : Fragment.parse value = .ok (.last, payload))
    (message_eq : s.reassembly ++ payload = message)
    (apply_eq : (s.apply setup (.write .client2Server value)).2.2 = s') :
  (∃ status, status ≠ .termination ∧ Reports setup status s s'
      ∧ (status = .decodingError ↔ Undecodable setup message s.engagement
        ∨ ∃ cause, cause ≠ .readerKeyMissing ∧ Unkeyed setup message s.engagement cause)
      ∧ (status = .encryptionError ↔ Unkeyed setup message s.engagement .readerKeyMissing
        ∨ Undecryptable setup message s.engagement))
    ∨ (Shows s s' ∧ ¬Undecodable setup message s.engagement
      ∧ (∀ cause, ¬Unkeyed setup message s.engagement cause)
      ∧ ¬Undecryptable setup message s.engagement)
  := by
  have engaged : s.engagement.isSome := by
    rw [h.settles.engagement, status_eq]
    rfl
  have step := apply_step setup (.write .client2Server value) s
  have ends := status_of_last setup status_eq parse_eq
  rw [apply_eq] at step ends
  have outcome := step.reported_or_shown engaged status_eq parse_eq ends
  rw [message_eq] at outcome
  rcases outcome with ⟨status, diagnosis, reports⟩ | ⟨readable, shows⟩
  · exact .inl ⟨status, diagnosis.ne_termination, reports, diagnosis.eq_decodingError_iff,
      diagnosis.eq_encryptionError_iff⟩
  · exact .inr ⟨shows, readable.unobstructed⟩

end

/-! ### A wallet with the standard provider -/

/-- A wallet with a document with a name, and the standard provider on P-256. -/
def curveWallet : Setup Radio Iso.Encryption where
  credentials := nameWallet.credentials
  anchors := ⟨[]⟩
  config := {}
  suite := .p256
  provider := Iso.provider .p256 0
  host := Radio.host

/-- A session to which the reader is about to send its message. -/
@[irreducible]
def curveStarted : Session Radio Iso.Encryption :=
  [.setUp, .transportState .ready, .subscribed .state, .subscribed .server2Client,
      .write .state Channel.startMarker].foldl
    (fun s event => (s.apply curveWallet event).2.2)
    (.fresh ⟨fun _ => default, fun _ => .ofNat 1, 0, 0⟩ {})

theorem reached_curveStarted :
  Reached curveWallet curveStarted
  := by
  unfold curveStarted
  apply Reached.foldl
  apply Reached.fresh

/-- A byte that no item starts with is reported. -/
theorem reports_or_shows_break :
  Reached curveWallet curveStarted
    ∧ curveStarted.status = .started
    ∧ Fragment.parse [0x00, 0xFF] = .ok (.last, [0xFF])
    ∧ curveStarted.reassembly ++ [0xFF] = [0xFF]
    ∧ Reports curveWallet .decodingError curveStarted
      (curveStarted.apply curveWallet (.write .client2Server [0x00, 0xFF])).2.2
  := by
  have outcome : curveStarted.status = .started ∧ curveStarted.reassembly = [] := by
    decide +kernel
  obtain ⟨started, empty⟩ := outcome
  have parse_eq : Fragment.parse [0x00, 0xFF] = .ok (.last, [0xFF]) := rfl
  have message_eq : curveStarted.reassembly ++ [0xFF] = [0xFF] := by
    rw [empty, List.nil_append]
  have decode_eq : (Cbor.decode [0xFF] : Except Refusal SessionEstablishment) = .error .malformed :=
    rfl
  have undecodable : Undecodable curveWallet [0xFF] curveStarted.engagement :=
    .establishment decode_eq
  refine ⟨reached_curveStarted, started, parse_eq, message_eq, ?_⟩
  rcases reached_curveStarted.reports_or_shows started parse_eq message_eq rfl with
    ⟨status, -, reports, status_eq, -⟩ | ⟨-, decodable, -⟩
  · exact status_eq.mpr (.inl undecodable) ▸ reports
  · exact absurd undecodable decodable

/-! ### A key that is not on the curve -/

/-- The message of a reader whose key is not on the curve. -/
def offCurveMessage : Bytes :=
  match (Embedded.ofContent (Cose.Key.ofCoordinates 1 1) : Except Refusal (Embedded Cose.Key)) with
  | .ok readerKey => Cbor.encode (⟨some readerKey, []⟩ : SessionEstablishment)
  | .error _ => []

/-- The message as a single fragment. -/
def offCurveEvent : Event :=
  .write .client2Server (0x00 :: offCurveMessage)

/-- Whether the standard provider refuses the key of a reader. -/
def refusesKey (read : SessionEstablishment × Engagement) : Bool :=
  match curveWallet.provider.derive read.1 read.2 .qr with
  | .error (.invalidReaderKey _) => true
  | _ => false

theorem exists_of_refusesKey {establishment : SessionEstablishment} {engagement : Engagement}
    (h : refusesKey (establishment, engagement)) :
  ∃ reason, curveWallet.provider.derive establishment engagement .qr
    = .error (.invalidReaderKey reason)
  := by
  rw [refusesKey] at h
  split at h
  · exact ⟨_, ‹_›⟩
  · cases h

/-- The message is the first, the standard provider refuses its key, and the radio takes a status
that says that it could not be decoded. -/
theorem offCurve_outcome :
  curveStarted.status = .started ∧ curveStarted.reassembly = []
    ∧ (readEstablishment offCurveMessage curveStarted.engagement).toOption.any refusesKey
    ∧ accepted (curveStarted.apply curveWallet offCurveEvent).2.2.trace
      = [0x00 :: statusMessage .decodingError]
  := by
  decide +kernel

theorem reassembly_append_offCurve :
  curveStarted.reassembly ++ offCurveMessage = offCurveMessage
  := by
  rw [offCurve_outcome.2.1, List.nil_append]

/-- No session keys come of a key that is not on the curve, but the reader is told that its
message could not be decoded. -/
theorem reports_decodingError_offCurve :
  Reached curveWallet curveStarted
    ∧ curveStarted.status = .started
    ∧ Fragment.parse (0x00 :: offCurveMessage) = .ok (.last, offCurveMessage)
    ∧ curveStarted.reassembly ++ offCurveMessage = offCurveMessage
    ∧ (∃ reason, Unkeyed curveWallet offCurveMessage curveStarted.engagement
      (.invalidReaderKey reason))
    ∧ ¬Undecodable curveWallet offCurveMessage curveStarted.engagement
    ∧ Reports curveWallet .decodingError curveStarted
      (curveStarted.apply curveWallet offCurveEvent).2.2
    ∧ accepted (curveStarted.apply curveWallet offCurveEvent).2.2.trace
      = [0x00 :: statusMessage .decodingError]
  := by
  obtain ⟨started, -, refused, heard⟩ := offCurve_outcome
  obtain ⟨⟨establishment, engagement⟩, hread, hrefused⟩ := (Option.any_eq_true _ _).mp refused
  obtain ⟨reason, derive_eq⟩ := exists_of_refusesKey hrefused
  have opening := opening_of_readEstablishment (Except.toOption_eq_some_iff.mp hread)
  have unkeyed : Unkeyed curveWallet offCurveMessage curveStarted.engagement
      (.invalidReaderKey reason) := .derive opening derive_eq
  have parse_eq : Fragment.parse (0x00 :: offCurveMessage) = .ok (.last, offCurveMessage) := rfl
  refine ⟨reached_curveStarted, started, parse_eq, reassembly_append_offCurve, ⟨reason, unkeyed⟩,
    fun undecodable => undecodable.not_unkeyed unkeyed, ?_, heard⟩
  have step := apply_step curveWallet offCurveEvent curveStarted
  have engaged : curveStarted.engagement.isSome := by
    rw [opening.held_eq]
    rfl
  have reported := step.reported_or_shown engaged started parse_eq
    (status_of_last curveWallet started parse_eq)
  rw [reassembly_append_offCurve] at reported
  rcases reported with ⟨status, diagnosis, reports⟩ | ⟨readable, -⟩
  · have status_eq : status = .decodingError := by
      apply diagnosis.eq_decodingError_iff.mpr
      refine .inr ⟨_, ?_, unkeyed⟩
      nofun
    exact status_eq ▸ reports
  · exact (readable.unobstructed.2.1 _ unkeyed).elim

end Presentment.Session
