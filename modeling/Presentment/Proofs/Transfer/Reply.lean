import Presentment.Proofs.Disclosure.Signing
import Presentment.Proofs.Transfer.Judgement
import Presentment.Proofs.Transfer.Lifecycle
import Presentment.Proofs.Transfer.Period
import Presentment.Proofs.Transfer.Resources

/-!
# The reply

When the user accepts a request, the response to it is sent as a whole or not at all.  An
`Obstacle` is what keeps it back; then the request is given up, and until another one is shown
the reader is handed no data.
-/

namespace Presentment.Session

variable {η κ : Type}

/-! ### What keeps a response back -/

/-- Why no response to a disclosure can be sent: there is none, a document has no proof, or the
response cannot be written, or encrypted. -/
inductive Obstacle (setup : Setup η κ) (state : κ) (d : Disclosure) : TransferError → Prop
  | nothing
      (nothing : d.documents = []) :
      Obstacle setup state d .noDisclosableDocument
  | proof {e : TransferError}
      (lacks : d.LacksProof setup.provider setup.credentials (authContext setup state) e) :
      Obstacle setup state d e
  | encoding {response : DeviceResponse}
      (whole : d.IsWhole setup.provider setup.credentials (authContext setup state) response)
      (unwritable : response.isWritable = false) :
      Obstacle setup state d (.codec .repeatedLabel)
  | encryption {response : DeviceResponse} {state' : κ} {cause : SecurityError}
      (whole : d.IsWhole setup.provider setup.credentials (authContext setup state) response)
      (writable : response.isWritable)
      (encrypt_eq : setup.provider.encrypt (Cbor.encode response) state = (.error cause, state')) :
      Obstacle setup state d (.encryptFailed cause)

section

variable {setup : Setup η κ} {state state' : κ} {d : Disclosure} {e e' : TransferError}
  {response : DeviceResponse}

theorem makeResponse_eq_ok_iff_isWhole (nonempty : d.documents ≠ []) :
  makeResponse setup (.established state) d = .ok response
    ↔ d.IsWhole setup.provider setup.credentials (authContext setup state) response
      ∧ response.isWritable
  := by
  rw [makeResponse_eq_ok_iff, ← Disclosure.response_eq_ok_iff_isWhole nonempty]
  constructor
  · rintro ⟨_, h, made⟩
    cases h
    exact made
  · intro made
    exact ⟨state, rfl, made⟩

/-- What keeps a response back is what comes of the attempt to make it and to encrypt it. -/
theorem obstacle_iff
    (held : ∀ disclosed ∈ d.documents, (setup.credentials.find? disclosed.documentId).isSome)
    (nonempty : d.documents ≠ []) :
  Obstacle setup state d e ↔ makeResponse setup (.established state) d = .error e
    ∨ ∃ response state' cause, makeResponse setup (.established state) d = .ok response
      ∧ setup.provider.encrypt (Cbor.encode response) state = (.error cause, state')
      ∧ .encryptFailed cause = e
  := by
  simp only [makeResponse_eq_error_iff, makeResponse_eq_ok_iff_isWhole nonempty,
    Disclosure.response_eq_error_iff held, Disclosure.response_eq_ok_iff_isWhole nonempty]
  constructor
  · intro h
    cases h with
    | nothing nothing => exact absurd nothing nonempty
    | proof lacks => exact .inl (.inl lacks)
    | encoding whole unwritable => exact .inl (.inr ⟨_, whole, unwritable, rfl⟩)
    | encryption whole writable encrypt_eq =>
      exact .inr ⟨_, _, _, ⟨whole, writable⟩, encrypt_eq, rfl⟩
  · rintro ((lacks | ⟨_, whole, unwritable, rfl⟩) | ⟨_, _, _, ⟨whole, writable⟩, encrypt_eq, rfl⟩)
    · exact .proof lacks
    · exact .encoding whole unwritable
    · exact .encryption whole writable encrypt_eq

theorem Obstacle.eq_of_nil (h : Obstacle setup state d e) (nothing : d.documents = []) :
  e = .noDisclosableDocument
  := by
  cases h with
  | nothing => rfl
  | proof lacks => exact absurd nothing lacks.ne_nil
  | encoding whole | encryption whole => exact absurd nothing whole.ne_nil

/-- Only one failure keeps a response back. -/
theorem Obstacle.unique
    (held : ∀ disclosed ∈ d.documents, (setup.credentials.find? disclosed.documentId).isSome)
    (h : Obstacle setup state d e) (h' : Obstacle setup state d e') :
  e = e'
  := by
  by_cases nothing : d.documents = []
  · rw [h.eq_of_nil nothing, h'.eq_of_nil nothing]
  · rcases (obstacle_iff held nothing).mp h with made | ⟨_, _, _, made, encrypt_eq, rfl⟩
    · rcases (obstacle_iff held nothing).mp h' with made' | ⟨_, _, _, made', -, -⟩
      · cases made.symm.trans made'
        rfl
      · cases made.symm.trans made'
    · rcases (obstacle_iff held nothing).mp h' with made' | ⟨_, _, _, made', encrypt_eq', rfl⟩
      · cases made.symm.trans made'
      · cases made.symm.trans made'
        cases encrypt_eq.symm.trans encrypt_eq'
        rfl

/-- Nothing keeps a response back that was made and encrypted. -/
theorem not_obstacle {data : Bytes}
    (held : ∀ disclosed ∈ d.documents, (setup.credentials.find? disclosed.documentId).isSome)
    (nonempty : d.documents ≠ [])
    (response_eq : makeResponse setup (.established state) d = .ok response)
    (encrypt_eq : setup.provider.encrypt (Cbor.encode response) state = (.ok data, state')) :
  ¬Obstacle setup state d e
  := by
  intro h
  rcases (obstacle_iff held nonempty).mp h with failed | ⟨_, _, _, made, failed, -⟩
  · cases response_eq.symm.trans failed
  · cases response_eq.symm.trans made
    cases encrypt_eq.symm.trans failed

theorem ne_nil_of_isEmpty_eq_false (h : d.isEmpty = false) :
  d.documents ≠ []
  := List.isEmpty_eq_false_iff.mp h

/-- What keeps a session from answering its request keeps the response back. -/
theorem Unanswered.obstacle {s : Session η κ} {requests : List ItemsRequest}
    {items : Option Selection} {actions : List Action} {status : Option SessionStatus}
    (h : Unanswered setup s items e actions status) (pending_eq : s.pending = some requests)
    (tunnel_eq : s.tunnel = .established state) :
  Obstacle setup state (.filter setup.credentials (.verifier requests items)) e
  := by
  have held := Disclosure.filter_documentId setup.credentials requests items
  cases h with
  | unasked pending => cases pending.symm.trans pending_eq
  | empty pending empty =>
    cases pending.symm.trans pending_eq
    exact .nothing (List.isEmpty_iff.mp empty)
  | make pending nonempty response_eq =>
    cases pending.symm.trans pending_eq
    rw [tunnel_eq] at response_eq
    exact (obstacle_iff held (ne_nil_of_isEmpty_eq_false nonempty)).mpr (.inl response_eq)
  | encrypt pending nonempty response_eq tunnel encrypt_eq =>
    cases pending.symm.trans pending_eq
    cases tunnel.symm.trans tunnel_eq
    rw [tunnel_eq] at response_eq
    exact (obstacle_iff held (ne_nil_of_isEmpty_eq_false nonempty)).mpr
      (.inr ⟨_, _, _, response_eq, encrypt_eq, rfl⟩)

end

/-! ### What the reader is handed -/

/-- The reader is handed no data: none is queued, and only statuses are sent. -/
structure Withholds (actions : List Action) : Prop where
  queue : ∀ message, .queue message ∉ actions
  notify : ∀ c value accepted, .notify c value accepted ∈ actions →
    ∃ status block, value ∈ Fragment.frame (statusMessage status) block

section

variable {setup : Setup η κ} {s s' t : Session η κ} {event : Event} {followUps : List Event}
  {actions : List Action}

theorem Withholds.nil :
  Withholds []
  := by
  constructor
  · exact fun message => List.not_mem_nil
  · intro c value accepted h
    cases h

theorem Withholds.append {before after : List Action} (h : Withholds before)
    (h' : Withholds after) :
  Withholds (before ++ after)
  := by
  constructor
  case queue =>
    intro message hqueue
    rcases List.mem_append.mp hqueue with hqueue | hqueue
    · exact h.queue message hqueue
    · exact h'.queue message hqueue
  case notify =>
    intro c value accepted hnotify
    rcases List.mem_append.mp hnotify with hnotify | hnotify
    · exact h.notify c value accepted hnotify
    · exact h'.notify c value accepted hnotify

/-- As long as nothing is queued and no response is under way, only statuses are sent. -/
theorem Utterance.withholds (h : Utterance setup s actions s') (gates_eq : gates actions = [])
    (outgoing_eq : s.status = .userSelected → s.outgoing = []) :
  Withholds actions
  := by
  constructor
  case queue =>
    intro message hqueue
    have hgate : .queue message ∈ gates actions := mem_gates_iff.mpr ⟨hqueue, rfl⟩
    rw [gates_eq] at hgate
    cases hgate
  case notify =>
    intro c value accepted hnotify
    cases h with
    | nothing quiet => exact absurd hnotify quiet.not_notify
    | ready quiet =>
      rcases List.mem_cons.mp hnotify with hnotify | hnotify
      · cases hnotify
      · exact absurd hnotify quiet.not_notify
    | @status before after status _ _ _ silent quiet frame_eq =>
      rcases List.mem_append.mp hnotify with hnotify | hnotify
      · rcases List.mem_append.mp hnotify with hnotify | hnotify
        · exact absurd (List.mem_append_left after hnotify) quiet.not_notify
        · use status, setup.block (setup.host.replay before s.host).2
          rw [frame_eq]
          exact (of_mem_notices hnotify).2
      · exact absurd (List.mem_append_right before hnotify) quiet.not_notify
    | response => simp [Action.isGate] at gates_eq
    | more status_eq sent_eq =>
      have value_mem := (of_mem_notices hnotify).2
      rw [← sent_eq, outgoing_eq status_eq] at value_mem
      cases value_mem

/-- A session that neither waits for a decision nor has anything to send hands out no data, and
stays so, unless it shows a request. -/
theorem Step.withholds (step : Step setup s event followUps s') (pending_eq : s.pending = none)
    (outgoing_eq : s.outgoing = []) (same : s'.cycle = s.cycle) :
  s'.pending = none ∧ s'.outgoing = []
    ∧ ∃ actions, s'.trace = s.trace ++ actions ∧ Withholds actions
  := by
  obtain ⟨added, trace_eq, gate⟩ := step.gate
  obtain ⟨actions, took, utterance⟩ := step.utterance
  cases List.append_cancel_left (trace_eq.symm.trans took.trace_eq)
  cases gate with
  | pass gates_eq pending outgoing =>
    constructor
    · rw [Option.eq_none_iff_forall_not_mem]
      intro requests hrequests
      obtain ⟨hpending, -⟩ := pending requests hrequests
      rw [pending_eq] at hpending
      cases hpending
    · rw [outgoing_eq] at outgoing
      use List.subset_nil.mp outgoing, added, trace_eq
      exact utterance.withholds gates_eq (fun _ => outgoing_eq)
  | ask _ _ _ cycle_eq =>
    rw [cycle_eq] at same
    exact absurd same (Nat.succ_ne_self _)
  | respond _ _ _ _ waits => cases pending_eq.symm.trans waits

/-- Requests are counted up. -/
theorem Step.cycle_le (step : Step setup s event followUps s') :
  s.cycle ≤ s'.cycle
  := by
  cases step with
  | stay | subscribe | unsubscribe | gather => exact Nat.le_refl _
  | ask _ _ _ _ _ _ _ called =>
    exact (Nat.le_succ s.cycle).trans (called.same Session.cycle (fun _ _ _ => rfl)).ge
  | fail _ called | leave _ called | setUp _ _ called | advertise _ _ _ called | connect _ _ called
  | start _ called | respond _ _ _ _ _ _ _ _ _ called | sendMore _ _ called | finish _ called
  | recover _ called =>
    exact (called.same Session.cycle (fun _ _ _ => rfl)).ge

/-- A session that comes from `s` by applying events, while things happen to the host. -/
inductive Continues (setup : Setup η κ) (s : Session η κ) : Session η κ → Prop
  | refl : Continues setup s s
  | apply {t : Session η κ} (event : Event) :
      Continues setup s t → Continues setup s (t.apply setup event).2.2
  | outside {t : Session η κ} (host : η) (posted : List Event) :
      Continues setup s t → Continues setup s { t with host := host, posted := posted }

/-- Until another request is shown no data is handed out. -/
theorem Continues.withholds (h : Continues setup s t) (pending_eq : s.pending = none)
    (outgoing_eq : s.outgoing = []) :
  s.cycle ≤ t.cycle ∧ (t.cycle = s.cycle → t.pending = none ∧ t.outgoing = []
    ∧ ∃ actions, t.trace = s.trace ++ actions ∧ Withholds actions)
  := by
  induction h with
  | refl => exact ⟨Nat.le_refl _, fun _ =>
    ⟨pending_eq, outgoing_eq, [], (List.append_nil _).symm, .nil⟩⟩
  | @apply t event _ ih =>
    obtain ⟨le, withheld⟩ := ih
    have step := apply_step setup event t
    use le.trans step.cycle_le
    intro same
    have same_t : t.cycle = s.cycle := Nat.le_antisymm (same ▸ step.cycle_le) le
    obtain ⟨pending_t, outgoing_t, actions, trace_t, withholds⟩ := withheld same_t
    obtain ⟨pending', outgoing', actions', trace', withholds'⟩ :=
      step.withholds pending_t outgoing_t (same.trans same_t.symm)
    use pending', outgoing', actions ++ actions'
    rw [trace', trace_t, List.append_assoc]
    exact ⟨rfl, withholds.append withholds'⟩
  | outside host posted _ ih => exact ih

/-! ### What becomes of the request -/

/-- The request is given up with a failure, which the host is told: nothing of the engagement is
left, and the reader was not handed any data and will not be. -/
structure Refuses (setup : Setup η κ) (e : TransferError) (s s' : Session η κ) : Prop where
  status_eq : s'.status = .error
  outgoing_eq : s'.outgoing = []
  pending_eq : s'.pending = none
  engagement_eq : s'.engagement = none
  tunnel_eq : s'.tunnel = .closed
  lastError_eq : s'.lastError = some e
  reported : failures s'.trace = failures s.trace ++ [e]
  /-- As long as no other request is shown. -/
  withheld : ∀ t, Continues setup s' t → t.cycle = s.cycle →
    ∃ actions, t.trace = s.trace ++ actions ∧ Withholds actions

/-- The whole response is encrypted and queued, and sent as far as the radio takes it. -/
structure Replies (setup : Setup η κ) (state : κ) (d : Disclosure) (s s' : Session η κ) :
    Prop where
  status_eq : s'.status = .userSelected
  replied : ∃ response data state' sent,
    d.IsWhole setup.provider setup.credentials (authContext setup state) response
      ∧ setup.provider.encrypt (Cbor.encode response) state = (.ok data, state')
      ∧ Fragment.frame (responseMessage data)
          (setup.block (setup.host.replay [.statusChanged .userSelected] s.host).2)
        = sent ++ s'.outgoing
      ∧ s'.trace = s.trace ++ ([Action.statusChanged .userSelected,
          Action.encrypt (Cbor.encode response), Action.queue (responseMessage data)]
        ++ notices sent s'.outgoing)

/-- A failure is told once. -/
theorem Fault.failures_eq {e : TransferError} {supply : Supply}
    (fault : Fault setup s event e supply actions) :
  failures actions = [e]
  := by
  obtain ⟨-, attempted, -, told⟩ := fault.exists_attempted
  rw [← failures_milestones, told]
  cases attempted with
  | none => rfl
  | some next => rfl

theorem Fault.refuses {e : TransferError} {supply : Supply}
    (fault : Fault setup s event e supply actions)
    (called : Called setup actions
      { s.released .error with
        supply := supply
        lastError := some e } s')
    (unsent : s.status ≠ .userSelected) :
  Refuses setup e s s'
  := by
  have took : Took setup actions s s' := called.tookFrom rfl rfl rfl
  have withholds : Withholds actions :=
    (fault.utterance called.status_eq).withholds fault.gates_eq (fun h => absurd h unsent)
  have cycle_eq : s'.cycle = s.cycle := called.same Session.cycle (fun _ _ _ => rfl)
  have pending_eq : s'.pending = none := called.same Session.pending (fun _ _ _ => rfl)
  have outgoing_eq : s'.outgoing = [] := called.same Session.outgoing (fun _ _ _ => rfl)
  constructor
  case status_eq => exact called.status_eq
  case outgoing_eq => exact outgoing_eq
  case pending_eq => exact pending_eq
  case engagement_eq => exact called.same Session.engagement (fun _ _ _ => rfl)
  case tunnel_eq => exact called.same Session.tunnel (fun _ _ _ => rfl)
  case lastError_eq => exact called.same Session.lastError (fun _ _ _ => rfl)
  case reported => rw [took.trace_eq, failures_append, fault.failures_eq]
  case withheld =>
    intro t continues same
    obtain ⟨-, withheld⟩ := continues.withholds pending_eq outgoing_eq
    obtain ⟨-, -, later, trace_eq, withholds'⟩ := withheld (same.trans cycle_eq.symm)
    use actions ++ later
    rw [trace_eq, took.trace_eq, List.append_assoc]
    exact ⟨rfl, withholds.append withholds'⟩

/-- When the user accepts in time, something keeps the response back, or it is sent. -/
theorem Step.of_accepted {decision : Decision} {requests : List ItemsRequest} {state : κ}
    (step : Step setup s (.consent decision) followUps s')
    (status_eq : s.status = .requestReceived) (accepted : decision.accepted)
    (cycle_eq : decision.cycle = s.cycle) (pending_eq : s.pending = some requests)
    (tunnel_eq : s.tunnel = .established state) :
  (∃ e, Obstacle setup state (.filter setup.credentials (.verifier requests decision.items)) e
      ∧ Refuses setup e s s')
    ∨ (∀ e,
        ¬Obstacle setup state (.filter setup.credentials (.verifier requests decision.items)) e)
      ∧ Replies setup state (.filter setup.credentials (.verifier requests decision.items)) s s'
  := by
  have enters : (transition s.snapshot (.consent decision)).next = some .userSelected := by
    simp [transition, snapshot, Transition.ofDecision, status_eq, cycle_eq, accepted,
      Transition.enter]
  have unsent : s.status ≠ .userSelected := by
    rw [status_eq]
    rintro ⟨⟩
  cases step with
  | stay next_eq | leave _ _ next_eq => cases enters.symm.trans next_eq
  | fail fault called =>
    have refuses := fault.refuses called unsent
    cases fault with
    | response _ _ _ unanswered =>
      exact .inl ⟨_, unanswered.obstacle pending_eq tunnel_eq, refuses⟩
    | rejection _ rejected => cases accepted.symm.trans rejected
  | @respond _ _ response _ state' data sent rest _ _ _ _ pending nonempty response_eq tunnel
      encrypt_eq frame_eq called =>
    cases pending.symm.trans pending_eq
    cases tunnel.symm.trans tunnel_eq
    rw [tunnel] at response_eq
    have held := Disclosure.filter_documentId setup.credentials requests decision.items
    have ne_nil := ne_nil_of_isEmpty_eq_false nonempty
    have took : Took setup _ s s' := called.tookFrom rfl rfl rfl
    have outgoing_eq : s'.outgoing = rest := called.same Session.outgoing (fun _ _ _ => rfl)
    rw [← outgoing_eq] at frame_eq took
    apply Or.inr
    use fun e => not_obstacle held ne_nil response_eq encrypt_eq
    constructor
    case status_eq => exact called.status_eq
    case replied =>
      obtain ⟨whole, -⟩ := (makeResponse_eq_ok_iff_isWhole ne_nil).mp response_eq
      exact ⟨response, data, state', sent, whole, encrypt_eq, frame_eq, took.trace_eq⟩

/-! ### From the prompt to the reply -/

/-- While the user decides, the last thing that was done is to show the request. -/
theorem Step.prompted (step : Step setup s event followUps s')
    (ih : s.status = .requestReceived → ∃ prompt, s.trace.getLast? = some (.prompt prompt s.cycle))
    (h : s'.status = .requestReceived) :
  ∃ prompt, s'.trace.getLast? = some (.prompt prompt s'.cycle)
  := by
  cases step with
  | stay | subscribe | unsubscribe => exact ih h
  | gather status_eq => cases status_eq.symm.trans h
  | ask _ _ _ _ _ _ _ called =>
    have took : Took setup _ s s' := called.tookFrom rfl rfl rfl
    rw [took.trace_eq, called.same Session.cycle (fun _ _ _ => rfl), ← List.append_assoc]
    exact ⟨_, List.getLast?_append_of_ne_nil _ (List.cons_ne_nil _ _)⟩
  | sendMore status_eq _ called => cases status_eq.symm.trans (called.status_eq.symm.trans h)
  | fail _ called | leave _ called | setUp _ _ called | advertise _ _ _ called
  | connect _ _ called | start _ called | respond _ _ _ _ _ _ _ _ _ called | finish _ called
  | recover _ called => cases called.status_eq.symm.trans h

theorem Reached.prompted (h : Reached setup s) :
  s.status = .requestReceived → ∃ prompt, s.trace.getLast? = some (.prompt prompt s.cycle)
  := by
  induction h with
  | fresh supply host =>
    intro h
    cases h
  | apply event _ ih => exact (apply_step setup event _).prompted ih
  | outside host posted _ ih => exact ih

/-- The last prompt shows the request that waits, and nothing was done since. -/
theorem Reached.getLast?_trace {requests : List ItemsRequest} (h : Reached setup s)
    (status_eq : s.status = .requestReceived) (pending_eq : s.pending = some requests) :
  ∃ readerAuth, s.trace.getLast?
    = some (.prompt (promptFor setup.credentials requests readerAuth) s.cycle)
  := by
  obtain ⟨prompt, last⟩ := h.prompted status_eq
  obtain ⟨isPrompted, -⟩ := h.gates_inv
  obtain ⟨readerAuth, shown⟩ := isPrompted requests pending_eq
  use readerAuth
  obtain ⟨before, trace_eq⟩ := List.getLast?_eq_some_iff.mp last
  have gates_eq : gates s.trace = gates before ++ [.prompt prompt s.cycle] := by
    rw [trace_eq, gates_append]
    rfl
  rw [gates_eq, List.getLast?_concat] at shown
  rw [last, shown]

/-- A decision on another request than the one that was shown last changes nothing. -/
theorem apply_of_cycle_ne (setup : Setup η κ) {decision : Decision}
    (cycle_ne : decision.cycle ≠ s.cycle) :
  (s.apply setup (.consent decision)).2 = ([], s)
  := by
  have stay : transition s.snapshot (.consent decision) = .stay :=
    if_neg (fun h => cycle_ne h.2)
  rw [apply_of_stay setup stay rfl rfl]
  exact Progress.result_of_none setup rfl

/-- When the user accepts a request, the response to it is sent as a whole or not at all: if
anything keeps it back, as any one document does that has no proof, the request is given up with
this failure; otherwise every disclosed document is returned with a proof of its device key. -/
theorem Reached.refuses_or_replies {decision : Decision} (h : Reached setup s)
    (status_eq : s.status = .requestReceived) (accepted : decision.accepted) :
  ∃ requests state readerAuth d, s.pending = some requests ∧ s.tunnel = .established state
    ∧ s.trace.getLast?
      = some (.prompt (promptFor setup.credentials requests readerAuth) s.cycle)
    ∧ d = .filter setup.credentials (.verifier requests decision.items)
    ∧ ((∃ e, d.LacksProof setup.provider setup.credentials (authContext setup state) e) ↔
      ∃ disclosed ∈ d.documents, ∃ cause, Disclosure.proof? setup.provider setup.credentials
        (authContext setup state) disclosed = some (.error cause))
    ∧ (decision.cycle ≠ s.cycle → (s.apply setup (.consent decision)).2 = ([], s))
    ∧ (decision.cycle = s.cycle →
      (∀ e, Obstacle setup state d e → Refuses setup e s (s.apply setup (.consent decision)).2.2)
      ∧ ((∀ e, ¬Obstacle setup state d e) →
        Replies setup state d s (s.apply setup (.consent decision)).2.2))
  := by
  have settles := h.settles
  have secured := settles.tunnel
  have waits := settles.pending
  rw [status_eq] at secured waits
  obtain ⟨requests, pending_eq⟩ := Option.isSome_iff_exists.mp waits
  obtain ⟨readerAuth, last⟩ := h.getLast?_trace status_eq pending_eq
  cases tunnel_eq : s.tunnel with
  | closed =>
    rw [tunnel_eq] at secured
    cases secured
  | established state =>
    have held := Disclosure.filter_documentId setup.credentials requests decision.items
    refine ⟨requests, state, readerAuth, _, pending_eq, rfl, last, rfl,
      Disclosure.exists_lacksProof_iff held, apply_of_cycle_ne setup, ?_⟩
    intro cycle_eq
    have step := apply_step setup (.consent decision) s
    rcases step.of_accepted status_eq accepted cycle_eq pending_eq tunnel_eq with
      ⟨e, obstacle, refuses⟩ | ⟨unobstructed, replies⟩
    · constructor
      · intro e' obstacle'
        exact obstacle.unique held obstacle' ▸ refuses
      · exact fun unobstructed => absurd obstacle (unobstructed e)
    · use fun e obstacle => absurd obstacle (unobstructed e)
      exact fun _ => replies

end

/-! ### A key that is locked -/

/-- A wallet with two documents with a name, which cannot use the device key of one of them. -/
def lockedWallet : Setup Radio Plain.Encryption :=
  { nameWallet with
    credentials := .ofList [
      { id := "id", docType := "doc", issuerSigned := nameDocument, privateKey := default },
      { id := "id2", docType := "other", issuerSigned := nameDocument, privateKey := default }]
    provider := { Plain.provider {} with
      deviceAuth := fun request =>
        if request.docType = "doc" then .error (.deviceAuth "locked")
        else Plain.deviceAuth {} request } }

/-- A session to which the reader has sent the request for both documents, the one with the
locked key last. -/
def lockedAsked : Session Radio Plain.Encryption :=
  [.setUp, .transportState .ready, .subscribed .state, .subscribed .server2Client,
      .write .state Channel.startMarker, mixedEvent].foldl
    (fun s event => (s.apply lockedWallet event).2.2)
    (.fresh ⟨fun _ => default, fun _ => .ofNat 1, 0, 0⟩ {})

/-- The choice of the name in the other document. -/
def otherName : Selection :=
  .ofList [("other", .ofList [("ns", ["name"])])]

/-- Nothing is sent if the user accepts to return both documents, although the first one has a
proof; if the user chooses it alone, it is sent. -/
theorem refuses_or_replies_locked :
  lockedAsked.status = .requestReceived
    ∧ Reached lockedWallet lockedAsked
    ∧ Refuses lockedWallet (.deviceAuthFailed "doc" (.deviceAuth "locked")) lockedAsked
      (lockedAsked.apply lockedWallet (.consent ⟨true, none, 1⟩)).2.2
    ∧ ∃ state d, Replies lockedWallet state d lockedAsked
      (lockedAsked.apply lockedWallet (.consent ⟨true, some otherName, 1⟩)).2.2
  := by
  have reached : Reached lockedWallet lockedAsked := Reached.foldl (.fresh _ _) _
  have outcome : lockedAsked.status = .requestReceived
      ∧ lockedAsked.cycle = 1
      ∧ (lockedAsked.apply lockedWallet (.consent ⟨true, none, 1⟩)).2.2.status = .error
      ∧ (lockedAsked.apply lockedWallet (.consent ⟨true, none, 1⟩)).2.2.lastError
        = some (.deviceAuthFailed "doc" (.deviceAuth "locked"))
      ∧ (lockedAsked.apply lockedWallet (.consent ⟨true, some otherName, 1⟩)).2.2.status
        = .userSelected := by
    decide +kernel
  obtain ⟨status_eq, cycle_eq, failed, lastError_eq, selected⟩ := outcome
  have both : (⟨true, none, 1⟩ : Decision).accepted := rfl
  have one : (⟨true, some otherName, 1⟩ : Decision).accepted := rfl
  use status_eq, reached
  constructor
  · obtain ⟨_, _, _, _, -, -, -, -, -, -, answered⟩ := reached.refuses_or_replies status_eq both
    obtain ⟨refused, replied⟩ := answered cycle_eq.symm
    by_contra unrefused
    refine absurd (failed.symm.trans (replied ?_).status_eq) (by decide)
    intro e obstacle
    have refuses := refused e obstacle
    cases refuses.lastError_eq.symm.trans lastError_eq
    exact unrefused refuses
  · obtain ⟨_, state, _, d, -, -, -, -, -, -, answered⟩ := reached.refuses_or_replies status_eq one
    obtain ⟨refused, replied⟩ := answered cycle_eq.symm
    use state, d
    apply replied
    intro e obstacle
    cases selected.symm.trans (refused e obstacle).status_eq

end Presentment.Session
