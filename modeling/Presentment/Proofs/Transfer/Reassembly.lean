import Presentment.Proofs.Fragment
import Presentment.Proofs.Transfer.Lifecycle

/-!
# Reassembly

A session gathers what the reader writes, fragment by fragment, and its table of transitions reads
their headers.  `Fragment.append` does both at once.  The invariant is that a started session holds
what the fragments carry that were acknowledged since the start marker, whatever else happened in
between, and that the message is not complete; so the request that is read is the message that
`Fragment.reassemble?` makes of these fragments.
-/

namespace Presentment

namespace Occurrence

variable {η κ : Type}

/-- The answer to the reader. -/
def answer (setup : Setup η κ) (o : Occurrence η κ) : Acknowledgement :=
  (o.session.apply setup o.event).1

/-- Whether the start marker was written and acknowledged. -/
def isStart (setup : Setup η κ) (o : Occurrence η κ) : Bool :=
  o.event = .write .state Channel.startMarker && o.answer setup = .success

/-- The data that was written and acknowledged, if some was. -/
def fragment? (setup : Setup η κ) (o : Occurrence η κ) : Option Bytes :=
  match o.event with
  | .write .client2Server value => if o.answer setup = .success then some value else none
  | _ => none

/-- The statuses that the host was told. -/
def told (setup : Setup η κ) (o : Occurrence η κ) : List TransferStatus :=
  Session.statuses ((o.session.apply setup o.event).2.2.trace.drop o.session.trace.length)

/-- A status that was told is among the actions. -/
theorem mem_of_mem_told {setup : Setup η κ} {o : Occurrence η κ} {status : TransferStatus}
    {actions : List Action} (h : status ∈ o.told setup)
    (trace_eq : (o.session.apply setup o.event).2.2.trace = o.session.trace ++ actions) :
  .statusChanged status ∈ actions
  := by
  rw [told, trace_eq, List.drop_left] at h
  obtain ⟨action, mem, heq⟩ := List.mem_filterMap.mp h
  cases action with
  | statusChanged status' =>
    cases heq
    exact mem
  | _ => cases heq

end Occurrence

/-- A transition does with what the reader writes what appending it to what was gathered does. -/
structure Transition.Appends (t : Transition) (buffer value : Bytes) : Prop where
  acknowledgement_eq :
    t.acknowledgement = .success ↔ ∃ result, Fragment.append buffer value = .ok result
  of_error {e : Fragment.Error} : Fragment.append buffer value = .error e → t = .reject
  of_ok {header : Fragment.Header} {gathered : Bytes} :
    Fragment.append buffer value = .ok (header, gathered) →
      ∃ payload, gathered = buffer ++ payload
        ∧ t.effects = [.appendFragment payload]
        ∧ t.next = if header = .last then some .requestReceived else none

/-- The table of transitions takes a fragment exactly if it can be appended, and to the same
effect. -/
theorem Transition.ofWrite_appends (buffer value : Bytes) :
  (ofWrite .started .client2Server value).Appends buffer value
  := by
  rw [ofWrite_started]
  cases hparse : Fragment.parse value with
  | error e =>
    have append_eq := Fragment.append_of_parse_error hparse buffer
    constructor
    · rw [append_eq]
      simp [ofFragment, reject]
    · intro _ _
      rfl
    · intro _ _ h
      rw [append_eq] at h
      cases h
  | ok result =>
    obtain ⟨header, payload⟩ := result
    have append_eq := Fragment.append_of_parse hparse buffer
    constructor
    · rw [append_eq]
      cases header with
      | more | last => simp [ofFragment, enter]
    · intro _ h
      rw [append_eq] at h
      cases h
    · intro _ _ h
      rw [append_eq] at h
      cases h
      use payload, rfl
      cases header with
      | more | last => exact ⟨rfl, rfl⟩

namespace Session

variable {η κ : Type}

/-! ### Since the start marker -/

/-- The fragments that were acknowledged since the last start marker that was. -/
def SinceStart (setup : Setup η κ) (log : List (Occurrence η κ)) (fragments : List Bytes) : Prop :=
  ∃ before start between, log = before ++ start :: between
    ∧ start.isStart setup
    ∧ (∀ o ∈ between, o.isStart setup = false)
    ∧ fragments = between.filterMap (Occurrence.fragment? setup)

section

variable {setup : Setup η κ} {log : List (Occurrence η κ)} {o : Occurrence η κ}
  {fragments : List Bytes}

theorem sinceStart_start (h : o.isStart setup) :
  SinceStart setup (log ++ [o]) []
  := ⟨log, o, [], rfl, h, fun _ ho => absurd ho List.not_mem_nil, rfl⟩

theorem SinceStart.concat (h : SinceStart setup log fragments) (later : o.isStart setup = false) :
  SinceStart setup (log ++ [o]) (fragments ++ (o.fragment? setup).toList)
  := by
  obtain ⟨before, start, between, rfl, hstart, hbetween, rfl⟩ := h
  refine ⟨before, start, between ++ [o], List.append_assoc _ _ _, hstart, ?_, ?_⟩
  · intro o' ho'
    rcases List.mem_append.mp ho' with ho' | ho'
    · exact hbetween o' ho'
    · rw [List.mem_singleton.mp ho']
      exact later
  · rw [List.filterMap_append]
    cases h : o.fragment? setup with
    | none => simp [h]
    | some fragment => simp [h]

end

/-! ### What is gathered -/

/-- A session holds what the fragments carry that came since the start marker, and more are to
come. -/
structure HasGathered (setup : Setup η κ) (log : List (Occurrence η κ)) (fragments : List Bytes)
    (s : Session η κ) : Prop where
  since : SinceStart setup log fragments
  incomplete : Fragment.reassemble? fragments = .ok none
  reassembly_eq : s.reassembly = Fragment.payloads fragments

section

variable {setup : Setup η κ} {s s' : Session η κ} {event : Event} {followUps : List Event}
  {log : List (Occurrence η κ)} {waiting : List Event}

/-- In a started session nothing but fragments is taken from the reader. -/
theorem transition_eq_reject (status_eq : s.status = .started) {c : Characteristic} {value : Bytes}
    (next_eq : (transition s.snapshot (.write c value)).next = none)
    (effects_eq : (transition s.snapshot (.write c value)).effects = []) :
  transition s.snapshot (.write c value) = .reject
  := by
  rw [transition, snapshot, status_eq] at next_eq effects_eq ⊢
  cases c with
  | state | server2Client => rfl
  | client2Server =>
    dsimp only at next_eq effects_eq ⊢
    rw [Transition.ofWrite_started] at next_eq effects_eq ⊢
    cases hparse : Fragment.parse value with
    | error e => rfl
    | ok result =>
      obtain ⟨header, payload⟩ := result
      rw [hparse] at effects_eq
      cases header with
      | more | last => cases effects_eq

/-- How a session comes to be started, or goes on. -/
inductive Accrues (s s' : Session η κ) : Event → Prop
  | start
      (status_eq : s.status = .connected)
      (reassembly_eq : s'.reassembly = []) :
      Accrues s s' (.write .state Channel.startMarker)
  | fragment {value payload : Bytes}
      (status_eq : s.status = .started)
      (parse_eq : Fragment.parse value = .ok (.more, payload))
      (reassembly_eq : s'.reassembly = s.reassembly ++ payload) :
      Accrues s s' (.write .client2Server value)
  | other {event : Event}
      (status_eq : s.status = .started)
      (reassembly_eq : s'.reassembly = s.reassembly)
      (rejected : ∀ c value, event = .write c value → transition s.snapshot event = .reject) :
      Accrues s s' event

theorem Step.accrues (step : Step setup s event followUps s') (status_eq : s'.status = .started) :
  Accrues s s' event
  := by
  cases step with
  | stay next_eq effects_eq =>
    apply Accrues.other status_eq rfl
    rintro c value rfl
    exact transition_eq_reject status_eq next_eq effects_eq
  | subscribe | unsubscribe =>
    refine .other status_eq rfl ?_
    intro _ _ h
    cases h
  | start status_eq' called =>
    exact .start status_eq' (called.same Session.reassembly (fun _ _ _ => rfl))
  | gather status_eq' parse_eq => exact .fragment status_eq' parse_eq rfl
  | fail _ called | leave _ called | setUp _ _ called | advertise _ _ _ called
  | connect _ _ called | ask _ _ _ _ _ _ _ called | respond _ _ _ _ _ _ _ _ _ called
  | finish _ called | recover _ called =>
    cases called.status_eq.symm.trans status_eq
  | sendMore status_eq' _ called =>
    cases status_eq'.symm.trans (called.status_eq.symm.trans status_eq)

/-- A write that is acknowledged counts. -/
theorem fragment?_of_write {value : Bytes} {isGiven : Bool} :
  (⟨s, .write .client2Server value, isGiven⟩ : Occurrence η κ).fragment? setup
    = if (transition s.snapshot (.write .client2Server value)).acknowledgement = .success then
        some value
      else none
  := rfl

/-- A fragment that a started session can read counts. -/
theorem SinceStart.accept {fragments : List Bytes} (h : SinceStart setup log fragments)
    (isGiven : Bool) (status_eq : s.status = .started) {value payload : Bytes}
    {header : Fragment.Header} (parse_eq : Fragment.parse value = .ok (header, payload)) :
  SinceStart setup (log ++ [⟨s, .write .client2Server value, isGiven⟩]) (fragments ++ [value])
  := by
  have later := h.concat (o := ⟨s, .write .client2Server value, isGiven⟩) rfl
  rw [fragment?_of_write, transition, snapshot, status_eq] at later
  dsimp only at later
  rw [Transition.ofWrite_started, parse_eq] at later
  cases header with
  | more | last => exact later

/-- What is rejected does not count. -/
theorem SinceStart.reject {fragments : List Bytes} (h : SinceStart setup log fragments)
    (isGiven : Bool)
    (rejected : ∀ c value, event = .write c value → transition s.snapshot event = .reject) :
  SinceStart setup (log ++ [⟨s, event, isGiven⟩]) fragments
  := by
  have idle : (⟨s, event, isGiven⟩ : Occurrence η κ).isStart setup = false
      ∧ (⟨s, event, isGiven⟩ : Occurrence η κ).fragment? setup = none := by
    cases event with
    | write c value =>
      have answer_eq : (⟨s, .write c value, isGiven⟩ : Occurrence η κ).answer setup = .rejected :=
        congrArg Transition.acknowledgement (rejected c value rfl)
      constructor
      · simp [Occurrence.isStart, answer_eq]
      · cases c with
        | client2Server => simp [Occurrence.fragment?, answer_eq]
        | _ => rfl
    | _ => exact ⟨rfl, rfl⟩
  have later := h.concat idle.1
  rwa [idle.2, Option.toList_none, List.append_nil] at later

/-- Whether an event is given or follows from another one makes no difference. -/
theorem hasGathered_of_apply {isGiven : Bool}
    (ih : s.status = .started → ∃ fragments, HasGathered setup log fragments s)
    (h : (s.apply setup event).2.2.status = .started) :
  ∃ fragments,
    HasGathered setup (log ++ [⟨s, event, isGiven⟩]) fragments (s.apply setup event).2.2
  := by
  cases (apply_step setup event s).accrues h with
  | start status_eq reassembly_eq =>
    refine ⟨[], sinceStart_start ?_, rfl, reassembly_eq⟩
    have taken : transition s.snapshot (.write .state Channel.startMarker) = .enter .started [] := by
      rw [transition, snapshot, status_eq]
      rfl
    simp [Occurrence.isStart, Occurrence.answer, apply, taken, Transition.enter]
  | @fragment value payload status_eq parse_eq reassembly_eq =>
    obtain ⟨fragments, gathered⟩ := ih status_eq
    refine ⟨fragments ++ [value], gathered.since.accept isGiven status_eq parse_eq, ?_, ?_⟩
    · exact Fragment.reassemble?_concat_more gathered.incomplete parse_eq
    · rw [reassembly_eq, gathered.reassembly_eq, Fragment.payloads_concat,
        Fragment.tail_of_parse parse_eq]
  | other status_eq reassembly_eq rejected =>
    obtain ⟨fragments, gathered⟩ := ih status_eq
    exact ⟨fragments, gathered.since.reject isGiven rejected, gathered.incomplete,
      reassembly_eq.trans gathered.reassembly_eq⟩

theorem History.hasGathered (h : History setup log waiting s) :
  s.status = .started → ∃ fragments, HasGathered setup log fragments s
  := by
  induction h with
  | fresh supply host =>
    intro h
    cases h
  | give event _ ih => exact hasGathered_of_apply ih
  | follow _ ih => exact hasGathered_of_apply ih
  | outside host posted _ ih =>
    intro status_eq
    obtain ⟨fragments, gathered⟩ := ih status_eq
    exact ⟨fragments, gathered.since, gathered.incomplete, gathered.reassembly_eq⟩

/-! ### The request -/

/-- A request is received only in a started session. -/
theorem Passage.eq_started {milestones : List Action} (passage : Passage s s' milestones)
    (mem : .statusChanged .requestReceived ∈ milestones) :
  s.status = .started
  := by
  have started (edge : s.status.Precedes .requestReceived) : s.status = .started := by
    cases hs : s.status with
    | started => rfl
    | _ =>
      rw [hs] at edge
      cases edge with
      | advance next_eq => cases next_eq
  cases passage with
  | stay => cases mem
  | enter edge =>
    cases List.mem_singleton.mp mem
    exact started edge
  | @fail attempted e edge =>
    cases attempted with
    | none => simp at mem
    | some next =>
      simp at mem
      subst mem
      exact started (edge _ rfl).1

/-- It is received when the last fragment comes. -/
theorem Step.exists_last (step : Step setup s event followUps s') (status_eq : s.status = .started)
    {actions : List Action} (trace_eq : s'.trace = s.trace ++ actions)
    (mem : .statusChanged .requestReceived ∈ actions) :
  ∃ value payload, event = .write .client2Server value
    ∧ Fragment.parse value = .ok (.last, payload)
  := by
  have told {actions' : List Action} (trace_eq' : s'.trace = s.trace ++ actions') :
      .statusChanged .requestReceived ∈ actions' := by
    rw [trace_eq] at trace_eq'
    rwa [← List.append_cancel_left trace_eq']
  have stops_quiet : .statusChanged .requestReceived ∉ s.stops := by
    rw [stops]
    split
    · simp
    · exact List.not_mem_nil
  cases step with
  | stay | subscribe | unsubscribe | gather => cases told (List.append_nil _).symm
  | ask _ parse_eq => exact ⟨_, _, rfl, parse_eq⟩
  | fail fault called =>
    have mem' := told called.took.trace_eq
    cases fault with
    | request _ parse_eq => exact ⟨_, _, rfl, parse_eq⟩
    | radio => simp [giveUp, stops_quiet] at mem'
    | credentials status_eq' | engagement status_eq' | refusal status_eq' | response status_eq'
    | rejection status_eq' =>
      cases status_eq.symm.trans status_eq'
  | leave _ called =>
    have mem' := told called.took.trace_eq
    simp [stops_quiet] at mem'
  | setUp status_eq' | advertise status_eq' | connect status_eq' | start status_eq'
  | respond status_eq' | sendMore status_eq' | finish status_eq' | recover status_eq' =>
    cases status_eq.symm.trans status_eq'

theorem exists_last_of_told {o : Occurrence η κ} (h : .requestReceived ∈ o.told setup) :
  o.session.status = .started
    ∧ ∃ value payload, o.event = .write .client2Server value
      ∧ Fragment.parse value = .ok (.last, payload)
  := by
  have step := apply_step setup o.event o.session
  obtain ⟨actions, trace_eq, passage⟩ := step.passage
  have mem := Occurrence.mem_of_mem_told h trace_eq
  have status_eq := passage.eq_started (List.mem_filter.mpr ⟨mem, rfl⟩)
  exact ⟨status_eq, step.exists_last status_eq trace_eq mem⟩

/-- What was applied had a history of its own. -/
theorem History.exists_before {before after : List (Occurrence η κ)} {o : Occurrence η κ}
    (h : History setup log waiting s) (log_eq : log = before ++ o :: after) :
  ∃ waiting', History setup before waiting' o.session
  := by
  have latest {log after : List (Occurrence η κ)} {waiting : List Event} {o' : Occurrence η κ}
      (h : History setup log waiting o'.session)
      (ih : ∀ after, log = before ++ o :: after → ∃ waiting', History setup before waiting' o.session)
      (log_eq : log ++ [o'] = before ++ o :: after) :
      ∃ waiting', History setup before waiting' o.session := by
    rcases List.eq_nil_or_concat after with rfl | ⟨after', o'', rfl⟩
    · obtain ⟨rfl, heq⟩ := List.append_inj' log_eq rfl
      cases heq
      exact ⟨waiting, h⟩
    · rw [List.concat_eq_append, ← List.cons_append, ← List.append_assoc] at log_eq
      exact ih after' (List.append_inj' log_eq rfl).1
  induction h generalizing after with
  | fresh supply host => simp at log_eq
  | give event h ih => exact latest h (fun _ => ih) log_eq
  | follow h ih => exact latest h (fun _ => ih) log_eq
  | outside host posted _ ih => exact ih log_eq

/-- The message whose last fragment comes is what the codec makes of the fragments. -/
theorem History.exists_message (h : History setup log waiting s) (isGiven : Bool)
    {value payload : Bytes} (status_eq : s.status = .started)
    (parse_eq : Fragment.parse value = .ok (.last, payload)) :
  ∃ fragments, SinceStart setup (log ++ [⟨s, .write .client2Server value, isGiven⟩]) fragments
    ∧ Fragment.reassemble? fragments = .ok (some (s.reassembly ++ payload))
    ∧ s.reassembly ++ payload = Fragment.payloads fragments
  := by
  obtain ⟨fragments, gathered⟩ := h.hasGathered status_eq
  refine ⟨fragments ++ [value], gathered.since.accept isGiven status_eq parse_eq, ?_, ?_⟩
  · rw [gathered.reassembly_eq]
    exact Fragment.reassemble?_concat_last gathered.incomplete parse_eq
  · rw [gathered.reassembly_eq, Fragment.payloads_concat, Fragment.tail_of_parse parse_eq]

/-- What a session makes of a message in its engagement: it decodes the message, and it fails unless
there is a request in it, which then waits for the user. -/
inductive Reads (setup : Setup η κ) (message : Bytes) (held : Option Engagement)
    (s' : Session η κ) : Prop
  | fail {e : TransferError} {done : List Action}
      (unread : Unread setup message held e done)
      (status_eq : s'.status = .error)
      (lastError_eq : s'.lastError = some e)
  | ask {text : Bytes} {establishment : SessionEstablishment} {engagement : Engagement}
      {state state' : κ} {request : DeviceRequest}
      (read_eq : readEstablishment message held = .ok (establishment, engagement))
      (derive_eq : setup.provider.derive establishment engagement .qr = .ok state)
      (decrypt_eq : setup.provider.decrypt establishment.data state = (.ok text, state'))
      (decode_eq : Cbor.decode text = .ok request)
      (status_eq : s'.status = .requestReceived)
      (pending_eq : s'.pending = some request.itemsRequests)

/-- What was gathered is read when the last fragment comes. -/
theorem Step.reads {value payload : Bytes} (status_eq : s.status = .started)
    (parse_eq : Fragment.parse value = .ok (.last, payload))
    (step : Step setup s (.write .client2Server value) followUps s') :
  Reads setup (s.reassembly ++ payload) s.engagement s'
  := by
  have next_eq : (transition s.snapshot (.write .client2Server value)).next
      = some .requestReceived := by
    simp [transition, snapshot, Transition.ofWrite_started, Transition.ofFragment, status_eq,
      parse_eq, Transition.enter]
  cases step with
  | stay next_eq' => cases next_eq.symm.trans next_eq'
  | leave _ _ next_eq' => cases next_eq.symm.trans next_eq'
  | gather _ parse_eq' => cases parse_eq.symm.trans parse_eq'
  | fail fault called =>
    cases fault with
    | request _ parse_eq' unread =>
      cases parse_eq.symm.trans parse_eq'
      exact .fail unread (called.same Session.status (fun _ _ _ => rfl))
        (called.same Session.lastError (fun _ _ _ => rfl))
  | ask _ parse_eq' read_eq derive_eq decrypt_eq decode_eq _ called =>
    cases parse_eq.symm.trans parse_eq'
    exact .ask read_eq derive_eq decrypt_eq decode_eq
      (called.same Session.status (fun _ _ _ => rfl))
      (called.same Session.pending (fun _ _ _ => rfl))

/-- The request that is read is the message that the codec makes of the fragments that were
acknowledged since the start marker; and each write to a started session counts as the codec takes
it. -/
theorem request_isReassembled (h : History setup log waiting s) :
  (∀ before o after, log = before ++ o :: after → .requestReceived ∈ o.told setup →
    ∃ fragments message, SinceStart setup (before ++ [o]) fragments
      ∧ Fragment.reassemble? fragments = .ok (some message)
      ∧ message = Fragment.payloads fragments
      ∧ Reads setup message o.session.engagement (o.session.apply setup o.event).2.2
      ∧ ∃ s₁ : Session η κ, s₁.reassembly = message
        ∧ Called setup ([Action.statusChanged .requestReceived] ++ o.session.stops)
          { o.session with
            status := .requestReceived
            reassembly := message
            isAdvertising := false } s₁
        ∧ (o.session.apply setup o.event).2
          = (Progress.perform setup [.processRequest] ⟨s₁, none, []⟩).result setup)
    ∧ (s.status = .started → ∀ value,
      (transition s.snapshot (.write .client2Server value)).Appends s.reassembly value
        ∧ ∀ gathered, Fragment.append s.reassembly value = .ok (.more, gathered) →
          (s.apply setup (.write .client2Server value)).2 = ([], { s with reassembly := gathered }))
  := by
  constructor
  · rintro before ⟨s₀, event, isGiven⟩ after log_eq told
    obtain ⟨status_eq, value, payload, rfl, parse_eq⟩ := exists_last_of_told told
    obtain ⟨waiting', earlier⟩ := h.exists_before log_eq
    obtain ⟨fragments, since, reassembled, carried⟩ :=
      earlier.exists_message isGiven status_eq parse_eq
    obtain ⟨s₁, called, applied⟩ := apply_of_last setup status_eq parse_eq
    have held : s₁.reassembly = s₀.reassembly ++ payload :=
      called.same Session.reassembly (fun _ _ _ => rfl)
    have reads := (apply_step setup _ s₀).reads status_eq parse_eq
    exact ⟨fragments, _, since, reassembled, carried, reads, s₁, held, called, applied⟩
  · intro status_eq value
    constructor
    · rw [transition, snapshot, status_eq]
      exact Transition.ofWrite_appends s.reassembly value
    · intro gathered append_eq
      obtain ⟨payload, parse_eq, rfl⟩ := Fragment.exists_of_append append_eq
      exact apply_more setup status_eq parse_eq

end

/-- Data comes before the start marker, and a subscription and a write without a header come
between two fragments: the request is made of the fragments. -/
theorem request_isReassembled_interleaved :
  ∃ log waiting s o s', History emptyDocument log [] s
    ∧ History emptyDocument (log ++ [o]) waiting s'
    ∧ .requestReceived ∈ o.told emptyDocument
    ∧ (transition s.snapshot (.write .client2Server [])).Appends s.reassembly []
    ∧ ∃ fragments message, SinceStart emptyDocument (log ++ [o]) fragments
      ∧ Fragment.reassemble? fragments = .ok (some message)
      ∧ message = Fragment.payloads fragments
      ∧ Reads emptyDocument message o.session.engagement (o.session.apply emptyDocument o.event).2.2
  := by
  have run : (unvaried.proceed emptyDocument [.handle 2 .setUp, .handle 0 (.subscribed .state),
      .handle 0 (.subscribed .server2Client), .handle 0 (.write .client2Server [0x00, 0x01]),
      .handle 0 (.write .state Channel.startMarker),
      .handle 0 (.write .client2Server [0x01, 0x02, 0x03]), .handle 0 (.subscribed .state),
      .handle 0 (.write .client2Server [])]).map (fun result => (result.2.status,
        (⟨result.2, .write .client2Server [0x00, 0x04], true⟩ : Occurrence _ _).told emptyDocument))
      = some (.started, [.requestReceived, .error]) := by
    decide +kernel
  obtain ⟨⟨answers, s⟩, hrun, heq⟩ := Option.map_eq_some_iff.mp run
  obtain ⟨status_eq, told_eq⟩ := Prod.mk.inj heq
  obtain ⟨log, history⟩ := (History.fresh _ _).proceed hrun
  have later := history.give (.write .client2Server [0x00, 0x04])
  have told : .requestReceived
      ∈ (⟨s, .write .client2Server [0x00, 0x04], true⟩ : Occurrence _ _).told emptyDocument := by
    rw [told_eq]
    decide
  obtain ⟨fragments, message, since, reassembled, carried, reads, -⟩ :=
    (request_isReassembled later).1 log _ [] rfl told
  exact ⟨log, _, s, _, _, history, later, told, ((request_isReassembled history).2 status_eq []).1,
    fragments, message, since, reassembled, carried, reads⟩

end Session

end Presentment
