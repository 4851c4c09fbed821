import Presentment.Proofs.Transfer.Consent
import Presentment.Proofs.Transfer.History

/-!
# Completion

When a response was sent, the radio has taken all of it.  Two invariants carry this: of the
fragments that the response was framed in, those that are not waiting have been accepted, in
order; and when none waits, the event that reports this is all that is to be applied.  The
report is taken at its word, so one that comes from outside may be wrong.
-/

namespace Presentment.Session

variable {η κ : Type}

/-- All of the response was accepted, and the session is about to find out. -/
def HasDrained (s : Session η κ) : Prop :=
  s.status = .userSelected ∧ s.outgoing = []

/-- The response to the present request was queued, and the radio has accepted its fragments, in
order, except for `rest`. -/
def Delivers (setup : Setup η κ) (rest : List Bytes) (s : Session η κ) : Prop :=
  ∃ before message after prompt host, s.trace = before ++ .queue message :: after
    ∧ (gates before).getLast? = some (.prompt prompt s.cycle)
    ∧ gates after = []
    ∧ Fragment.frame message (setup.block host) = accepted after ++ rest

/-- In the present cycle a session whose response waited was told from outside that nothing
waits. -/
def IsFeigned (log : List (Occurrence η κ)) (s : Session η κ) : Prop :=
  ∃ o ∈ log, o.isGiven ∧ o.event = .queueDrained ∧ o.session.status = .userSelected
    ∧ o.session.outgoing ≠ [] ∧ o.session.cycle = s.cycle

section

variable {setup : Setup η κ} {s s' : Session η κ} {event : Event}
  {waiting followUps : List Event} {log : List (Occurrence η κ)}

/-! ### The report -/

/-- The queue is reported to be drained exactly when it is. -/
theorem Step.hasDrained_iff (step : Step setup s event followUps s')
    (reported : s.HasDrained → event = .queueDrained) :
  followUps.length ≤ 1 ∧ (.queueDrained ∈ followUps ↔ s'.HasDrained)
  := by
  have quiet {s₁ : Session η κ} (h : ¬s₁.HasDrained) :
      ([] : List Event).length ≤ 1 ∧ (.queueDrained ∈ ([] : List Event) ↔ s₁.HasDrained) :=
    ⟨Nat.zero_le 1, ⟨fun mem => absurd mem List.not_mem_nil, fun drained => absurd drained h⟩⟩
  have sending {s₁ s₂ : Session η κ} {actions : List Action} {rest : List Bytes}
      (called : Called setup actions s₁ s₂) (status_eq : s₁.status = .userSelected)
      (outgoing_eq : s₁.outgoing = rest) :
      (if rest.isEmpty then [Event.queueDrained] else []).length ≤ 1
        ∧ (.queueDrained ∈ (if rest.isEmpty then [Event.queueDrained] else [])
          ↔ s₂.HasDrained) := by
    rw [HasDrained, called.status_eq, called.same Session.outgoing (fun _ _ _ => rfl), status_eq,
      outgoing_eq]
    cases rest with
    | nil => simp
    | cons fragment rest => simp
  cases step with
  | stay next_eq =>
    apply quiet
    intro drained
    cases reported drained
    simp [transition, snapshot, drained.1, Transition.enter] at next_eq
  | subscribe | unsubscribe =>
    apply quiet
    intro drained
    cases reported drained
  | gather status_eq =>
    apply quiet
    rintro ⟨status_eq', -⟩
    cases status_eq.symm.trans status_eq'
  | fail _ called =>
    have away : ¬s'.HasDrained := by simp [HasDrained, called.status_eq, released]
    rw [recovery]
    split
    · simp [away]
    · exact quiet away
  | leave _ called =>
    apply quiet
    simp [HasDrained, called.status_eq, released]
  | setUp _ _ called | recover _ called => simp [HasDrained, called.status_eq]
  | advertise _ _ _ called | connect _ _ called | start _ called | ask _ _ _ _ _ _ _ called
  | finish _ called =>
    apply quiet
    simp [HasDrained, called.status_eq]
  | respond _ _ _ _ _ _ _ _ _ called => exact sending called rfl rfl
  | sendMore status_eq _ called => exact sending called status_eq rfl

/-- At most one event follows at a time, and it is the report that the queue is drained exactly
when the queue is. -/
theorem History.hasDrained_iff (h : History setup log waiting s) :
  waiting.length ≤ 1 ∧ (.queueDrained ∈ waiting ↔ s.HasDrained)
  := by
  induction h with
  | fresh supply host => simp [HasDrained, Session.fresh]
  | @give _ s event _ ih =>
    apply (apply_step setup event s).hasDrained_iff
    intro drained
    cases ih.2.mpr drained
  | @follow _ event waiting s _ ih =>
    obtain ⟨length_le, iff⟩ := ih
    obtain rfl : waiting = [] :=
      List.length_eq_zero_iff.mp (Nat.le_zero.mp (Nat.le_of_succ_le_succ length_le))
    apply (apply_step setup event s).hasDrained_iff
    intro drained
    exact (List.mem_singleton.mp (iff.mpr drained)).symm
  | outside host posted _ ih => exact ih

theorem History.waiting_eq (h : History setup log waiting s) (drained : s.HasDrained) :
  waiting = [.queueDrained]
  := by
  obtain ⟨length_le, iff⟩ := h.hasDrained_iff
  have mem := iff.mpr drained
  cases waiting with
  | nil => cases mem
  | cons event others =>
    cases others with
    | nil => rw [List.mem_singleton.mp mem]
    | cons other others => exact absurd length_le (by simp)

/-! ### The response -/

/-- Whether the response was queued and not given up. -/
def IsResponding (s : Session η κ) : Prop :=
  s.status = .userSelected ∨ s.status = .responseSent

theorem Delivers.took {rest sent : List Bytes} {actions : List Action}
    (h : s.Delivers setup (sent ++ rest)) (trace_eq : s'.trace = s.trace ++ actions)
    (cycle_eq : s'.cycle = s.cycle) (gates_eq : gates actions = [])
    (accepted_eq : accepted actions = sent) :
  s'.Delivers setup rest
  := by
  obtain ⟨before, message, after, prompt, host, trace_eq', last_eq, gates_eq', frame_eq⟩ := h
  refine ⟨before, message, after ++ actions, prompt, host, ?_, ?_, ?_, ?_⟩
  · rw [trace_eq, trace_eq', List.append_assoc, List.cons_append]
  · rw [cycle_eq, last_eq]
  · rw [gates_append, gates_eq', gates_eq, List.append_nil]
  · rw [frame_eq, accepted_append, accepted_eq, List.append_assoc]

/-- What was accepted of the response and what waits of it make up the whole, whatever
happens. -/
theorem Step.delivers (step : Step setup s event followUps s')
    (prompted : IsPrompted setup.credentials s)
    (ih : s.IsResponding → s.Delivers setup s.outgoing) (h : s'.IsResponding) :
  s'.Delivers setup s'.outgoing
  := by
  cases step with
  | stay | subscribe | unsubscribe | gather => exact ih h
  | fail _ called | leave _ called => simp [IsResponding, called.status_eq, released] at h
  | setUp _ _ called | advertise _ _ _ called | connect _ _ called | start _ called
  | ask _ _ _ _ _ _ _ called | recover _ called => simp [IsResponding, called.status_eq] at h
  | @respond _ requests response _ _ data sent rest _ _ _ _ pending_eq _ _ _ _ frame_eq called =>
    obtain ⟨readerAuth, last_eq⟩ := prompted requests pending_eq
    have trace_eq := called.took.trace_eq
    rw [called.same Session.outgoing (fun _ _ _ => rfl)]
    refine ⟨s.trace ++ [.statusChanged .userSelected, .encrypt (Cbor.encode response)],
      responseMessage data, notices sent rest, promptFor setup.credentials requests readerAuth,
      (setup.host.replay [.statusChanged .userSelected] s.host).2, ?_, ?_,
      gates_notices sent rest, ?_⟩
    · rw [trace_eq]
      simp
    · rw [called.same Session.cycle (fun _ _ _ => rfl)]
      simpa [Action.isGate] using last_eq
    · rw [frame_eq, accepted_notices]
  | @sendMore sent rest _ status_eq outgoing_eq called =>
    rw [called.same Session.outgoing (fun _ _ _ => rfl)]
    have delivers := ih (.inl status_eq)
    rw [outgoing_eq] at delivers
    exact delivers.took called.took.trace_eq (called.same Session.cycle (fun _ _ _ => rfl))
      (gates_notices sent rest) (accepted_notices sent rest)
  | finish status_eq called =>
    rw [called.same Session.outgoing (fun _ _ _ => rfl)]
    have delivers : s.Delivers setup ([] ++ s.outgoing) := ih (.inl status_eq)
    exact delivers.took called.took.trace_eq (called.same Session.cycle (fun _ _ _ => rfl)) rfl rfl

theorem Reached.delivers (h : Reached setup s) :
  s.IsResponding → s.Delivers setup s.outgoing
  := by
  induction h with
  | fresh supply host =>
    rintro (status_eq | status_eq)
    · cases status_eq
    · cases status_eq
  | @apply s event reached ih =>
    exact (apply_step setup event s).delivers reached.gates_inv.1 ih
  | outside host posted _ ih => exact ih

/-- A response was sent completely, unless a report to this effect was given from outside. -/
theorem Step.outgoing_eq_nil {isGiven : Bool} (step : Step setup s event followUps s')
    (waiting_eq : event = .queueDrained → isGiven ∨ s.HasDrained)
    (ih : s.status = .responseSent → s.outgoing = [] ∨ IsFeigned log s)
    (h : s'.status = .responseSent) :
  s'.outgoing = [] ∨ IsFeigned (log ++ [⟨s, event, isGiven⟩]) s'
  := by
  have kept (feigned : IsFeigned log s) : IsFeigned (log ++ [⟨s, event, isGiven⟩]) s := by
    obtain ⟨o, mem, feigned⟩ := feigned
    exact ⟨o, List.mem_append_left _ mem, feigned⟩
  cases step with
  | stay | subscribe | unsubscribe => exact (ih h).imp_right kept
  | gather status_eq => cases status_eq.symm.trans h
  | fail _ called | leave _ called => simp [called.status_eq, released] at h
  | setUp _ _ called | advertise _ _ _ called | connect _ _ called | start _ called
  | ask _ _ _ _ _ _ _ called | respond _ _ _ _ _ _ _ _ _ called | recover _ called =>
    simp [called.status_eq] at h
  | sendMore status_eq _ called => simp [called.status_eq, status_eq] at h
  | finish status_eq called =>
    rw [called.same Session.outgoing (fun _ _ _ => rfl), IsFeigned,
      called.same Session.cycle (fun _ _ _ => rfl)]
    by_cases drained : s.outgoing = []
    · exact .inl drained
    · rcases waiting_eq rfl with given | hasDrained
      · exact .inr ⟨_, List.mem_append_right _ (List.mem_singleton_self _), given, rfl, status_eq,
          drained, rfl⟩
      · exact absurd hasDrained.2 drained

theorem History.outgoing_eq_nil (h : History setup log waiting s) :
  s.status = .responseSent → s.outgoing = [] ∨ IsFeigned log s
  := by
  induction h with
  | fresh supply host =>
    intro status_eq
    cases status_eq
  | @give _ s event _ ih =>
    exact (apply_step setup event s).outgoing_eq_nil (fun _ => .inl rfl) ih
  | @follow _ event waiting s h ih =>
    apply (apply_step setup event s).outgoing_eq_nil (fun event_eq => .inr _) ih
    rintro rfl
    exact h.hasDrained_iff.2.mp List.mem_cons_self
  | outside host posted _ ih => exact ih

/-! ### The rest of a call -/

/-- One of the events that were posted ends the presentation. -/
def IsEnded (setup : Setup η κ) : List Event → Session η κ → Prop
  | [], _ => False
  | event :: posted, s =>
    ({ s with posted := posted }.apply setup event).2.2.status.isTerminal
      ∨ IsEnded setup posted ({ s with posted := posted }.apply setup event).2.2

/-- Once the response is sent, nothing more happens until the presentation ends. -/
theorem Step.of_responseSent (step : Step setup s event followUps s')
    (h : s.status = .responseSent) :
  s'.status.isTerminal ∨ followUps = [] ∧ s'.status = .responseSent ∧ s'.posted = s.posted
  := by
  cases step with
  | stay | subscribe | unsubscribe => exact .inr ⟨rfl, h, rfl⟩
  | fail _ called | leave _ called =>
    rw [called.status_eq]
    exact .inl rfl
  | connect status_eq | setUp status_eq | advertise status_eq | start status_eq | gather status_eq
  | ask status_eq | respond status_eq | sendMore status_eq | finish status_eq
  | recover status_eq => cases status_eq.symm.trans h

/-- The events that were posted leave the session as it is, unless one of them ends the
presentation. -/
theorem drain_of_responseSent {fuel : Nat} (h : s.status = .responseSent)
    (goesOn : ¬IsEnded setup s.posted s) (enough : s.posted.length ≤ fuel) :
  ∃ s', s.drain setup fuel [] = some s' ∧ s'.status = .responseSent
  := by
  induction fuel generalizing s with
  | zero =>
    have posted_eq := List.length_eq_zero_iff.mp (Nat.le_zero.mp enough)
    exact ⟨s, drain_of_posted_eq_nil posted_eq 0, h⟩
  | succ fuel ih =>
    cases posted_eq : s.posted with
    | nil => exact ⟨s, drain_of_posted_eq_nil posted_eq _, h⟩
    | cons event posted =>
      rw [posted_eq, IsEnded, not_or] at goesOn
      rw [posted_eq] at enough
      obtain terminal | ⟨followUps_eq, status_eq, posted_eq'⟩ :=
        (apply_step setup event { s with posted := posted }).of_responseSent h
      · exact absurd terminal goesOn.1
      · rw [drain_posted posted_eq, followUps_eq]
        apply ih status_eq
        · rw [posted_eq']
          exact goesOn.2
        · rw [posted_eq']
          exact Nat.le_of_succ_le_succ enough

theorem HasDrained.apply_queueDrained (h : s.HasDrained) (setup : Setup η κ) :
  ∃ s₁, (s.apply setup .queueDrained).2 = ([], s₁)
    ∧ Called setup [.statusChanged .responseSent] { s with status := .responseSent } s₁
  := by
  have entering : transition s.snapshot .queueDrained = .enter .responseSent [] := if_pos h.1
  obtain ⟨s₁, entered, heq⟩ := apply_of_enter setup entering rfl (by simp [h.1])
  have effects : [] ++ onEnter s.status .responseSent = [] := by
    rw [h.1]
    rfl
  rw [heq, Transition.enter, effects, Progress.perform, Progress.result_of_none setup rfl]
  exact ⟨s₁, rfl, entered⟩

/-- How a call goes on in which all of a response was accepted: `s₁` is the session after the next
event. -/
structure Completes (setup : Setup η κ) (waiting : List Event) (s s₁ : Session η κ) : Prop where
  status_eq : s₁.status = .responseSent
  outgoing_eq : s₁.outgoing = []
  delivers : s₁.Delivers setup []
  /-- Nothing else is applied before. -/
  drain_eq : ∀ fuel, s.drain setup (fuel + 1) waiting = s₁.drain setup fuel []
  /-- The status is the same when the call returns, unless an event that was posted ends the
  presentation. -/
  returns : ¬IsEnded setup s₁.posted s₁ → ∀ fuel, s₁.posted.length ≤ fuel →
    ∃ s', s₁.drain setup fuel [] = some s' ∧ s'.status = .responseSent

theorem History.exists_completes (h : History setup log waiting s) (drained : s.HasDrained) :
  ∃ s₁, s.Completes setup waiting s₁
  := by
  obtain ⟨s₁, apply_eq, called⟩ := drained.apply_queueDrained setup
  have status_eq : s₁.status = .responseSent := called.status_eq
  have outgoing_eq : s₁.outgoing = [] :=
    (called.same Session.outgoing (fun _ _ _ => rfl)).trans drained.2
  use s₁
  constructor
  case status_eq => exact status_eq
  case outgoing_eq => exact outgoing_eq
  case delivers =>
    have delivers := (h.reached.apply .queueDrained).delivers
    rw [apply_eq, outgoing_eq] at delivers
    exact delivers (.inr status_eq)
  case drain_eq =>
    intro fuel
    rw [h.waiting_eq drained]
    change Session.drain setup fuel ([] ++ (s.apply setup .queueDrained).2.1)
      (s.apply setup .queueDrained).2.2 = _
    rw [apply_eq]
    rfl
  case returns =>
    intro goesOn fuel enough
    exact drain_of_responseSent status_eq goesOn enough

/-- When the response was sent, the radio has accepted all of it, unless the session was told so
from outside; and a call in which the radio accepts the last of it goes on with this status. -/
theorem responseSent_delivers (h : History setup log waiting s) :
  (s.status = .responseSent → s.outgoing = [] ∧ s.Delivers setup [] ∨ IsFeigned log s)
    ∧ (s.HasDrained → ∃ s₁, s.Completes setup waiting s₁)
  := by
  constructor
  · intro status_eq
    apply (h.outgoing_eq_nil status_eq).imp_left
    intro outgoing_eq
    have delivers := h.reached.delivers (.inr status_eq)
    rw [outgoing_eq] at delivers
    exact ⟨outgoing_eq, delivers⟩
  · exact h.exists_completes

/-! ### Complete, truncated and interrupted responses -/

/-- Whether nothing follows from events that are applied one after the other. -/
def lackFollowUps (setup : Setup η κ) : List Event → Session η κ → Bool
  | [], _ => true
  | event :: events, s =>
    (s.apply setup event).2.1.isEmpty && lackFollowUps setup events (s.apply setup event).2.2

/-- Events from which nothing follows can be given one after the other. -/
theorem History.foldl (h : History setup log [] s) {events : List Event}
    (quiet : lackFollowUps setup events s) :
  ∃ later, History setup (log ++ later) []
      (events.foldl (fun s event => (s.apply setup event).2.2) s)
    ∧ ∀ o ∈ later, o.event ∈ events
  := by
  induction events generalizing log s with
  | nil =>
    use []
    rw [List.append_nil]
    exact ⟨h, fun o mem => absurd mem List.not_mem_nil⟩
  | cons event events ih =>
    rw [lackFollowUps, Bool.and_eq_true, List.isEmpty_iff] at quiet
    have given := h.give event
    rw [quiet.1] at given
    obtain ⟨later, history, within⟩ := ih given quiet.2
    rw [List.append_assoc] at history
    refine ⟨_, history, ?_⟩
    intro o mem
    rcases List.mem_append.mp mem with mem | mem
    · rw [List.mem_singleton.mp mem]
      exact List.mem_cons_self
    · exact List.mem_cons_of_mem event (within o mem)

end

/-- Until the user is asked for the name, only the radio is found to be ready: everything else is
given from outside. -/
theorem exists_history_nameAsked :
  ∃ log, History nameWallet log [] nameAsked ∧ ∀ o ∈ log, o.event ≠ .queueDrained
  := by
  have steps : (unvaried.apply nameWallet .setUp).2.1 = [.transportState .ready]
      ∧ lackFollowUps nameWallet [.transportState .ready, .subscribed .state,
        .subscribed .server2Client, .write .state Channel.startMarker,
        .write .client2Server (0x00 :: nameMessage.toOption.getD [])]
        (unvaried.apply nameWallet .setUp).2.2 := by
    decide +kernel
  obtain ⟨probe_eq, quiet⟩ := steps
  rw [lackFollowUps, Bool.and_eq_true, List.isEmpty_iff] at quiet
  have fresh : History nameWallet [] [] unvaried := .fresh _ _
  have setUp := fresh.give .setUp
  rw [probe_eq] at setUp
  have ready := setUp.follow
  rw [quiet.1] at ready
  obtain ⟨log, history, within⟩ := ready.foldl quiet.2
  rw [nameAsked, List.foldl_cons, List.foldl_cons]
  refine ⟨_, history, ?_⟩
  intro o mem
  rcases List.mem_append.mp mem with mem | mem
  · simp only [List.nil_append, List.cons_append, List.mem_cons, List.not_mem_nil, or_false] at mem
    obtain rfl | rfl := mem
    · exact Event.noConfusion
    · exact Event.noConfusion
  · intro event_eq
    simpa [event_eq] using within o mem

/-- The user accepts, and the radio takes the response with the name: the session is about to find
out, and then its status tells. -/
theorem responseSent_delivers_name :
  ∃ log s, History nameWallet log [.queueDrained] s
    ∧ s.HasDrained
    ∧ (s.status = .responseSent → s.outgoing = [] ∧ s.Delivers nameWallet [] ∨ IsFeigned log s)
    ∧ (s.HasDrained → ∃ s₁, s.Completes nameWallet [.queueDrained] s₁)
    ∧ ∃ log' s', History nameWallet log' [] s'
      ∧ s'.status = .responseSent
      ∧ ¬IsFeigned log' s'
      ∧ (s'.status = .responseSent →
        s'.outgoing = [] ∧ s'.Delivers nameWallet [] ∨ IsFeigned log' s')
      ∧ (s'.HasDrained → ∃ s₁, s'.Completes nameWallet [] s₁)
  := by
  have outcome : (nameAsked.apply nameWallet (.consent ⟨true, none, 1⟩)).2.1 = [.queueDrained]
      ∧ (nameAsked.apply nameWallet (.consent ⟨true, none, 1⟩)).2.2.status = .userSelected
      ∧ (nameAsked.apply nameWallet (.consent ⟨true, none, 1⟩)).2.2.outgoing = [] := by
    decide +kernel
  obtain ⟨followUps_eq, status_eq, outgoing_eq⟩ := outcome
  obtain ⟨log, history, honest⟩ := exists_history_nameAsked
  have accepted := history.give (.consent ⟨true, none, 1⟩)
  rw [followUps_eq] at accepted
  have drained : (nameAsked.apply nameWallet (.consent ⟨true, none, 1⟩)).2.2.HasDrained :=
    ⟨status_eq, outgoing_eq⟩
  obtain ⟨s₁, apply_eq, called⟩ := drained.apply_queueDrained nameWallet
  have finished := accepted.follow
  rw [apply_eq] at finished
  refine ⟨_, _, accepted, drained, (responseSent_delivers accepted).1,
    (responseSent_delivers accepted).2, _, s₁, finished,
    called.status_eq, ?_, (responseSent_delivers finished).1,
    (responseSent_delivers finished).2⟩
  rintro ⟨o, mem, given, event_eq, -⟩
  simp only [List.append_assoc, List.cons_append, List.nil_append, List.mem_append, List.mem_cons,
    List.not_mem_nil, or_false] at mem
  obtain mem | rfl | rfl := mem
  · exact honest o mem event_eq
  · cases event_eq
  · cases given

/-- A session whose radio takes no notification. -/
def blocked : Session Radio κ :=
  .fresh ⟨fun _ => default, fun _ => .ofNat 1, 0, 0⟩ { credits := some 0 }

/-- The user is asked for the name, and it was posted that the reader is idle. -/
def nameIdle : Session Radio Plain.Encryption :=
  { nameAsked with posted := [.idleTimeout] }

/-- A radio takes nothing of the response, and the session is told that it took all: the status says
that the response was sent.  And when a reader falls idle while the radio takes all of it, the
status does not say so after the call. -/
theorem not_responseSent_delivers :
  (∃ answers s, blocked.proceed nameWallet
        [.handle 2 .setUp, .handle 0 (.subscribed .state), .handle 0 (.subscribed .server2Client),
          .handle 0 (.write .state Channel.startMarker),
          .handle 0 (.write .client2Server (0x00 :: nameMessage.toOption.getD [])),
          .handle 0 (.consent ⟨true, none, 1⟩), .handle 0 .queueDrained]
        = some (answers, s)
      ∧ s.status = .responseSent
      ∧ s.outgoing ≠ []
      ∧ accepted s.trace = [])
    ∧ ∃ log s, History nameWallet log [] s
      ∧ (s.apply nameWallet (.consent ⟨true, none, 1⟩)).2.2.HasDrained
      ∧ ∃ s', s.handle nameWallet 2 (.consent ⟨true, none, 1⟩) = some (.success, s')
        ∧ s'.status = .disconnected
  := by
  have outcome : (blocked.proceed nameWallet
        [.handle 2 .setUp, .handle 0 (.subscribed .state), .handle 0 (.subscribed .server2Client),
          .handle 0 (.write .state Channel.startMarker),
          .handle 0 (.write .client2Server (0x00 :: nameMessage.toOption.getD [])),
          .handle 0 (.consent ⟨true, none, 1⟩), .handle 0 .queueDrained]).map
          (fun result =>
            (result.2.status, result.2.outgoing.isEmpty, accepted result.2.trace))
        = some (.responseSent, false, [])
      ∧ (nameIdle.apply nameWallet (.consent ⟨true, none, 1⟩)).2.2.status = .userSelected
      ∧ (nameIdle.apply nameWallet (.consent ⟨true, none, 1⟩)).2.2.outgoing = []
      ∧ (nameIdle.handle nameWallet 2 (.consent ⟨true, none, 1⟩)).map
          (fun result => (result.1, result.2.status))
        = some (.success, .disconnected) := by
    decide +kernel
  obtain ⟨truncated, status_eq, outgoing_eq, interrupted⟩ := outcome
  constructor
  · obtain ⟨⟨answers, s⟩, proceed_eq, heq⟩ := Option.map_eq_some_iff.mp truncated
    simp only [Prod.mk.injEq] at heq
    obtain ⟨status_eq, waiting, accepted_eq⟩ := heq
    refine ⟨answers, s, proceed_eq, status_eq, ?_, accepted_eq⟩
    intro outgoing_eq
    rw [outgoing_eq] at waiting
    cases waiting
  · obtain ⟨log, history, -⟩ := exists_history_nameAsked
    obtain ⟨⟨acknowledgement, s'⟩, handle_eq, heq⟩ := Option.map_eq_some_iff.mp interrupted
    simp only [Prod.mk.injEq] at heq
    obtain ⟨rfl, disconnected⟩ := heq
    have idle : History nameWallet log [] nameIdle :=
      history.outside nameAsked.host [.idleTimeout]
    exact ⟨log, nameIdle, idle, ⟨status_eq, outgoing_eq⟩, s', handle_eq, disconnected⟩

end Presentment.Session
