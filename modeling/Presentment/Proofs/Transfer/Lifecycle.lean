import Presentment.Proofs.Transfer.History

/-!
# The lifecycle

The statuses that the host is told form a walk: a presentation goes through its statuses in order,
may be left once there is an engagement, may fail wherever it is not over, and may be set up again
after a failure.  `Passage` tells which part of the walk one event takes, and that a failure is
told together with its status.  At the end of the walk nothing counts any more.
-/

namespace Presentment

namespace TransferStatus

/-- What comes next as long as nothing goes wrong. -/
def next? : TransferStatus → Option TransferStatus
  | .initializing => some .initialized
  | .initialized => some .engagementReady
  | .engagementReady => some .connected
  | .connected => some .started
  | .started => some .requestReceived
  | .requestReceived => some .userSelected
  | .userSelected => some .responseSent
  | .responseSent | .disconnected | .error => none

/-- The edges of the lifecycle. -/
inductive Precedes : TransferStatus → TransferStatus → Prop
  | advance {status next : TransferStatus} : status.next? = some next → Precedes status next
  | leave {status : TransferStatus} : status.isEngaged → Precedes status .disconnected
  | fail {status : TransferStatus} : status.isTerminal = false → Precedes status .error
  | recover : Precedes .error .initializing

/-- A walk through statuses, from one of them to another. -/
inductive Walk : TransferStatus → List TransferStatus → TransferStatus → Prop
  | nil (status : TransferStatus) : Walk status [] status
  | cons {status next goal : TransferStatus} {path : List TransferStatus} :
      Precedes status next → Walk next path goal → Walk status (next :: path) goal

theorem Walk.append {start middle goal : TransferStatus} {path path' : List TransferStatus}
    (h : Walk start path middle) (h' : Walk middle path' goal) :
  Walk start (path ++ path') goal
  := by
  induction h with
  | nil => exact h'
  | cons edge _ ih => exact .cons edge (ih h')

/-- No edge leads away from the end. -/
theorem Precedes.ne_disconnected {status next : TransferStatus} (h : Precedes status next) :
  status ≠ .disconnected
  := by
  rintro rfl
  cases h with
  | advance heq | leave heq | fail heq => cases heq

theorem Walk.eq_of_mem {start goal : TransferStatus} {path : List TransferStatus}
    (h : Walk start path goal) (mem : .disconnected ∈ path) :
  goal = .disconnected
  := by
  induction h with
  | nil => cases mem
  | cons edge walk ih =>
    rcases List.mem_cons.mp mem with heq | mem
    · subst heq
      cases walk with
      | nil => rfl
      | cons edge' => exact absurd rfl edge'.ne_disconnected
    · exact ih mem

end TransferStatus

open TransferStatus (Walk Precedes)

namespace Action

/-- The status that is told, if one is. -/
def status? : Action → Option TransferStatus
  | .statusChanged status => some status
  | _ => none

/-- The failure that is told, if one is. -/
def failure? : Action → Option TransferError
  | .finishedWithError e => some e
  | _ => none

/-- Whether the host is told a status or a failure. -/
def isMilestone : Action → Bool
  | .statusChanged _ | .finishedWithError _ => true
  | _ => false

/-- Whether the host is told of a failure, by its status or in itself. -/
def isEnding : Action → Bool
  | .statusChanged .error | .finishedWithError _ => true
  | _ => false

end Action

namespace Transition

/-- What becomes of an event that does not count any more. -/
def ignoring : Event → Transition
  | .write _ _ => reject
  | _ => stay

end Transition

namespace Session

variable {η κ : Type}

/-! ### Milestones -/

/-- The statuses that the host was told. -/
def statuses (trace : List Action) : List TransferStatus :=
  trace.filterMap Action.status?

/-- The failures that the host was told. -/
def failures (trace : List Action) : List TransferError :=
  trace.filterMap Action.failure?

/-- Everything the host was told of failures. -/
def endings (trace : List Action) : List Action :=
  trace.filter Action.isEnding

/-- Everything the host was told of statuses and failures. -/
def milestones (trace : List Action) : List Action :=
  trace.filter Action.isMilestone

theorem statuses_append (before after : List Action) :
  statuses (before ++ after) = statuses before ++ statuses after
  := List.filterMap_append

theorem failures_append (before after : List Action) :
  failures (before ++ after) = failures before ++ failures after
  := List.filterMap_append

/-- What is gathered of milestones alone is gathered of all actions. -/
theorem filterMap_milestones {β : Type} {f : Action → Option β}
    (h : ∀ action, action.isMilestone = false → f action = none) (trace : List Action) :
  (milestones trace).filterMap f = trace.filterMap f
  := by
  rw [milestones, List.filterMap_filter]
  congr 1
  funext action
  split
  · rfl
  · rename_i other
    exact (h action (Bool.eq_false_iff.mpr other)).symm

theorem statuses_milestones (trace : List Action) :
  statuses (milestones trace) = statuses trace
  := by
  apply filterMap_milestones
  intro action other
  cases action with
  | statusChanged status => cases other
  | _ => rfl

theorem failures_milestones (trace : List Action) :
  failures (milestones trace) = failures trace
  := by
  apply filterMap_milestones
  intro action other
  cases action with
  | finishedWithError e => cases other
  | _ => rfl

theorem endings_milestones (trace : List Action) :
  endings (milestones trace) = endings trace
  := by
  rw [endings, milestones, List.filter_filter, endings]
  congr 1
  funext action
  cases action with
  | statusChanged status => exact Bool.and_true _
  | finishedWithError e => rfl
  | _ => rfl

@[simp]
theorem milestones_append (before after : List Action) :
  milestones (before ++ after) = milestones before ++ milestones after
  := List.filter_append ..

@[simp]
theorem milestones_cons (action : Action) (trace : List Action) :
  milestones (action :: trace)
    = if action.isMilestone then action :: milestones trace else milestones trace
  := List.filter_cons

@[simp]
theorem milestones_nil :
  milestones [] = []
  := rfl

@[simp]
theorem milestones_stops (s : Session η κ) :
  milestones s.stops = []
  := by
  rw [stops]
  split
  · rfl
  · rfl

@[simp]
theorem milestones_notices (sent rest : List Bytes) :
  milestones (notices sent rest) = []
  := by
  apply List.filter_eq_nil_iff.mpr
  intro action h
  simp only [notices, List.mem_append, List.mem_map] at h
  obtain ⟨_, -, rfl⟩ | ⟨_, -, rfl⟩ := h
  · exact Bool.false_ne_true
  · exact Bool.false_ne_true

theorem milestones_giveUp (e : TransferError) (s : Session η κ) :
  milestones (s.giveUp e) = [.statusChanged .error, .finishedWithError e]
  := by
  simp [giveUp, Action.isMilestone]

/-! ### What one event adds to the walk -/

/-- How a session comes from `s` to `s'` by one event, as its milestones tell it. -/
inductive Passage (s s' : Session η κ) : List Action → Prop
  | stay
      (status_eq : s'.status = s.status)
      (lastError_eq : s'.lastError = s.lastError) :
      Passage s s' []
  | enter {next : TransferStatus}
      (edge : s.status.Precedes next)
      (calm : next ≠ .error)
      (status_eq : s'.status = next)
      (lastError_eq : s'.lastError = s.lastError) :
      Passage s s' [.statusChanged next]
  /-- Something failed, perhaps after another status was entered. -/
  | fail {attempted : Option TransferStatus} {e : TransferError}
      (edge : ∀ next ∈ attempted, s.status.Precedes next ∧ next.isTerminal = false)
      (running : s.status.isTerminal = false)
      (status_eq : s'.status = .error)
      (lastError_eq : s'.lastError = some e) :
      Passage s s' (attempted.toList.map .statusChanged
        ++ [.statusChanged .error, .finishedWithError e])

section

variable {setup : Setup η κ} {s s' : Session η κ} {event : Event} {followUps : List Event}
  {milestones : List Action}

theorem Passage.walk (h : Passage s s' milestones) :
  Walk s.status (statuses milestones) s'.status
  := by
  cases h with
  | stay status_eq =>
    rw [status_eq]
    exact .nil _
  | enter edge _ status_eq =>
    rw [status_eq]
    exact .cons edge (.nil _)
  | @fail attempted e edge running status_eq =>
    rw [status_eq]
    cases attempted with
    | none => exact .cons (.fail running) (.nil _)
    | some next =>
      obtain ⟨first, running'⟩ := edge next rfl
      exact .cons first (.cons (.fail running') (.nil _))

/-- The status of a failure and the failure are told one after the other, or neither is. -/
theorem Passage.endings_eq (h : Passage s s' milestones) :
  endings milestones = [] ∨ ∃ e, endings milestones = [.statusChanged .error, .finishedWithError e]
  := by
  cases h with
  | stay => exact .inl rfl
  | @enter next _ calm =>
    cases next with
    | error => exact absurd rfl calm
    | _ => exact .inl rfl
  | @fail attempted e edge =>
    right
    use e
    cases attempted with
    | none => rfl
    | some next =>
      obtain ⟨-, running⟩ := edge next rfl
      cases next with
      | error => cases running
      | _ => rfl

theorem Passage.lastError_eq (h : Passage s s' milestones) :
  s'.lastError = (failures milestones).getLast?.or s.lastError
  := by
  cases h with
  | stay _ lastError_eq => exact lastError_eq
  | enter _ _ _ lastError_eq => exact lastError_eq
  | @fail attempted e _ _ _ lastError_eq =>
    rw [lastError_eq]
    cases attempted with
    | none => rfl
    | some next => rfl

end

section

variable {setup : Setup η κ} {s s' s₁ : Session η κ} {event : Event} {followUps : List Event}
  {actions : List Action}

theorem Tells.milestones_eq {h : η} {status : Option SessionStatus}
    (tells : Tells setup h status actions) :
  milestones actions = []
  := by
  cases tells with
  | nothing => rfl
  | status => exact milestones_notices _ _

/-- A failure comes about in a session that is not over, perhaps after the next status was
entered. -/
theorem Fault.exists_attempted {e : TransferError} {supply : Supply}
    (fault : Fault setup s event e supply actions) :
  s.status.isTerminal = false
    ∧ ∃ attempted : Option TransferStatus,
      (∀ next ∈ attempted, s.status.Precedes next ∧ next.isTerminal = false)
        ∧ milestones actions
          = attempted.toList.map .statusChanged ++ [.statusChanged .error, .finishedWithError e]
  := by
  have through {next : TransferStatus} (edge : s.status.next? = some next)
      (running : next.isTerminal = false) :
      ∀ next' ∈ some next, s.status.Precedes next' ∧ next'.isTerminal = false := by
    rintro _ ⟨⟩
    exact ⟨.advance edge, running⟩
  cases fault with
  | credentials status_eq | engagement status_eq | refusal status_eq =>
    rw [status_eq] at through ⊢
    exact ⟨rfl, some _, through rfl rfl, by simp [milestones_giveUp, Action.isMilestone]⟩
  | radio running => exact ⟨running, none, by simp, milestones_giveUp _ _⟩
  | request status_eq _ unread tells =>
    rw [status_eq] at through ⊢
    have quiet : ∀ {message held e done}, Unread setup message held e done → milestones done = [] := by
      intro message held e done unread
      cases unread with
      | read | derive | decrypt | decode => rfl
    exact ⟨rfl, some _, through rfl rfl,
      by simp [quiet unread, tells.milestones_eq, Action.isMilestone]⟩
  | response status_eq _ _ unanswered tells =>
    rw [status_eq] at through ⊢
    have quiet : ∀ {items e done status}, Unanswered setup s items e done status →
        milestones done = [] := by
      intro items e done status unanswered
      cases unanswered with
      | unasked | empty | make | encrypt => rfl
    exact ⟨rfl, some _, through rfl rfl,
      by simp [quiet unanswered, tells.milestones_eq, milestones_giveUp, Action.isMilestone]⟩
  | rejection status_eq _ _ tells =>
    rw [status_eq]
    exact ⟨rfl, none, by simp, by simp [tells.milestones_eq, Action.isMilestone]⟩

/-- A status is entered, and no other milestone is on the way. -/
theorem Called.passage (called : Called setup actions s₁ s')
    (trace_eq : s₁.trace = s.trace) (lastError_eq : s₁.lastError = s.lastError)
    (edge : s.status.Precedes s₁.status) (calm : (s₁.status == .error) = false)
    (told : milestones actions = [.statusChanged s₁.status]) :
  ∃ actions, s'.trace = s.trace ++ actions ∧ Passage s s' (milestones actions)
  := by
  use actions
  rw [called.took.trace_eq, trace_eq, told]
  use rfl
  apply Passage.enter edge (ne_of_beq_false calm) called.status_eq
  exact (called.same Session.lastError (fun _ _ _ => rfl)).trans lastError_eq

theorem Step.passage (step : Step setup s event followUps s') :
  ∃ actions, s'.trace = s.trace ++ actions ∧ Passage s s' (milestones actions)
  := by
  have advances {status next : TransferStatus} (status_eq : s.status = status)
      (edge : status.next? = some next) : s.status.Precedes next := .advance (status_eq ▸ edge)
  cases step with
  | stay | subscribe | unsubscribe | gather => exact ⟨[], (List.append_nil _).symm, .stay rfl rfl⟩
  | fail fault called =>
    obtain ⟨running, attempted, edge, told⟩ := fault.exists_attempted
    refine ⟨_, called.took.trace_eq, ?_⟩
    rw [told]
    exact .fail edge running called.status_eq (called.same Session.lastError (fun _ _ _ => rfl))
  | leave engaged called =>
    have edge : s.status.Precedes .disconnected := by
      apply Precedes.leave
      revert engaged
      cases s.status with
      | _ => simp
    exact called.passage rfl rfl edge rfl (by simp [released, Action.isMilestone])
  | setUp status_eq _ called | connect status_eq _ called | start status_eq called
  | finish status_eq called | advertise status_eq _ _ called =>
    exact called.passage rfl rfl (advances status_eq rfl) rfl rfl
  | ask status_eq _ _ _ _ _ _ called | respond status_eq _ _ _ _ _ _ _ _ called =>
    exact called.passage rfl rfl (advances status_eq rfl) rfl
      (by simp [Action.isMilestone])
  | sendMore status_eq _ called =>
    refine ⟨_, called.took.trace_eq, ?_⟩
    rw [milestones_notices]
    exact .stay called.status_eq (called.same Session.lastError (fun _ _ _ => rfl))
  | recover status_eq called =>
    exact called.passage rfl rfl (status_eq ▸ .recover) rfl rfl

end

/-! ### The end -/

section

variable {setup : Setup η κ} {s : Session η κ}

/-- The end: the engagement was left, and no reader is subscribed. -/
structure IsOver (s : Session η κ) : Prop where
  status_eq : s.status = .disconnected
  subscriptions_eq : s.subscriptions = .empty

/-- Nothing is left to unsubscribe from, so no event counts any more. -/
theorem IsOver.transition_eq (h : s.IsOver) (event : Event) :
  transition s.snapshot event = .ignoring event
  := by
  obtain ⟨status_eq, subscriptions_eq⟩ := h
  rw [snapshot, status_eq, subscriptions_eq]
  cases event with
  | write c value =>
    cases c with
    | _ => rfl
  | unsubscribed c =>
    cases c with
    | _ => rfl
  | subscribed c =>
    cases c with
    | _ => rfl
  | transportState state =>
    cases state with
    | _ => rfl
  | _ => rfl

theorem IsOver.apply_eq (h : s.IsOver) (event : Event) :
  s.apply setup event = ((Transition.ignoring event).acknowledgement, [], s)
  := by
  have idle : (Transition.ignoring event).next = none ∧ (Transition.ignoring event).effects = []
      ∧ (Transition.ignoring event).failure = none := by
    cases event with
    | _ => exact ⟨rfl, rfl, rfl⟩
  obtain ⟨next_eq, effects_eq, failure_eq⟩ := idle
  exact apply_of_idle setup (h.transition_eq event) next_eq failure_eq effects_eq

/-- What was posted does not count either. -/
theorem IsOver.drain_eq (h : s.IsOver) {fuel : Nat} (enough : s.posted.length ≤ fuel) :
  s.drain setup fuel [] = some { s with posted := [] }
  := by
  induction hposted : s.posted generalizing s fuel with
  | nil =>
    rw [drain_of_posted_eq_nil hposted, ← hposted]
  | cons event posted ih =>
    obtain _ | fuel := fuel
    · rw [hposted] at enough
      cases enough
    · have ended : IsOver { s with posted := posted } := ⟨h.status_eq, h.subscriptions_eq⟩
      rw [drain_posted hposted, ended.apply_eq]
      rw [hposted, List.length_cons] at enough
      exact ih ended (Nat.le_of_succ_le_succ enough) rfl

theorem IsOver.handle_eq (h : s.IsOver) (shown : setup.config.preview = false) {fuel : Nat}
    (enough : s.posted.length ≤ fuel) (event : Event) :
  s.handle setup fuel event
    = some ((Transition.ignoring event).acknowledgement, { s with posted := [] })
  := by
  rw [handle_of_shown shown, h.apply_eq, h.drain_eq enough]
  rfl

end

/-! ### Histories -/

section

variable {setup : Setup η κ} {s : Session η κ} {log : List (Occurrence η κ)}
  {waiting : List Event}

/-- The host was told a walk of statuses, and the last failure. -/
structure IsLegal (s : Session η κ) : Prop where
  walk : Walk .initializing (statuses s.trace) s.status
  lastError_eq : s.lastError = (failures s.trace).getLast?

theorem IsLegal.apply (h : s.IsLegal) (setup : Setup η κ) (event : Event) :
  IsLegal (s.apply setup event).2.2
  := by
  obtain ⟨actions, trace_eq, passage⟩ := (apply_step setup event s).passage
  constructor
  · rw [trace_eq, statuses_append]
    have walk := passage.walk
    rw [statuses_milestones] at walk
    exact h.walk.append walk
  · rw [trace_eq, failures_append, List.getLast?_append, ← h.lastError_eq, passage.lastError_eq,
      failures_milestones]

theorem History.isLegal (h : History setup log waiting s) :
  s.IsLegal
  := by
  induction h with
  | fresh supply host => exact ⟨.nil _, rfl⟩
  | give event _ ih => exact ih.apply setup event
  | follow _ ih => exact ih.apply setup _
  | outside host posted _ ih => exact ⟨ih.walk, ih.lastError_eq⟩

/-- Once the host was told that the reader is gone, the presentation is ended. -/
theorem History.isOver (h : History setup log waiting s)
    (told : .disconnected ∈ statuses s.trace) :
  s.IsOver
  := by
  have status_eq := h.isLegal.walk.eq_of_mem told
  constructor
  · exact status_eq
  · apply eq_of_beq
    apply h.settles.unsubscribed
    rw [status_eq]
    rfl

/-- Whatever is applied, the host is told of a failure exactly when it is told its status, right
after it. -/
theorem endings_of_apply (setup : Setup η κ) (event : Event) (s : Session η κ) :
  ∃ actions, (s.apply setup event).2.2.trace = s.trace ++ actions
    ∧ (endings actions = []
      ∨ ∃ e, endings actions = [.statusChanged .error, .finishedWithError e])
  := by
  obtain ⟨actions, trace_eq, passage⟩ := (apply_step setup event s).passage
  use actions, trace_eq
  rw [← endings_milestones]
  exact passage.endings_eq

/-- The lifecycle that the host is told is legal: a walk through the statuses, in which each
failure is told once and the last one is kept, and which nothing continues once the reader is
gone. -/
theorem lifecycle_legal (h : History setup log waiting s) :
  Walk .initializing (statuses s.trace) s.status
    ∧ (∀ o ∈ log, ∃ actions,
      (o.session.apply setup o.event).2.2.trace = o.session.trace ++ actions
        ∧ (endings actions = []
          ∨ ∃ e, endings actions = [.statusChanged .error, .finishedWithError e]))
    ∧ s.lastError = (failures s.trace).getLast?
    ∧ (.disconnected ∈ statuses s.trace → ∀ event,
      transition s.snapshot event = .ignoring event
        ∧ s.apply setup event = ((Transition.ignoring event).acknowledgement, [], s)
        ∧ (setup.config.preview = false → ∀ fuel ≥ s.posted.length,
          s.handle setup fuel event
            = some ((Transition.ignoring event).acknowledgement, { s with posted := [] })))
  := by
  refine ⟨h.isLegal.walk, ?_, h.isLegal.lastError_eq, ?_⟩
  · intro o _
    exact endings_of_apply setup o.event o.session
  · intro told event
    have ended := h.isOver told
    refine ⟨ended.transition_eq event, ended.apply_eq event, ?_⟩
    intro shown fuel enough
    exact ended.handle_eq shown enough event

end

/-- The radio is switched off during an exchange: the host was told five statuses and no failure,
and everything that the reader writes is rejected. -/
theorem lifecycle_legal_poweredOff :
  ∃ log s, History emptyDocument log [] s
    ∧ statuses s.trace = [.initialized, .engagementReady, .connected, .started, .disconnected]
    ∧ Walk .initializing (statuses s.trace) s.status
    ∧ s.lastError = (failures s.trace).getLast?
    ∧ ∀ c value, s.apply emptyDocument (.write c value) = (.rejected, [], s)
  := by
  have run : (unvaried.proceed emptyDocument [.handle 2 .setUp, .handle 0 (.subscribed .state),
      .handle 0 (.subscribed .server2Client), .handle 0 (.write .state Channel.startMarker),
      .handle 0 (.transportState .poweredOff)]).map (fun result => statuses result.2.trace)
      = some [.initialized, .engagementReady, .connected, .started, .disconnected] := by
    decide +kernel
  obtain ⟨⟨answers, s⟩, hrun, told⟩ := Option.map_eq_some_iff.mp run
  obtain ⟨log, history⟩ := (History.fresh _ _).proceed hrun
  obtain ⟨walk, -, lastError_eq, final⟩ := lifecycle_legal history
  have gone : TransferStatus.disconnected ∈ statuses s.trace := by
    rw [told]
    decide
  exact ⟨_, s, history, told, walk, lastError_eq,
    fun c value => (final gone (.write c value)).2.1⟩

end Session

end Presentment
