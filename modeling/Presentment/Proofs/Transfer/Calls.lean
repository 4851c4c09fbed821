import Mathlib.Tactic.Use
import Presentment.Transfer.Exchange

/-!
# Calls to the host

Calls to the host change the state of the host, the events that were posted, and the trace,
and nothing else; `Host.replay` tells from the trace how the host took them, and `Host.observe` which
host each action found.  Of the trace three views are of interest: `toggles` tells when
advertising was started and stopped, `gates` when the user was asked and when a response was
queued, and `accepted` which fragments the radio took.
-/

namespace Presentment

namespace Action

/-- Whether an action starts advertising or stops it, if it does either. -/
def toggle? : Action → Option Bool
  | .advertise _ none => some true
  | .stopAdvertising => some false
  | _ => none

/-- Whether an action asks the user or queues a response. -/
def isGate : Action → Bool
  | .prompt _ _ | .queue _ => true
  | _ => false

/-- A fragment of a message to the reader that the radio accepted. -/
def accepted? : Action → Option Bytes
  | .notify .server2Client value true => some value
  | _ => none

end Action

namespace Host

variable {η : Type}

/-- How the host takes an action: the events that it posts, and the host after the call. -/
def take (host : Host η) (action : Action) (h : η) : List Event × η :=
  match action with
  | .statusChanged status => of (host.statusChanged status h)
  | .advertise service _ => of (host.startAdvertising service h)
  | .stopAdvertising => of (host.stopAdvertising h)
  | .notify c value _ => of (host.notify c value h)
  | .prompt prompt cycle => of (host.requestReceived prompt cycle h)
  | .finishedWithError e => of (host.finishedWithError e h)
  | .derive _ | .encrypt _ | .decrypt _ | .queue _ => ([], h)
where
  of {α : Type} (reply : Reply η α) : List Event × η := (reply.posted, reply.host)

/-- How the host takes actions, one after the other. -/
def replay (host : Host η) : List Action → η → List Event × η
  | [], h => ([], h)
  | action :: actions, h =>
    let taken := host.take action h
    let others := replay host actions taken.2
    (taken.1 ++ others.1, others.2)

theorem replay_append (host : Host η) (before after : List Action) (h : η) :
  host.replay (before ++ after) h
    = ((host.replay before h).1 ++ (host.replay after (host.replay before h).2).1,
      (host.replay after (host.replay before h).2).2)
  := by
  induction before generalizing h with
  | nil => rfl
  | cons action actions ih =>
    rw [List.cons_append, replay, ih, replay]
    dsimp only
    rw [List.append_assoc]

theorem replay_snd_append (host : Host η) (before after : List Action) (h : η) :
  (host.replay (before ++ after) h).2 = (host.replay after (host.replay before h).2).2
  := by
  rw [replay_append]

/-- Actions, each with the host that it finds. -/
def observe (host : Host η) : List Action → η → List (η × Action)
  | [], _ => []
  | action :: actions, h => (h, action) :: observe host actions (host.take action h).2

@[simp]
theorem map_snd_observe (host : Host η) (actions : List Action) (h : η) :
  (host.observe actions h).map Prod.snd = actions
  := by
  induction actions generalizing h with
  | nil => rfl
  | cons action actions ih => rw [observe, List.map_cons, ih]

theorem observe_append (host : Host η) (before after : List Action) (h : η) :
  host.observe (before ++ after) h
    = host.observe before h ++ host.observe after (host.replay before h).2
  := by
  induction before generalizing h with
  | nil => rfl
  | cons action actions ih =>
    rw [List.cons_append, observe, ih, replay]
    rfl

/-- Whatever the host is called for, it goes from one good state to another and posts only
events of a kind. -/
def Posts (host : Host η) (good : η → Prop) (kind : Event → Prop) : Prop :=
  ∀ action h, good h →
    good (host.take action h).2 ∧ ∀ event ∈ (host.take action h).1, kind event

theorem Posts.replay {host : Host η} {good : η → Prop} {kind : Event → Prop}
    (posts : host.Posts good kind) (actions : List Action) {h : η} (hgood : good h) :
  good (host.replay actions h).2 ∧ ∀ event ∈ (host.replay actions h).1, kind event
  := by
  induction actions generalizing h with
  | nil => exact ⟨hgood, fun event hevent => absurd hevent List.not_mem_nil⟩
  | cons action actions ih =>
    obtain ⟨taken, hposted⟩ := posts action h hgood
    obtain ⟨others, hothers⟩ := ih taken
    use others
    intro event hevent
    rcases List.mem_append.mp hevent with hevent | hevent
    · exact hposted event hevent
    · exact hothers event hevent

end Host

/-- The fragments that the radio accepted. -/
def accepted (trace : List Action) : List Bytes :=
  trace.filterMap Action.accepted?

@[simp]
theorem accepted_nil :
  accepted [] = []
  := rfl

@[simp]
theorem accepted_cons (action : Action) (trace : List Action) :
  accepted (action :: trace) = action.accepted?.toList ++ accepted trace
  := by
  rw [accepted, List.filterMap_cons]
  cases action.accepted? with
  | none => rfl
  | some fragment => rfl

@[simp]
theorem accepted_append (before after : List Action) :
  accepted (before ++ after) = accepted before ++ accepted after
  := List.filterMap_append

/-- How many bytes of a message one notification carries, as long as the host is `h`. -/
def Setup.block {η κ : Type} (setup : Setup η κ) (h : η) : BlockSize :=
  .atLeastOne (min setup.config.maxFragmentSize (setup.host.maxUpdateLength h) - 1)

namespace Session

variable {η κ α : Type}

/-- When advertising was started and stopped. -/
def toggles (trace : List Action) : List Bool :=
  trace.filterMap Action.toggle?

/-- The prompts, and the responses that were queued. -/
def gates (trace : List Action) : List Action :=
  trace.filter Action.isGate

@[simp]
theorem toggles_nil :
  toggles [] = []
  := rfl

@[simp]
theorem gates_nil :
  gates [] = []
  := rfl

@[simp]
theorem toggles_cons (action : Action) (trace : List Action) :
  toggles (action :: trace) = action.toggle?.toList ++ toggles trace
  := by
  rw [toggles, List.filterMap_cons]
  cases action.toggle? with
  | none => rfl
  | some start => rfl

@[simp]
theorem gates_cons (action : Action) (trace : List Action) :
  gates (action :: trace) = if action.isGate then action :: gates trace else gates trace
  := List.filter_cons

@[simp]
theorem toggles_append (before after : List Action) :
  toggles (before ++ after) = toggles before ++ toggles after
  := List.filterMap_append

@[simp]
theorem gates_append (before after : List Action) :
  gates (before ++ after) = gates before ++ gates after
  := List.filter_append ..

/-- Between `s` and `s'` the host was called as `actions` describe. -/
structure Took (setup : Setup η κ) (actions : List Action) (s s' : Session η κ) : Prop where
  host_eq : s'.host = (setup.host.replay actions s.host).2
  posted_eq : s'.posted = s.posted ++ (setup.host.replay actions s.host).1
  trace_eq : s'.trace = s.trace ++ actions

theorem Took.trans {setup : Setup η κ} {before after : List Action} {s₁ s₂ s₃ : Session η κ}
    (h : Took setup before s₁ s₂) (h' : Took setup after s₂ s₃) :
  Took setup (before ++ after) s₁ s₃
  := by
  constructor
  case host_eq => rw [h'.host_eq, h.host_eq, Host.replay_append]
  case posted_eq =>
    rw [h'.posted_eq, h.posted_eq, h.host_eq, Host.replay_append, List.append_assoc]
  case trace_eq => rw [h'.trace_eq, h.trace_eq, List.append_assoc]

/-- `s'` is `s` after calls to the host, which `actions` describe. -/
def Called (setup : Setup η κ) (actions : List Action) (s s' : Session η κ) : Prop :=
  ∃ posted host, setup.host.replay actions s.host = (posted, host)
    ∧ s' = { s with
        host := host
        posted := s.posted ++ posted
        trace := s.trace ++ actions }

section

variable {setup : Setup η κ} {actions : List Action} {s s' : Session η κ}

theorem Called.refl (setup : Setup η κ) (s : Session η κ) :
  Called setup [] s s
  := by
  use [], s.host, rfl
  rw [List.append_nil, List.append_nil]

theorem Called.took (h : Called setup actions s s') :
  Took setup actions s s'
  := by
  obtain ⟨posted, host, hreplay, rfl⟩ := h
  constructor
  case host_eq => rw [hreplay]
  case posted_eq => rw [hreplay]
  case trace_eq => rfl

/-- Calls from `s` are calls from every session that differs from `s` in nothing that they
touch. -/
theorem Called.tookFrom {s₀ : Session η κ} (h : Called setup actions s s')
    (host_eq : s.host = s₀.host) (posted_eq : s.posted = s₀.posted)
    (trace_eq : s.trace = s₀.trace) :
  Took setup actions s₀ s'
  := by
  have took := h.took
  constructor
  case host_eq => rw [took.host_eq, host_eq]
  case posted_eq => rw [took.posted_eq, host_eq, posted_eq]
  case trace_eq => rw [took.trace_eq, trace_eq]

theorem Called.trans {before after : List Action} {s₁ s₂ s₃ : Session η κ}
    (h : Called setup before s₁ s₂) (h' : Called setup after s₂ s₃) :
  Called setup (before ++ after) s₁ s₃
  := by
  obtain ⟨posted, host, hreplay, rfl⟩ := h
  obtain ⟨posted', host', hreplay', rfl⟩ := h'
  use posted ++ posted', host'
  constructor
  · rw [Host.replay_append, hreplay, hreplay']
  · simp only [List.append_assoc]

/-- Calls change nothing else. -/
theorem Called.same {β : Type} (h : Called setup actions s s') (f : Session η κ → β)
    (indifferent : ∀ host posted trace,
      f { s with host := host, posted := posted, trace := trace } = f s) :
  f s' = f s
  := by
  obtain ⟨_, _, -, rfl⟩ := h
  apply indifferent

theorem Called.status_eq (h : Called setup actions s s') :
  s'.status = s.status
  := h.same Session.status (fun _ _ _ => rfl)

/-- What does not look at the host and the trace can be done before the calls as well. -/
theorem Called.map (h : Called setup actions s s') (f : Session η κ → Session η κ)
    (indifferent : ∀ host posted trace,
      f { s with host := host, posted := posted, trace := trace }
        = { f s with host := host, posted := posted, trace := trace }) :
  Called setup actions (f s) (f s')
  := by
  obtain ⟨posted, host, hreplay, rfl⟩ := h
  have same := indifferent s.host s.posted s.trace
  have host_eq : (f s).host = s.host := (congrArg Session.host same :)
  have posted_eq : (f s).posted = s.posted := (congrArg Session.posted same :)
  have trace_eq : (f s).trace = s.trace := (congrArg Session.trace same :)
  use posted, host
  rw [host_eq, posted_eq, trace_eq]
  exact ⟨hreplay, indifferent _ _ _⟩

theorem call_called (setup : Setup η κ) (f : η → Reply η α) (action : α → Action)
    (s : Session η κ)
    (takes : setup.host.take (action (f s.host).answer) s.host
      = ((f s.host).posted, (f s.host).host)) :
  Called setup [action (f s.host).answer] s (s.call f action).2
  := by
  use (f s.host).posted, (f s.host).host
  constructor
  · rw [Host.replay, takes]
    simp only [Host.replay, List.append_nil]
  · rfl

/-- Actions that do not call the host are recorded only. -/
theorem record_called {s : Session η κ} (silent : setup.host.replay actions s.host = ([], s.host)) :
  Called setup actions s { s with trace := s.trace ++ actions }
  := by
  use [], s.host, silent
  rw [List.append_nil]

end

/-! ### Notifying the reader -/

/-- What is told of fragments of which `sent` were accepted and `rest` were not, the first of
them because the radio refused it. -/
def notices (sent rest : List Bytes) : List Action :=
  sent.map (.notify .server2Client · true)
    ++ rest.head?.toList.map (.notify .server2Client · false)

@[simp]
theorem toggles_notices (sent rest : List Bytes) :
  toggles (notices sent rest) = []
  := by
  apply List.filterMap_eq_nil_iff.mpr
  intro action h
  simp only [notices, List.mem_append, List.mem_map] at h
  obtain ⟨_, -, rfl⟩ | ⟨_, -, rfl⟩ := h
  · rfl
  · rfl

@[simp]
theorem gates_notices (sent rest : List Bytes) :
  gates (notices sent rest) = []
  := by
  apply List.filter_eq_nil_iff.mpr
  intro action h
  simp only [notices, List.mem_append, List.mem_map] at h
  obtain ⟨_, -, rfl⟩ | ⟨_, -, rfl⟩ := h
  · simp [Action.isGate]
  · simp [Action.isGate]

@[simp]
theorem accepted_notices (sent rest : List Bytes) :
  accepted (notices sent rest) = sent
  := by
  have refused : accepted (rest.head?.toList.map (.notify .server2Client · false)) = [] := by
    cases rest with
    | nil => rfl
    | cons fragment rest => rfl
  rw [notices, accepted_append, refused, List.append_nil, accepted, List.filterMap_map]
  exact List.filterMap_some

/-- The fragments are sent in order until one is refused. -/
theorem send_called (setup : Setup η κ) (fragments : List Bytes) (s : Session η κ) :
  ∃ sent, fragments = sent ++ (send setup fragments s).1
    ∧ Called setup (notices sent (send setup fragments s).1) s (send setup fragments s).2
  := by
  induction fragments generalizing s with
  | nil => exact ⟨[], rfl, Called.refl setup s⟩
  | cons fragment rest ih =>
    have called := call_called setup (setup.host.notify .server2Client fragment)
      (fun accepted => .notify .server2Client fragment accepted) s rfl
    rw [send]
    cases h : (s.call (setup.host.notify .server2Client fragment)
      (fun accepted => .notify .server2Client fragment accepted)).1 with
    | true =>
      obtain ⟨sent, hsent, hcalled⟩ := ih (s.call (setup.host.notify .server2Client fragment)
        (fun accepted => .notify .server2Client fragment accepted)).2
      have accepted : (setup.host.notify .server2Client fragment s.host).answer = true := h
      rw [accepted] at called
      use fragment :: sent
      simp only [h, if_true]
      exact ⟨congrArg (fragment :: ·) hsent, called.trans hcalled⟩
    | false =>
      have refused : (setup.host.notify .server2Client fragment s.host).answer = false := h
      rw [refused] at called
      use []
      simp only [h, Bool.false_eq_true, if_false]
      exact ⟨rfl, called⟩

/-- The message that tells the reader a status in the clear. -/
def statusMessage (status : SessionStatus) : Bytes :=
  Cbor.encode (SessionData.statusOnly status)

/-- The fragments of a status are sent as far as the radio takes them. -/
theorem sendStatus_called (setup : Setup η κ) (status : SessionStatus) (s : Session η κ) :
  ∃ sent rest, Fragment.frame (statusMessage status) (setup.block s.host) = sent ++ rest
    ∧ Called setup (notices sent rest) s (s.sendStatus setup status)
  := by
  obtain ⟨sent, frame_eq, h⟩ := send_called setup
    (Fragment.frame (statusMessage status) (setup.block s.host)) s
  exact ⟨sent, _, frame_eq, h⟩

/-- What is sent of the response leaves the queue; the queue is drained if nothing is left. -/
theorem sendNext_called (setup : Setup η κ) (s : Session η κ) :
  ∃ sent rest, s.outgoing = sent ++ rest
    ∧ Called setup (notices sent rest) { s with outgoing := rest } (s.sendNext setup).2
    ∧ (s.sendNext setup).1 = if rest.isEmpty then some .queueDrained else none
  := by
  obtain ⟨sent, hsent, hcalled⟩ := send_called setup s.outgoing s
  use sent, (send setup s.outgoing s).1, hsent
  constructor
  · exact hcalled.map (fun s' => { s' with outgoing := (send setup s.outgoing s).1 })
      (fun _ _ _ => rfl)
  · rfl

/-! ### Statuses -/

theorem enter_called (setup : Setup η κ) {next : TransferStatus} {s : Session η κ}
    (h : s.status ≠ next) :
  (s.enter setup next).1 = onEnter s.status next
    ∧ Called setup [.statusChanged next] { s with status := next } (s.enter setup next).2
  := by
  rw [enter, if_neg h]
  use rfl
  exact call_called setup (setup.host.statusChanged next) (fun _ => .statusChanged next) _ rfl

/-- What is told when advertising is stopped. -/
def stops (s : Session η κ) : List Action :=
  if s.isAdvertising then [.stopAdvertising] else []

theorem toggles_stops (s : Session η κ) :
  toggles s.stops = if s.isAdvertising then [false] else []
  := by
  rw [stops]
  split
  · rfl
  · rfl

@[simp]
theorem gates_stops (s : Session η κ) :
  gates s.stops = []
  := by
  rw [stops]
  split
  · simp [Action.isGate]
  · rfl

@[simp]
theorem accepted_stops (s : Session η κ) :
  accepted s.stops = []
  := by
  rw [stops]
  split
  · rfl
  · rfl

theorem stopAdvertising_called (setup : Setup η κ) (s : Session η κ) :
  Called setup s.stops { s with isAdvertising := false } (s.stopAdvertising setup)
  := by
  rw [stopAdvertising, stops]
  cases h : s.isAdvertising with
  | true =>
    simp only [if_true]
    exact (call_called setup setup.host.stopAdvertising (fun _ => .stopAdvertising) s rfl).map
      (fun s => { s with isAdvertising := false }) (fun _ _ _ => rfl)
  | false =>
    simp only [Bool.false_eq_true, if_false]
    rw [← h]
    apply Called.refl

/-- A session in a status, without anything that belongs to an engagement. -/
def released (status : TransferStatus) (s : Session η κ) : Session η κ :=
  { s with
    status := status
    subscriptions := .empty
    isAdvertising := false
    reassembly := []
    outgoing := []
    engagement := none
    tunnel := .closed
    pending := none }

theorem Called.released {setup : Setup η κ} {actions : List Action} {s s' : Session η κ}
    (h : Called setup actions s s') (status : TransferStatus) :
  Called setup actions (s.released status) (s'.released status)
  := h.map (Session.released status) (fun _ _ _ => rfl)

theorem teardown_called (setup : Setup η κ) (s : Session η κ) :
  Called setup s.stops (s.released s.status) (s.teardown setup)
  := by
  exact (stopAdvertising_called setup s).map (fun s => { s with
    engagement := none
    tunnel := .closed
    reassembly := []
    outgoing := []
    pending := none
    subscriptions := .empty }) (fun _ _ _ => rfl)

end Session

end Presentment
