import Presentment.Proofs.Transfer.Consent
import Presentment.Proofs.Transfer.History
import Presentment.Proofs.Transfer.Renewal

/-!
# Recovery

A session that has failed holds nothing of its engagement.  When it recovers, it goes on like a
new session that is set up: it answers in the same way, and its host is called for the same, for as
long as both are given the same events.  Only the requests are numbered from where the old session
stopped.
-/

namespace Option

variable {α β γ δ : Type} {r : α → β → Prop} {q : γ → δ → Prop}

theorem Rel.map {x : Option α} {y : Option β} (h : Rel r x y) {f : α → γ} {g : β → δ}
    (step : ∀ a b, r a b → q (f a) (g b)) :
  Rel q (x.map f) (y.map g)
  := by
  cases h with
  | none => exact .none
  | some hr => exact .some (step _ _ hr)

theorem Rel.bind {x : Option α} {y : Option β} (h : Rel r x y) {f : α → Option γ}
    {g : β → Option δ} (step : ∀ a b, r a b → Rel q (f a) (g b)) :
  Rel q (x.bind f) (y.bind g)
  := by
  cases h with
  | none => exact .none
  | some hr => exact step _ _ hr

end Option

namespace Presentment

variable {η κ : Type}

/-- An impulse, as it is given to a session that counts from cycle `k` on. -/
def Impulse.since (k : Nat) : Impulse η → Impulse η
  | .handle fuel event => .handle fuel (event.since k)
  | .handlePosted fuel => .handlePosted fuel
  | .outside change posted => .outside change (posted.map (Event.since k))

namespace Session

section

variable {setup : Setup η κ} {k : Nat} {past : List Action} {s s' t : Session η κ} {event : Event}
  {followUps : List Event}

/-! ### Numbers of requests -/

/-- A request that waits has a number. -/
theorem Step.cycle_pos (step : Step setup s event followUps s')
    (ih : s.status = .requestReceived → 0 < s.cycle) (h : s'.status = .requestReceived) :
  0 < s'.cycle
  := by
  cases step with
  | stay | subscribe | unsubscribe => exact ih h
  | gather status_eq => cases status_eq.symm.trans h
  | fail _ called | leave _ called => simp [called.status_eq, released] at h
  | setUp _ _ called | advertise _ _ _ called | connect _ _ called | start _ called
  | respond _ _ _ _ _ _ _ _ _ called | finish _ called | recover _ called =>
    simp [called.status_eq] at h
  | sendMore status_eq _ called => simp [called.status_eq, status_eq] at h
  | ask _ _ _ _ _ _ _ called =>
    rw [called.same Session.cycle (fun _ _ _ => rfl)]
    exact Nat.succ_pos s.cycle

theorem Reached.cycle_pos (h : Reached setup s) :
  s.status = .requestReceived → 0 < s.cycle
  := by
  induction h with
  | fresh supply host =>
    intro status_eq
    cases status_eq
  | @apply s event _ ih => exact (apply_step setup event s).cycle_pos ih
  | outside host posted _ ih => exact ih

/-! ### Runs -/

/-- `s` goes on like `t`, which has been applying events. -/
structure Resumes (setup : Setup η κ) (k : Nat) (past : List Action) (s t : Session η κ) :
    Prop where
  renews : Renews k past s t
  reached : Reached (setup.since k) t

theorem Resumes.apply (h : Resumes setup k past s t) (event : Event) :
  (s.apply setup event).1 = (t.apply (setup.since k) (event.since k)).1
    ∧ (t.apply (setup.since k) (event.since k)).2.1
      = (s.apply setup event).2.1.map (Event.since k)
    ∧ Resumes setup k past (s.apply setup event).2.2
      (t.apply (setup.since k) (event.since k)).2.2
  := by
  obtain ⟨acknowledgement_eq, followUps_eq, renews⟩ :=
    h.renews.apply h.reached.cycle_pos setup event
  exact ⟨acknowledgement_eq, followUps_eq, renews, h.reached.apply _⟩

/-- The same may happen to both hosts. -/
theorem Resumes.outside (h : Resumes setup k past s t) (change : η → η) (posted : List Event) :
  Resumes setup k past
    { s with
      host := change s.host
      posted := posted }
    { t with
      host := change t.host
      posted := posted.map (Event.since k) }
  := by
  obtain ⟨⟨_, lastError, _, rfl⟩, reached⟩ := h
  exact ⟨⟨posted, lastError, rfl, rfl⟩, reached.outside _ _⟩

theorem Resumes.drain (h : Resumes setup k past s t) (fuel : Nat) (queue : List Event) :
  Option.Rel (Resumes setup k past) (s.drain setup fuel queue)
    (t.drain (setup.since k) fuel (queue.map (Event.since k)))
  := by
  have posted_eq := h.renews.posted_eq
  -- As the same waits on both sides, the one takes the turns of the other.
  fun_induction Session.drain setup fuel queue s generalizing t with
  | case1 event queue s => exact .none
  | case2 event queue s fuel _ followUps s₁ apply_eq ih =>
    obtain ⟨-, followUps_eq, resumes⟩ := h.apply event
    rw [apply_eq] at followUps_eq resumes
    rw [List.map_cons, Session.drain]
    dsimp only
    rw [followUps_eq, ← List.map_append]
    exact ih resumes resumes.renews.posted_eq
  | case3 s fuel hposted =>
    rw [hposted] at posted_eq
    rw [List.map_nil, drain_of_posted_eq_nil posted_eq]
    exact .some h
  | case4 s event posted hposted =>
    rw [hposted] at posted_eq
    rw [List.map_nil, drain_zero_posted posted_eq]
    exact .none
  | case5 s event posted hposted fuel _ followUps s₁ apply_eq ih =>
    rw [hposted] at posted_eq
    have taken : Resumes setup k past { s with posted := posted }
        { t with posted := posted.map (Event.since k) } := h.outside id posted
    obtain ⟨-, followUps_eq, resumes⟩ := taken.apply event
    rw [apply_eq] at followUps_eq resumes
    rw [List.map_nil, drain_posted posted_eq, followUps_eq]
    exact ih resumes resumes.renews.posted_eq

/-- Two answers are the same, and so is what comes after them. -/
def Answers {α : Type} (setup : Setup η κ) (k : Nat) (past : List Action)
    (x y : α × Session η κ) : Prop :=
  x.1 = y.1 ∧ Resumes setup k past x.2 y.2

theorem Resumes.handle (h : Resumes setup k past s t) (fuel : Nat) (event : Event) :
  Option.Rel (Answers setup k past) (s.handle setup fuel event)
    (t.handle (setup.since k) fuel (event.since k))
  := by
  obtain ⟨acknowledgement_eq, followUps_eq, resumes⟩ := h.apply event
  have preview_eq : (setup.since k).config.preview = setup.config.preview := rfl
  rw [Session.handle, Session.handle, preview_eq]
  split
  · exact .some ⟨rfl, h⟩
  · dsimp only
    rw [followUps_eq]
    exact (resumes.drain fuel _).map (fun _ _ resumes => ⟨acknowledgement_eq, resumes⟩)

theorem Resumes.handlePosted (h : Resumes setup k past s t) (fuel : Nat) :
  Option.Rel (Resumes setup k past) (s.handlePosted setup fuel)
    (t.handlePosted (setup.since k) fuel)
  := by
  have preview_eq : (setup.since k).config.preview = setup.config.preview := rfl
  rw [Session.handlePosted, Session.handlePosted, preview_eq]
  split
  · exact .some (h.outside id [])
  · exact h.drain fuel []

theorem Resumes.react (h : Resumes setup k past s t) (impulse : Impulse η) :
  Option.Rel (Answers setup k past) (s.react setup impulse)
    (t.react (setup.since k) (impulse.since k))
  := by
  cases impulse with
  | handle fuel event =>
    exact (h.handle fuel event).map (fun _ _ answers => ⟨congrArg some answers.1, answers.2⟩)
  | handlePosted fuel =>
    exact (h.handlePosted fuel).map (fun _ _ resumes => ⟨rfl, resumes⟩)
  | outside change posted =>
    have outside := h.outside change (s.posted ++ posted)
    rw [List.map_append, ← h.renews.posted_eq] at outside
    exact .some ⟨rfl, outside⟩

/-- When the same comes of two impulses, the same comes of all that follows them. -/
theorem proceed_cons {impulse impulse' : Impulse η} {rest rest' : List (Impulse η)}
    (reacted : Option.Rel (Answers setup k past) (s.react setup impulse)
      (t.react (setup.since k) impulse'))
    (goesOn : ∀ s t, Resumes setup k past s t →
      Option.Rel (Answers setup k past) (s.proceed setup rest) (t.proceed (setup.since k) rest')) :
  Option.Rel (Answers setup k past) (s.proceed setup (impulse :: rest))
    (t.proceed (setup.since k) (impulse' :: rest'))
  := by
  apply reacted.bind
  rintro ⟨answer, s₁⟩ ⟨_, t₁⟩ ⟨rfl, resumes⟩
  apply (goesOn s₁ t₁ resumes).map
  rintro ⟨answers, s₂⟩ ⟨_, t₂⟩ ⟨rfl, resumes₂⟩
  have status_eq := resumes.renews.same Session.status (fun _ _ _ _ _ => rfl)
  exact ⟨by rw [status_eq], resumes₂⟩

theorem Resumes.proceed (h : Resumes setup k past s t) (impulses : List (Impulse η)) :
  Option.Rel (Answers setup k past) (s.proceed setup impulses)
    (t.proceed (setup.since k) (impulses.map (Impulse.since k)))
  := by
  induction impulses generalizing s t with
  | nil => exact .some ⟨rfl, h⟩
  | cons impulse rest ih => exact proceed_cons (h.react impulse) (fun _ _ resumes => ih resumes)

/-! ### Recovering -/

/-- A new session that is to be set up in place of `s`: it draws what `s` has not drawn, and its
host has heard that the status is `initializing` again. -/
def successor (setup : Setup η κ) (s : Session η κ) : Session η κ :=
  { Session.fresh s.supply (setup.host.statusChanged .initializing s.host).host with
    posted := (setup.host.statusChanged .initializing s.host).posted.map (Event.since s.cycle) }

theorem reached_successor (setup : Setup η κ) (s : Session η κ) :
  Reached (setup.since s.cycle) (s.successor setup)
  := (Reached.fresh s.supply (setup.host.statusChanged .initializing s.host).host).outside _ _

/-- Recovering reports the new status, and setting up is next. -/
theorem apply_recover (setup : Setup η κ) (failed : s.status = .error) :
  s.apply setup .recover = (.success, [.setUp],
    ({ s with status := .initializing }.call (setup.host.statusChanged .initializing)
      (fun _ => .statusChanged .initializing)).2)
  := by
  rw [Session.apply, transition, if_pos (show s.snapshot.status = .error from failed)]
  dsimp only [Transition.enter]
  rw [Session.enter, if_neg (by rw [failed]; decide), failed]
  rfl

/-- A failed session holds nothing of its engagement. -/
theorem Settles.eq_of_error {waiting : List Event} (h : Settles waiting s)
    (failed : s.status = .error) :
  s = { Session.fresh s.supply s.host with
    status := .error
    cycle := s.cycle
    lastError := s.lastError
    posted := s.posted
    trace := s.trace }
  := by
  have subscriptions_eq : s.subscriptions = .empty :=
    eq_of_beq (h.unsubscribed (by rw [failed]; rfl))
  have advertising_eq : s.isAdvertising = false := by simpa [failed] using h.advertising
  have reassembly_eq : s.reassembly = [] := h.reassembly (by simp [failed])
  have outgoing_eq : s.outgoing = [] := h.outgoing_eq_nil (by simp [failed]) (by simp [failed])
  have engagement_eq : s.engagement = none := by simpa [failed] using h.engagement
  have pending_eq : s.pending = none := by simpa [failed] using h.pending
  have tunnel_eq : s.tunnel = .closed := by
    have closed : s.tunnel.isEstablished = false := by simpa [failed] using h.tunnel
    cases tunnel_eq : s.tunnel with
    | closed => rfl
    | established =>
      rw [tunnel_eq] at closed
      cases closed
  rw [Session.fresh, ← failed, ← subscriptions_eq, ← advertising_eq, ← reassembly_eq,
    ← outgoing_eq, ← engagement_eq, ← pending_eq, ← tunnel_eq]

/-- A failed session that recovers is like its successor, and is then set up. -/
theorem Settles.recover {waiting : List Event} (h : Settles waiting s) (setup : Setup η κ)
    (failed : s.status = .error) (heard : s.posted = []) :
  ∃ s₁, s.apply setup .recover = (.success, [.setUp], s₁)
    ∧ Resumes setup s.cycle (s.trace ++ [.statusChanged .initializing]) s₁ (s.successor setup)
  := by
  refine ⟨_, apply_recover setup failed, ⟨?renews, reached_successor setup s⟩⟩
  use (setup.host.statusChanged .initializing s.host).posted, s.lastError, rfl
  rw [h.eq_of_error failed, heard]
  simp [Session.call, Session.fresh, successor]

/-- A preview keeps its status. -/
theorem status_eq_of_proceed_preview (preview : setup.config.preview)
    {impulses : List (Impulse η)} {answers : List (Option Acknowledgement × TransferStatus)}
    (heq : s.proceed setup impulses = some (answers, s')) :
  s'.status = s.status
  := by
  induction impulses generalizing answers s with
  | nil =>
    cases heq
    rfl
  | cons impulse rest ih =>
    obtain ⟨⟨answer, s₁⟩, react_eq, hrest⟩ := Option.bind_eq_some_iff.mp heq
    obtain ⟨⟨others, _⟩, proceed_eq, hpair⟩ := Option.map_eq_some_iff.mp hrest
    cases hpair
    rw [ih proceed_eq]
    cases impulse with
    | handle fuel event =>
      rw [Session.react, Session.handle, if_pos preview] at react_eq
      cases react_eq
      rfl
    | handlePosted fuel =>
      rw [Session.react, Session.handlePosted, if_pos preview] at react_eq
      cases react_eq
      rfl
    | outside change posted =>
      cases react_eq
      rfl

/-- Setting up follows, and leads to what it leads to in the successor. -/
theorem Settles.handle_recover {waiting : List Event} (h : Settles waiting s)
    (shown : setup.config.preview = false) (failed : s.status = .error) (heard : s.posted = [])
    (fuel : Nat) :
  Option.Rel (Answers setup s.cycle (s.trace ++ [.statusChanged .initializing]))
    (s.handle setup (fuel + 1) .recover)
    ((s.successor setup).handle (setup.since s.cycle) fuel .setUp)
  := by
  obtain ⟨s₁, recover_eq, recovered⟩ := h.recover setup failed heard
  obtain ⟨-, followUps_eq, resumes⟩ := recovered.apply .setUp
  have setUp_eq : Event.setUp.since s.cycle = .setUp := rfl
  have preview_eq : (setup.since s.cycle).config.preview = false := shown
  rw [setUp_eq] at followUps_eq resumes
  rw [Session.handle, if_neg (Bool.eq_false_iff.mp shown), Session.handle,
    if_neg (Bool.eq_false_iff.mp preview_eq), recover_eq]
  dsimp only [Session.drain]
  rw [List.nil_append, followUps_eq]
  exact (resumes.drain fuel _).map (fun _ _ drained => ⟨rfl, drained⟩)

/-- When a session that has failed and has heard everything recovers, it goes on, whatever happens,
like a new session that is set up. -/
theorem proceed_recover {supply : Supply} {host : η} {history : List (Impulse η)}
    {past : List (Option Acknowledgement × TransferStatus)}
    (run : (Session.fresh supply host).proceed setup history = some (past, s))
    (failed : s.status = .error) (heard : s.posted = []) (fuel : Nat)
    (impulses : List (Impulse η)) :
  Option.Rel (Answers setup s.cycle (s.trace ++ [.statusChanged .initializing]))
    (s.proceed setup (.handle (fuel + 1) .recover :: impulses))
    ((s.successor setup).proceed (setup.since s.cycle)
      (.handle fuel .setUp :: impulses.map (Impulse.since s.cycle)))
  := by
  have shown : setup.config.preview = false := by
    cases preview : setup.config.preview with
    | false => rfl
    | true => cases failed.symm.trans (status_eq_of_proceed_preview preview run)
  obtain ⟨_, history⟩ := (History.fresh supply host).proceed run
  have recovered := history.settles.handle_recover shown failed heard fuel
  apply proceed_cons _ (fun _ _ resumes => resumes.proceed impulses)
  exact recovered.map (fun _ _ answers => ⟨congrArg some answers.1, answers.2⟩)

end

/-! ### A user who changes their mind -/

/-- What the radio, the reader and a user who accepts or rejects do, after the session is set up. -/
def nameExchange (decision : Decision) : List (Impulse Radio) :=
  [.handle 0 (.subscribed .state), .handle 0 (.subscribed .server2Client),
    .handle 0 (.write .state Channel.startMarker),
    .handle 0 (.write .client2Server (0x00 :: nameMessage.toOption.getD [])),
    .handle 1 (.consent decision)]

/-- The user rejects the request for the name, the session recovers, and the user accepts the next
request: it is the second of the session, and would be the first of a new one. -/
theorem proceed_recover_name :
  ∃ past s, unvaried.proceed nameWallet (.handle 1 .setUp :: nameExchange ⟨false, none, 1⟩)
      = some (past, s)
    ∧ s.status = .error
    ∧ s.posted = []
    ∧ ∃ x y, s.proceed nameWallet (.handle (1 + 1) .recover :: nameExchange ⟨true, none, 2⟩)
        = some x
      ∧ (s.successor nameWallet).proceed (nameWallet.since 1)
          (.handle 1 .setUp :: nameExchange ⟨true, none, 1⟩)
        = some y
      ∧ x.2.status = .responseSent
      ∧ Answers nameWallet 1 (s.trace ++ [.statusChanged .initializing]) x y
  := by
  have outcome : (unvaried.proceed nameWallet
      (.handle 1 .setUp :: nameExchange ⟨false, none, 1⟩)).map (fun result =>
        (result.2.status, result.2.posted, result.2.cycle,
          (result.2.proceed nameWallet
            (.handle (1 + 1) .recover :: nameExchange ⟨true, none, 2⟩)).map
            (fun result => result.2.status)))
      = some (.error, [], 1, some .responseSent) := by
    decide +kernel
  obtain ⟨⟨past, s⟩, run, heq⟩ := Option.map_eq_some_iff.mp outcome
  simp only [Prod.mk.injEq] at heq
  obtain ⟨failed, heard, cycle_eq, accepted⟩ := heq
  obtain ⟨x, proceed_eq, status_eq⟩ := Option.map_eq_some_iff.mp accepted
  have recovered := proceed_recover run failed heard 1 (nameExchange ⟨true, none, 2⟩)
  have decisions_eq : (nameExchange ⟨true, none, 2⟩).map (Impulse.since 1)
      = nameExchange ⟨true, none, 1⟩ := rfl
  rw [cycle_eq, decisions_eq, proceed_eq] at recovered
  refine ⟨past, s, run, failed, heard, x, ?_⟩
  generalize (s.successor nameWallet).proceed (nameWallet.since 1)
    (.handle 1 .setUp :: nameExchange ⟨true, none, 1⟩) = y at recovered
  cases recovered with
  | some answers => exact ⟨_, proceed_eq, rfl, status_eq, answers⟩

end Session

end Presentment
