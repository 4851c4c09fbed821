import Presentment.Proofs.Transfer.Resources
import Presentment.Proofs.Verifier.Agreement

/-!
# Handling an event ends

An event sets off further events, and the host posts the decisions of the user.  Every event
weighs more than what it sets off, so that handling it ends, but for one loop: a session that
recovers by itself is set up again, at once, when the radio refuses to advertise.  Handling an
event ends as long as the radio does not refuse again and again, and if it always refuses,
setting up a session never ends.
-/

namespace Presentment

/-- Whether an action asks the user. -/
def Action.isPrompt : Action → Bool
  | .prompt _ _ => true
  | _ => false

namespace Host

variable {η : Type}

/-- The host posts nothing, except for at most one decision when the user is asked. -/
def IsModest (host : Host η) : Prop :=
  ∀ action h, (host.take action h).1 = []
    ∨ action.isPrompt ∧ ∃ decision, (host.take action h).1 = [.consent decision]

theorem IsModest.replay_eq_nil {host : Host η} (modest : host.IsModest) {actions : List Action}
    (unasked : ∀ action ∈ actions, action.isPrompt = false) (h : η) :
  (host.replay actions h).1 = []
  := by
  induction actions generalizing h with
  | nil => rfl
  | cons action actions ih =>
    have later := ih (fun action haction => unasked action (List.mem_cons_of_mem _ haction))
    rw [replay, later, List.append_nil]
    rcases modest action h with hnil | ⟨hprompt, -⟩
    · exact hnil
    · rw [unasked action List.mem_cons_self] at hprompt
      cases hprompt

/-- A host that is `h`, if it refuses to advertise at some time, may be `h'` after that. -/
def Refuses (host : Host η) (h' h : η) : Prop :=
  ∃ actions service reason,
    (host.startAdvertising service (host.replay actions h).2).answer = some reason
      ∧ h' = (host.startAdvertising service (host.replay actions h).2).host

theorem Refuses.of_replay {host : Host η} {actions : List Action} {h h' : η}
    (refuses : host.Refuses h' (host.replay actions h).2) :
  host.Refuses h' h
  := by
  obtain ⟨later, service, reason, answer_eq, host_eq⟩ := refuses
  rw [← replay_snd_append] at answer_eq host_eq
  exact ⟨_, service, reason, answer_eq, host_eq⟩

/-- As long as the host is in certain states, its radio is ready but refuses to advertise. -/
structure IsStubborn (host : Host η) (stuck : η → Prop) : Prop where
  ready : ∀ h, stuck h → host.transportState h = .ready
  refuses : ∀ service h, stuck h → ∃ reason, (host.startAdvertising service h).answer = some reason
  stays : ∀ action h, stuck h → stuck (host.take action h).2

theorem IsStubborn.replay {host : Host η} {stuck : η → Prop} (stubborn : host.IsStubborn stuck)
    (actions : List Action) {h : η} (hstuck : stuck h) :
  stuck (host.replay actions h).2
  := by
  induction actions generalizing h with
  | nil => exact hstuck
  | cons action actions ih => exact ih (stubborn.stays action h hstuck)

end Host

/-! ### Weights -/

/-- More than all that an event sets off, unless the radio refuses to advertise. -/
def Event.weight : Event → Nat
  | .write _ _ => 5
  | .consent _ => 4
  | .recover => 3
  | .setUp | .readyToSendMore => 2
  | _ => 1

/-- How much events weigh together. -/
def weigh (events : List Event) : Nat :=
  (events.map Event.weight).sum

theorem weigh_cons (event : Event) (events : List Event) :
  weigh (event :: events) = event.weight + weigh events
  := by
  rw [weigh, List.map_cons, List.sum_cons, weigh]

theorem weigh_append (before after : List Event) :
  weigh (before ++ after) = weigh before + weigh after
  := by
  rw [weigh, List.map_append, List.sum_append, weigh, weigh]

theorem Event.weight_pos (event : Event) :
  0 < event.weight
  := by
  cases event <;> exact Nat.succ_pos _

/-- Of actions that ask nobody but at the end, at most one decision comes. -/
theorem Host.IsModest.weigh_prompt_le {η : Type} {host : Host η} {actions : List Action}
    (modest : host.IsModest)
    (unasked : ∀ action ∈ actions, action.isPrompt = false) (action : Action) (h : η) :
  weigh (host.replay (actions ++ [action]) h).1 ≤ 4
  := by
  rw [Host.replay_append, modest.replay_eq_nil unasked, List.nil_append, Host.replay, Host.replay,
    List.append_nil]
  rcases modest action (host.replay actions h).2 with hnil | ⟨-, decision, hdecision⟩
  · rw [hnil]
    exact Nat.zero_le 4
  · rw [hdecision]
    exact Nat.le_refl 4

namespace Session

variable {η κ : Type}

theorem weigh_recovery_le (setup : Setup η κ) (e : TransferError) :
  weigh (recovery setup e) ≤ 3
  := by
  rw [recovery]
  split
  · exact Nat.le_refl 3
  · exact Nat.zero_le 3

theorem weigh_drained_le (rest : List Bytes) :
  weigh (if rest.isEmpty then [.queueDrained] else []) ≤ 1
  := by
  split
  · exact Nat.le_refl 1
  · exact Nat.zero_le 1

/-- No one recovers from bad input or a radio that may not be used. -/
theorem recovery_eq_nil {setup : Setup η κ} {e : TransferError}
    (h : setup.config.autoRecover = false ∨ e.isRecoverable = false) :
  recovery setup e = []
  := by
  rw [recovery]
  apply if_neg
  rcases h with h | h
  · rw [h]
    exact Bool.false_ne_true
  · rw [h, Bool.and_false]
    exact Bool.false_ne_true

section

variable {setup : Setup η κ} {s s' : Session η κ} {event : Event} {followUps : List Event}
  {actions : List Action}

theorem isPrompt_of_gates_eq (h : gates actions = []) :
  ∀ action ∈ actions, action.isPrompt = false
  := by
  intro action haction
  have ungated := List.filter_eq_nil_iff.mp h action haction
  cases action with
  | prompt => exact absurd rfl ungated
  | _ => rfl

/-- What is set off by an event, by itself or through the host, weighs less than the event. -/
def Lightens (setup : Setup η κ) (s : Session η κ) (event : Event) (followUps : List Event)
    (s' : Session η κ) : Prop :=
  ∃ actions, Took setup actions s s'
    ∧ weigh (followUps ++ (setup.host.replay actions s.host).1) < event.weight

/-- The radio refuses to advertise, and the session is to recover. -/
def Retries (setup : Setup η κ) (s s' : Session η κ) : Prop :=
  setup.config.autoRecover
    ∧ ∃ h actions, setup.host.Refuses h s.host ∧ s'.host = (setup.host.replay actions h).2

theorem lightens_of_unasked (modest : setup.host.IsModest) (took : Took setup actions s s')
    (unasked : ∀ action ∈ actions, action.isPrompt = false)
    (lighter : weigh followUps < event.weight) :
  Lightens setup s event followUps s'
  := by
  use actions, took
  rw [modest.replay_eq_nil unasked, List.append_nil]
  exact lighter

/-- A radio that may not be used cannot be recovered from. -/
theorem isRecoverable_of_fail {status : TransferStatus} {state : TransportState}
    {failure : Failure} (h : Transition.ofTransportState status state = .fail failure []) :
  failure.toError.isRecoverable = false
  := by
  have failed : (Transition.ofTransportState status state).failure = some failure := by
    rw [h]
    rfl
  cases failure with
  | transportUnauthorized | transportUnsupported => rfl
  | userRejected =>
    cases state with
    | unknown | resetting => cases failed
    | ready | unauthorized | unsupported | poweredOff =>
      rw [Transition.ofTransportState] at failed
      split at failed
      · cases failed
      · cases failed

theorem Fault.lightens {e : TransferError} {supply : Supply} (modest : setup.host.IsModest)
    (wide : ∀ d, (setup.suite.publicKey d).IsWide)
    (fault : Fault setup s event e supply actions) (took : Took setup actions s s') :
  Lightens setup s event (recovery setup e) s' ∨ Retries setup s s'
  := by
  have unasked := isPrompt_of_gates_eq fault.gates_eq
  have light (lighter : weigh (recovery setup e) < event.weight) :
      Lightens setup s event (recovery setup e) s' ∨ Retries setup s s' :=
    .inl (lightens_of_unasked modest took unasked lighter)
  cases fault with
  | credentials =>
    apply light
    rw [recovery_eq_nil (.inr rfl)]
    exact Nat.succ_pos _
  | engagement status_eq generate_eq =>
    obtain ⟨engagement, hof⟩ := Engagement.exists_of wide _ _
    cases hof.symm.trans (congrArg Prod.fst generate_eq)
  | @refusal engagement _ reason status_eq generate_eq refused =>
    cases hauto : setup.config.autoRecover with
    | false =>
      apply light
      rw [recovery_eq_nil (.inl hauto)]
      exact Nat.succ_pos _
    | true =>
      right
      refine ⟨hauto, _, s.giveUp (.transport engagement.service reason),
        ⟨[.statusChanged .engagementReady], engagement.service, reason, refused, rfl⟩, ?_⟩
      rw [took.host_eq, Host.replay_snd_append]
      rfl
  | @radio state failure running fail_eq =>
    apply light
    rw [recovery_eq_nil (.inr (isRecoverable_of_fail fail_eq))]
    exact Nat.succ_pos _
  | request =>
    apply light
    exact Nat.lt_of_le_of_lt (weigh_recovery_le setup _) (by decide : 3 < 5)
  | response | rejection =>
    apply light
    exact Nat.lt_of_le_of_lt (weigh_recovery_le setup _) (by decide : 3 < 4)

/-- A step sets off less than the event that it applies, or it tries again in vain. -/
theorem Step.lightens (modest : setup.host.IsModest)
    (wide : ∀ d, (setup.suite.publicKey d).IsWide) (step : Step setup s event followUps s') :
  Lightens setup s event followUps s' ∨ Retries setup s s'
  := by
  cases step with
  | stay | subscribe | unsubscribe | gather =>
    left
    use [], ⟨rfl, (List.append_nil _).symm, (List.append_nil _).symm⟩
    exact Event.weight_pos _
  | fail fault called => exact fault.lightens modest wide (called.tookFrom rfl rfl rfl)
  | leave engaged called =>
    have took : Took setup _ s s' := called.tookFrom rfl rfl rfl
    left
    refine lightens_of_unasked modest took (isPrompt_of_gates_eq ?_) (Event.weight_pos event)
    simp [Action.isGate]
  | advertise _ _ _ called | connect _ _ called | start _ called | finish _ called =>
    left
    exact lightens_of_unasked modest (called.tookFrom rfl rfl rfl) (isPrompt_of_gates_eq rfl)
      (Event.weight_pos _)
  | setUp _ _ called =>
    left
    exact lightens_of_unasked modest (called.tookFrom rfl rfl rfl) (isPrompt_of_gates_eq rfl)
      (by decide : 1 < 2)
  | recover _ called =>
    left
    exact lightens_of_unasked modest (called.tookFrom rfl rfl rfl) (isPrompt_of_gates_eq rfl)
      (by decide : 2 < 3)
  | @ask _ _ _ establishment engagement _ _ request readerAuth _ _ _ _ _ _ _ _ called =>
    left
    refine ⟨_, called.tookFrom rfl rfl rfl, ?_⟩
    have unasked : ∀ action ∈ Action.statusChanged .requestReceived :: s.stops
        ++ [Action.derive engagement, Action.decrypt establishment.data],
        action.isPrompt = false := by
      apply isPrompt_of_gates_eq
      simp [Action.isGate]
    have asked := modest.weigh_prompt_le unasked
      (.prompt (promptFor setup.credentials request.itemsRequests readerAuth) (s.cycle + 1)) s.host
    rw [List.append_assoc] at asked
    exact Nat.lt_of_le_of_lt asked (by decide : 4 < 5)
  | respond _ _ _ _ _ _ _ _ _ called =>
    have took : Took setup _ s s' := called.tookFrom rfl rfl rfl
    left
    apply lightens_of_unasked modest took
    · intro action haction
      rcases List.mem_append.mp haction with haction | haction
      · simp only [List.mem_cons, List.not_mem_nil, or_false] at haction
        rcases haction with rfl | rfl | rfl
        · rfl
        · rfl
        · rfl
      · exact isPrompt_of_gates_eq (gates_notices _ _) action haction
    · exact Nat.lt_of_le_of_lt (weigh_drained_le _) (by decide : 1 < 4)
  | sendMore _ _ called =>
    have took : Took setup _ s s' := called.tookFrom rfl rfl rfl
    left
    apply lightens_of_unasked modest took
    · exact isPrompt_of_gates_eq (gates_notices _ _)
    · exact Nat.lt_of_le_of_lt (weigh_drained_le _) (by decide : 1 < 2)

/-! ### Handling ends -/

/-- Applying waiting events ends, once the radio has refused for the last time; until then, what
waits weighs less with every event. -/
theorem drain_ends (modest : setup.host.IsModest) (wide : ∀ d, (setup.suite.publicKey d).IsWide)
    {h : η} (yields : Acc (fun h' h => setup.config.autoRecover ∧ setup.host.Refuses h' h) h)
    (queue : List Event) (s : Session η κ) (host_eq : ∃ actions, s.host
      = (setup.host.replay actions h).2) :
  ∃ fuel s', s.drain setup fuel queue = some s'
  := by
  induction yields generalizing queue s with
  | intro h _ retry =>
  induction hweight : weigh (queue ++ s.posted) using Nat.strongRecOn
    generalizing queue s with
  | ind weight lighter =>
  obtain ⟨actions, host_eq⟩ := host_eq
  -- After one more event, either less waits or the radio has refused.
  have next (event : Event) (waiting posted : List Event) (t : Session η κ)
      (t_eq : t = { s with posted := posted })
      (weight_eq : event.weight + weigh (waiting ++ posted) = weight) :
      ∃ fuel s', (t.apply setup event).2.2.drain setup fuel
        (waiting ++ (t.apply setup event).2.1) = some s' := by
    subst t_eq
    rcases (apply_step setup event _).lightens modest wide with
      ⟨later, took, light⟩ | ⟨auto, h', later, refuses, host_eq'⟩
    · apply lighter _ _ _ _ _ rfl
      · rw [took.posted_eq]
        simp only [weigh_append] at light weight_eq ⊢
        omega
      · use actions ++ later
        rw [took.host_eq, Host.replay_snd_append]
        exact congrArg (fun h => (setup.host.replay later h).2) host_eq
    · apply retry h' ⟨auto, _⟩ _ _ ⟨later, host_eq'⟩
      apply Host.Refuses.of_replay
      rw [← host_eq]
      exact refuses
  cases queue with
  | cons event waiting =>
    rw [List.cons_append, weigh_cons] at hweight
    obtain ⟨fuel, s', hdrain⟩ := next event waiting s.posted s rfl hweight
    use fuel + 1, s'
    rw [drain]
    exact hdrain
  | nil =>
    cases hposted : s.posted with
    | nil =>
      use 0, s
      simp only [drain, hposted]
    | cons event posted =>
      rw [List.nil_append, hposted, weigh_cons] at hweight
      obtain ⟨fuel, s', hdrain⟩ := next event [] posted { s with posted := posted } rfl hweight
      use fuel + 1, s'
      simp only [drain, hposted]
      exact hdrain

/-- Handling an event ends in front of a host that posts nothing but decisions, if the session
does not recover by itself or the radio does not refuse to advertise again and again. -/
theorem handle_ends (modest : setup.host.IsModest) (wide : ∀ d, (setup.suite.publicKey d).IsWide)
    (yields : setup.config.autoRecover → Acc setup.host.Refuses s.host) (event : Event) :
  ∃ fuel result, s.handle setup fuel event = some result
  := by
  cases hpreview : setup.config.preview with
  | true => exact ⟨0, _, if_pos hpreview⟩
  | false =>
    obtain ⟨actions, took⟩ := (apply_step setup event s).took
    have retries : Acc (fun h' h => setup.config.autoRecover ∧ setup.host.Refuses h' h) s.host := by
      cases hauto : setup.config.autoRecover with
      | false => exact ⟨_, fun h' hrefuses => absurd hrefuses.1 Bool.false_ne_true⟩
      | true => exact Subrelation.accessible And.right (yields hauto)
    obtain ⟨fuel, s', hdrain⟩ := drain_ends modest wide retries (s.apply setup event).2.1
      (s.apply setup event).2.2 ⟨actions, took.host_eq⟩
    use fuel, ((s.apply setup event).1, s')
    rw [Session.handle, if_neg (by rw [hpreview]; exact Bool.false_ne_true)]
    exact congrArg (Option.map ((s.apply setup event).1, ·)) hdrain

end

/-! ### A radio that always refuses -/

/-- An event that comes round again as long as the radio refuses to advertise. -/
def Recurs (s : Session η κ) : Event → Prop
  | .setUp => s.status = .initializing
  | .transportState .ready => s.status = .initialized
  | .recover => s.status = .error
  | _ => False

section

variable {setup : Setup η κ} {s s' : Session η κ} {event : Event} {followUps : List Event}

theorem not_engaged (h : s.status = .initializing ∨ s.status = .initialized ∨ s.status = .error) :
  ¬(s.status = .engagementReady ∨ s.status.isConnected)
  := by
  rcases h with h | h | h
  all_goals
    rw [h]
    simp [TransferStatus.isConnected, TransferStatus.isExchanging]

theorem Step.of_setUp (stocked : setup.credentials.isEmpty = false)
    (status_eq : s.status = .initializing) (step : Step setup s .setUp followUps s') :
  followUps = [.transportState (setup.host.transportState s'.host)] ∧ s'.status = .initialized
  := by
  cases step with
  | stay next_eq effects_eq =>
    simp [transition, snapshot, status_eq, Transition.enter] at next_eq
  | fail fault called =>
    cases fault with
    | credentials _ empty =>
      rw [stocked] at empty
      cases empty
  | leave engaged called => exact absurd engaged (not_engaged (.inl status_eq))
  | setUp _ _ called => exact ⟨rfl, called.same Session.status (fun _ _ _ => rfl)⟩

theorem Step.of_refusal (wide : ∀ d, (setup.suite.publicKey d).IsWide)
    (refuses : ∀ service, ∃ reason, (setup.host.startAdvertising service
      (setup.host.replay [.statusChanged .engagementReady] s.host).2).answer = some reason)
    (status_eq : s.status = .initialized)
    (step : Step setup s (.transportState .ready) followUps s') :
  ∃ service reason, followUps = recovery setup (.transport service reason) ∧ s'.status = .error
  := by
  cases step with
  | stay next_eq effects_eq =>
    simp [transition, snapshot, status_eq, Transition.ofTransportState, Transition.enter]
      at next_eq
  | fail fault called =>
    have failed := called.same Session.status (fun _ _ _ => rfl)
    cases fault with
    | engagement _ generate_eq =>
      obtain ⟨engagement, hof⟩ := Engagement.exists_of wide _ _
      cases hof.symm.trans (congrArg Prod.fst generate_eq)
    | refusal => exact ⟨_, _, rfl, failed⟩
    | radio running fail_eq =>
      rw [Transition.ofTransportState, status_eq, if_pos rfl] at fail_eq
      cases fail_eq
  | leave engaged called => exact absurd engaged (not_engaged (.inr (.inl status_eq)))
  | @advertise engagement _ _ _ _ willing =>
    obtain ⟨reason, refused⟩ := refuses engagement.service
    cases willing.symm.trans refused

theorem Step.of_recover (status_eq : s.status = .error)
    (step : Step setup s .recover followUps s') :
  followUps = [.setUp] ∧ s'.status = .initializing
  := by
  cases step with
  | stay next_eq effects_eq =>
    simp [transition, snapshot, status_eq, Transition.enter] at next_eq
  | fail fault called => cases fault
  | leave engaged called => exact absurd engaged (not_engaged (.inr (.inr status_eq)))
  | recover _ called => exact ⟨rfl, called.same Session.status (fun _ _ _ => rfl)⟩

/-- Setting up leads to the probe, the probe to a refusal, and the refusal to setting up
again. -/
theorem Step.recurs {stuck : η → Prop} (stubborn : setup.host.IsStubborn stuck)
    (auto : setup.config.autoRecover) (stocked : setup.credentials.isEmpty = false)
    (wide : ∀ d, (setup.suite.publicKey d).IsWide) (hstuck : stuck s.host)
    (recurs : Recurs s event) (step : Step setup s event followUps s') :
  ∃ event', followUps = [event'] ∧ Recurs s' event' ∧ stuck s'.host
  := by
  obtain ⟨actions, took⟩ := step.took
  have hstuck' : stuck s'.host := by
    rw [took.host_eq]
    exact stubborn.replay actions hstuck
  cases event with
  | setUp =>
    obtain ⟨rfl, status_eq⟩ := step.of_setUp stocked recurs
    use .transportState .ready
    rw [stubborn.ready s'.host hstuck']
    exact ⟨rfl, status_eq, hstuck'⟩
  | transportState state =>
    cases state with
    | ready =>
      obtain ⟨service, reason, rfl, status_eq⟩ := step.of_refusal wide
        (fun service => stubborn.refuses service _ (stubborn.replay _ hstuck)) recurs
      use .recover
      rw [recovery, auto]
      exact ⟨rfl, status_eq, hstuck'⟩
    | _ => exact recurs.elim
  | recover =>
    obtain ⟨rfl, status_eq⟩ := step.of_recover recurs
    exact ⟨.setUp, rfl, status_eq, hstuck'⟩
  | _ => exact recurs.elim

/-- What recurs never ends. -/
theorem drain_eq_none {stuck : η → Prop} (stubborn : setup.host.IsStubborn stuck)
    (auto : setup.config.autoRecover) (stocked : setup.credentials.isEmpty = false)
    (wide : ∀ d, (setup.suite.publicKey d).IsWide) (hstuck : stuck s.host)
    (recurs : Recurs s event) (fuel : Nat) :
  s.drain setup fuel [event] = none
  := by
  induction fuel generalizing event s with
  | zero => rw [drain]
  | succ fuel ih =>
    obtain ⟨event', followUps_eq, recurs', hstuck'⟩ :=
      (apply_step setup event s).recurs stubborn auto stocked wide hstuck recurs
    rw [drain]
    dsimp only
    rw [followUps_eq]
    exact ih hstuck' recurs'

/-- Handling an event that something follows which recurs never ends. -/
theorem handle_eq_none {stuck : η → Prop} (stubborn : setup.host.IsStubborn stuck)
    (auto : setup.config.autoRecover) (stocked : setup.credentials.isEmpty = false)
    (shown : setup.config.preview = false) (wide : ∀ d, (setup.suite.publicKey d).IsWide)
    {event' : Event} (followUps_eq : (s.apply setup event).2.1 = [event'])
    (recurs : Recurs (s.apply setup event).2.2 event')
    (hstuck : stuck (s.apply setup event).2.2.host) (fuel : Nat) :
  s.handle setup fuel event = none
  := by
  rw [handle_of_shown shown, followUps_eq,
    drain_eq_none stubborn auto stocked wide hstuck recurs fuel]
  rfl

/-- Setting up a session never ends in front of a radio that always refuses to advertise, if the
session recovers by itself. -/
theorem handle_setUp_eq_none {stuck : η → Prop} (stubborn : setup.host.IsStubborn stuck)
    (auto : setup.config.autoRecover) (stocked : setup.credentials.isEmpty = false)
    (shown : setup.config.preview = false) (wide : ∀ d, (setup.suite.publicKey d).IsWide)
    (hstuck : stuck s.host) (status_eq : s.status = .initializing) (fuel : Nat) :
  s.handle setup fuel .setUp = none
  := by
  have recurs : Recurs s .setUp := status_eq
  obtain ⟨_, followUps_eq, recurs', hstuck'⟩ :=
    (apply_step setup .setUp s).recurs stubborn auto stocked wide hstuck recurs
  exact handle_eq_none stubborn auto stocked shown wide followUps_eq recurs' hstuck' fuel

end

/-! ### A reluctant radio -/

/-- A radio that refuses to advertise for a number of times, or always. -/
def reluctant : Host (Option Nat) where
  transportState _ := .ready
  maxUpdateLength _ := Channel.maxUpdateLength
  startAdvertising _ refusals :=
    if refusals = some 0 then ⟨none, [], refusals⟩ else ⟨some "busy", [], refusals.map (· - 1)⟩
  stopAdvertising refusals := ⟨(), [], refusals⟩
  notify _ _ refusals := ⟨true, [], refusals⟩
  statusChanged _ refusals := ⟨(), [], refusals⟩
  requestReceived _ _ refusals := ⟨(), [], refusals⟩
  finishedWithError _ refusals := ⟨(), [], refusals⟩

/-- A wallet that recovers by itself, with a reluctant radio. -/
def recovering : Setup (Option Nat) Plain.Encryption where
  credentials := emptyDocument.credentials
  anchors := ⟨[]⟩
  config := { autoRecover := true }
  suite := .transparent
  provider := Plain.provider {}
  host := reluctant

theorem reluctant_isModest :
  reluctant.IsModest
  := by
  intro action h
  left
  cases action with
  | advertise =>
    simp only [Host.take, Host.take.of, reluctant]
    split
    · rfl
    · rfl
  | _ => rfl

theorem reluctant_isStubborn :
  reluctant.IsStubborn (· = none)
  := by
  constructor
  · exact fun h _ => rfl
  · rintro service h rfl
    exact ⟨"busy", rfl⟩
  · rintro action h rfl
    cases action <;> rfl

/-- The number of refusals that are left never grows. -/
theorem reluctant_replay (actions : List Action) (n : Nat) :
  ∃ m, m ≤ n ∧ (reluctant.replay actions (some n)).2 = some m
  := by
  induction actions generalizing n with
  | nil => exact ⟨n, Nat.le_refl n, rfl⟩
  | cons action actions ih =>
    have taken : ∃ m, m ≤ n ∧ (reluctant.take action (some n)).2 = some m := by
      cases action with
      | advertise =>
        simp only [Host.take, Host.take.of, reluctant]
        split
        · exact ⟨n, Nat.le_refl n, rfl⟩
        · exact ⟨n - 1, Nat.sub_le n 1, rfl⟩
      | _ => exact ⟨n, Nat.le_refl n, rfl⟩
    obtain ⟨m, hm, hm_eq⟩ := taken
    obtain ⟨l, hl, hl_eq⟩ := ih m
    use l, Nat.le_trans hl hm
    rw [Host.replay, hm_eq]
    exact hl_eq

theorem reluctant_yields (n : Nat) :
  Acc reluctant.Refuses (some n)
  := by
  induction n using Nat.strongRecOn with
  | ind n ih =>
    constructor
    rintro h' ⟨actions, service, reason, answer_eq, rfl⟩
    obtain ⟨m, hm, hm_eq⟩ := reluctant_replay actions n
    rw [hm_eq] at answer_eq ⊢
    cases m with
    | zero => cases answer_eq
    | succ m => exact ih m hm

theorem recovering_isWide (d : PrivateKey) :
  (recovering.suite.publicKey d).IsWide
  := CipherSuite.isSound_transparent.isWide_publicKey d

/-- A session that has not been set up, in front of a reluctant radio. -/
def waiting (refusals : Option Nat) : Session (Option Nat) Plain.Encryption :=
  .fresh ⟨fun _ => default, fun _ => .ofNat 1, 0, 0⟩ refusals

/-- After three refusals the session is set up. -/
theorem handle_ends_reluctant :
  recovering.config.autoRecover
    ∧ Acc recovering.host.Refuses (waiting (some 3)).host
    ∧ ∃ fuel result, (waiting (some 3)).handle recovering fuel .setUp = some result
  := by
  have modest : recovering.host.IsModest := reluctant_isModest
  have yields : Acc recovering.host.Refuses (waiting (some 3)).host := reluctant_yields 3
  exact ⟨rfl, yields, handle_ends modest recovering_isWide (fun _ => yields) .setUp⟩

/-- Handling an event does not always end: in front of a radio that always refuses, a session
that recovers by itself is set up again and again. -/
theorem not_handle_ends :
  Reached recovering (waiting none)
    ∧ recovering.host.IsModest
    ∧ ¬∃ fuel result, (waiting none).handle recovering fuel .setUp = some result
  := by
  have stubborn : recovering.host.IsStubborn (· = none) := reluctant_isStubborn
  have stocked : recovering.credentials.isEmpty = false := rfl
  refine ⟨.fresh _ _, reluctant_isModest, ?_⟩
  rintro ⟨fuel, result, hresult⟩
  have never := handle_setUp_eq_none stubborn rfl stocked rfl recovering_isWide
    (s := waiting none) rfl rfl fuel
  rw [never] at hresult
  cases hresult

end Session

end Presentment
