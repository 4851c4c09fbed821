import Presentment.Proofs.Transfer.Step
import Presentment.Transfer.Run

/-!
# Applying an event

The effects of a transition are carried out one after the other, and when one of them fails the
engagement is given up.  Event by event, `apply_step` says that this does nothing but what a
step can do.
-/

namespace Presentment

namespace Transition

/-- What a fragment leads to, once it is read. -/
def ofFragment : Except Fragment.Error (Fragment.Header × Bytes) → Transition
  | .ok (.more, payload) => { effects := [.appendFragment payload] }
  | .ok (.last, payload) => enter .requestReceived [.appendFragment payload]
  | .error _ => reject

/-- The table reads fragments the way messages are put together from them. -/
theorem ofWrite_started (value : Bytes) :
  ofWrite .started .client2Server value = ofFragment (Fragment.parse value)
  := by
  cases value with
  | nil => rfl
  | cons first payload =>
    rw [Fragment.parse]
    cases h : Fragment.Header.ofByte first with
    | error e => simp [ofWrite, h, ofFragment]
    | ok header =>
      cases header with
      | more | last => simp [ofWrite, h, ofFragment]

end Transition

namespace Session

variable {η κ : Type}

/-! ### Carrying out effects -/

namespace Progress

/-- What comes of an event: the events that follow and the session. -/
def result (setup : Setup η κ) (p : Progress η κ) : List Event × Session η κ :=
  ((p.report setup).followUps, (p.report setup).session)

theorem result_of_none (setup : Setup η κ) {p : Progress η κ} (h : p.failure = none) :
  p.result setup = (p.followUps, p.session)
  := by
  rw [result, report, h]

theorem result_of_some (setup : Setup η κ) {p : Progress η κ} {e : TransferError}
    (h : p.failure = some e) :
  (p.result setup).1 = p.followUps ++ recovery setup e
    ∧ Called setup [.finishedWithError e] { p.session with lastError := some e } (p.result setup).2
  := by
  rw [result, report, h]
  constructor
  · rw [recovery]
    dsimp only
    split
    · rfl
    · exact (List.append_nil _).symm
  · exact call_called setup (setup.host.finishedWithError e) (fun _ => .finishedWithError e) _ rfl

section

variable {setup : Setup η κ} {effect : Effect} {p : Progress η κ} {s : Session η κ}

theorem perform_of_ok {event : Option Event} (h : p.session.run setup effect = (.ok event, s))
    (rest : List Effect) :
  perform setup (effect :: rest) p
    = perform setup rest
        { p with
          session := s
          followUps := p.followUps ++ event.toList }
  := by
  rw [perform, h]
  rfl

/-- After the first failure the engagement is given up, and the host is told. -/
theorem result_of_error {e : TransferError} (h : p.session.run setup effect = (.error e, s))
    (first : p.failure = none) (running : s.status.isTerminal = false) (rest : List Effect) :
  ((perform setup (effect :: rest) p).result setup).1 = p.followUps ++ recovery setup e
    ∧ Called setup (s.giveUp e) { s.released .error with lastError := some e }
        ((perform setup (effect :: rest) p).result setup).2
  := by
  have notError : s.status ≠ .error := by
    intro hs
    rw [hs] at running
    cases running
  have entering : onEnter s.status .error = [.teardown] := by
    rw [onEnter, if_neg notError]
    apply if_neg
    intro hs
    rw [hs] at running
    cases running
  obtain ⟨heffects, hentered⟩ := enter_called setup notError
  rcases henter : s.enter setup .error with ⟨effects, s₁⟩
  rw [henter] at heffects hentered
  rw [entering] at heffects
  have performed : perform setup (effect :: rest) p
      = { p with
        session := s₁.teardown setup
        failure := some e } := by
    rw [perform, h]
    simp only [update, first, if_neg notError, henter, heffects]
    change Progress.mk _ _ (p.followUps ++ []) = _
    rw [List.append_nil]
    rfl
  obtain ⟨hfollowUps, hreported⟩ := result_of_some setup (congrArg failure performed)
  use hfollowUps.trans (by rw [performed])
  rw [performed] at hreported ⊢
  have stops_eq : s₁.stops = s.stops :=
    hentered.same stops (fun _ _ _ => rfl)
  have status_eq : s₁.status = .error :=
    hentered.same Session.status (fun _ _ _ => rfl)
  have torn := teardown_called setup s₁
  rw [stops_eq, status_eq] at torn
  exact (((hentered.released .error).trans torn).map (fun s => { s with lastError := some e })
    (fun _ _ _ => rfl)).trans hreported

end

end Progress

/-! ### Failures -/

/-- `s'` comes from `s` by `actions` on the way to a failure: the user was not asked. -/
structure Yields (setup : Setup η κ) (actions : List Action) (s s' : Session η κ) : Prop where
  cycle_eq : s'.cycle = s.cycle
  took : Took setup actions s s'

theorem Yields.keeps {setup : Setup η κ} {before after : List Action} {s s₁ s₂ : Session η κ}
    (h : Yields setup before s s₁) (keeps : Keeps setup after s₁ s₂) :
  Yields setup (before ++ after) s s₂
  := by
  constructor
  · rw [keeps.cycle_eq, h.cycle_eq]
  · exact h.took.trans keeps.took

/-- Entering a status does not change the user's part. -/
theorem Called.yields {setup : Setup η κ} {next : TransferStatus} {s s' : Session η κ}
    (h : Called setup [.statusChanged next] { s with status := next } s') :
  Yields setup [.statusChanged next] s s'
  := by
  have took := h.took
  obtain ⟨_, _, -, rfl⟩ := h
  exact ⟨rfl, took.host_eq, took.posted_eq, took.trace_eq⟩

/-- A session that was given up is what it was, but for what was done and what was drawn. -/
theorem Took.released {setup : Setup η κ} {actions : List Action} {s s' : Session η κ}
    (took : Took setup actions s s') (cycle_eq : s'.cycle = s.cycle) (status : TransferStatus)
    (lastError : Option TransferError) :
  Called setup actions
    { s.released status with
      supply := s'.supply
      lastError := lastError }
    { s'.released status with lastError := lastError }
  := by
  refine ⟨_, _, rfl, ?_⟩
  simp only [Session.released, took.host_eq, took.posted_eq, took.trace_eq, cycle_eq]

theorem Step.of_yields {setup : Setup η κ} {s s₁ s' : Session η κ} {event : Event}
    {e : TransferError} {before after : List Action} (h : Yields setup before s s₁)
    (fault : Fault setup s event e s₁.supply (before ++ after))
    (called : Called setup after { s₁.released .error with lastError := some e } s') :
  Step setup s event (recovery setup e) s'
  := .fail fault ((h.took.released h.cycle_eq .error (some e)).trans called)

/-- An outcome of an event that a step leads to. -/
def Leads (setup : Setup η κ) (s : Session η κ) (event : Event)
    (outcome : List Event × Session η κ) : Prop :=
  Step setup s event outcome.1 outcome.2

section

variable (setup : Setup η κ) {s s₁ s₂ : Session η κ} {event : Event} {e : TransferError}
  {before : List Action}

/-- An effect that fails gives the engagement up. -/
theorem leads_of_error {effect : Effect} (failed : s₁.run setup effect = (.error e, s₂))
    (h : Yields setup before s s₂) (running : s₂.status.isTerminal = false)
    (fault : Fault setup s event e s₂.supply (before ++ s₂.giveUp e)) (rest : List Effect) :
  Leads setup s event ((Progress.perform setup (effect :: rest) ⟨s₁, none, []⟩).result setup)
  := by
  have first : (⟨s₁, none, []⟩ : Progress η κ).failure = none := rfl
  obtain ⟨hfollowUps, hcalled⟩ := Progress.result_of_error failed first running rest
  rw [Leads, hfollowUps]
  exact Step.of_yields h fault hcalled

/-- A failure that follows from the event alone gives the engagement up. -/
theorem leads_of_failure (h : Yields setup before s s₁) (status_eq : s₁.status = .error)
    (fault : Fault setup s event e s₁.supply
      (before ++ (s₁.stops ++ [Action.finishedWithError e]))) :
  Leads setup s event ((Progress.perform setup [.teardown] ⟨s₁, some e, []⟩).result setup)
  := by
  have torn := teardown_called setup s₁
  have run : s₁.run setup .teardown = (.ok none, s₁.teardown setup) := rfl
  have failed : (⟨s₁.teardown setup, some e, []⟩ : Progress η κ).failure = some e := rfl
  obtain ⟨hfollowUps, hcalled⟩ := Progress.result_of_some setup failed
  rw [status_eq] at torn
  rw [Progress.perform_of_ok run, Leads]
  change Step setup s event (Progress.result setup ⟨s₁.teardown setup, some e, []⟩).1
    (Progress.result setup ⟨s₁.teardown setup, some e, []⟩).2
  rw [hfollowUps]
  exact Step.of_yields h fault
    ((torn.map (fun s => { s with lastError := some e }) (fun _ _ _ => rfl)).trans hcalled)

end

/-! ### Events -/

section

variable (setup : Setup η κ) {s : Session η κ} {event : Event} {t : Transition}

/-- A transition that stays in the status. -/
theorem apply_of_stay (h : transition s.snapshot event = t) (next : t.next = none)
    (failure : t.failure = none) :
  (s.apply setup event).2 = (Progress.perform setup t.effects ⟨s, none, []⟩).result setup
  := by
  rw [apply, h]
  simp only [next, failure, List.append_nil, Option.map_none]
  rfl

/-- A transition that enters another status. -/
theorem apply_of_enter {next : TransferStatus} (h : transition s.snapshot event = t)
    (hnext : t.next = some next) (hne : s.status ≠ next) :
  ∃ s₁, Called setup [.statusChanged next] { s with status := next } s₁
    ∧ (s.apply setup event).2
      = (Progress.perform setup (t.effects ++ onEnter s.status next)
          ⟨s₁, t.failure.map Failure.toError, []⟩).result setup
  := by
  obtain ⟨heffects, hentered⟩ := enter_called setup hne
  use (s.enter setup next).2, hentered
  rw [apply, h]
  simp only [hnext, heffects]
  rfl

/-- A transition without effects. -/
theorem apply_of_idle (h : transition s.snapshot event = t) (next : t.next = none)
    (failure : t.failure = none) (effects : t.effects = []) :
  s.apply setup event = (t.acknowledgement, [], s)
  := by
  apply Prod.ext
  · rw [apply, h]
  · rw [apply_of_stay setup h next failure, effects, Progress.perform,
      Progress.result_of_none setup rfl]

theorem leads_of_stay (h : transition s.snapshot event = t) (next : t.next = none)
    (failure : t.failure = none) (effects : t.effects = []) :
  Leads setup s event (s.apply setup event).2
  := by
  rw [apply_of_idle setup h next failure effects]
  subst h
  exact Step.stay next effects

theorem leads_setUp (h : s.status = .initializing) :
  Leads setup s .setUp (s.apply setup .setUp).2
  := by
  have entering : transition s.snapshot .setUp = .enter .initialized [.validateCredentials] :=
    if_pos h
  obtain ⟨s₁, hentered, heq⟩ := apply_of_enter setup entering rfl (by simp [h])
  have effects : [Effect.validateCredentials] ++ onEnter s.status .initialized
      = [.validateCredentials, .probeTransport] := by
    rw [h]
    rfl
  rw [heq, Transition.enter, effects]
  by_cases hempty : setup.credentials.isEmpty
  · have failed : s₁.run setup .validateCredentials = (.error .invalidCredentialInput, s₁) :=
      if_pos hempty
    apply leads_of_error setup failed hentered.yields
    · rw [hentered.same Session.status (fun _ _ _ => rfl)]
      rfl
    · rw [hentered.same Session.supply (fun _ _ _ => rfl), hentered.same (giveUp _) (fun _ _ _ => rfl)]
      exact .credentials h hempty
  · have validated : s₁.run setup .validateCredentials = (.ok none, s₁) := if_neg hempty
    have probed : s₁.run setup .probeTransport
      = (.ok (some (.transportState (setup.host.transportState s₁.host))), s₁) := rfl
    rw [Progress.perform_of_ok validated, Progress.perform_of_ok probed, Progress.perform,
      Progress.result_of_none setup rfl]
    exact Step.setUp h (by simpa using hempty) hentered

theorem leads_advertise (h : s.status = .initialized) :
  Leads setup s (.transportState .ready) (s.apply setup (.transportState .ready)).2
  := by
  have entering : transition s.snapshot (.transportState .ready)
      = .enter .engagementReady [.beginEngagement, .startAdvertising] := if_pos h
  obtain ⟨s₁, hentered, heq⟩ := apply_of_enter setup entering rfl (by simp [h])
  have running₁ : s₁.status.isTerminal = false := by
    rw [hentered.same Session.status (fun _ _ _ => rfl)]
    rfl
  have yields₁ := hentered.yields
  have stops_eq : s₁.stops = s.stops := hentered.same stops (fun _ _ _ => rfl)
  have effects : [Effect.beginEngagement, Effect.startAdvertising]
      ++ onEnter s.status .engagementReady = [.beginEngagement, .startAdvertising] := by
    rw [h]
    rfl
  rw [heq, Transition.enter, effects]
  rcases hbegin : s₁.beginEngagement setup with ⟨outcome, s₂⟩
  cases outcome with
  | error e =>
    have failed : s₁.run setup .beginEngagement = (.error e, s₂) := by
      rw [run, hbegin]
      rfl
    obtain ⟨cause, supply, generate_eq, rfl, rfl⟩ := beginEngagement_error hbegin
    rw [hentered.same Session.supply (fun _ _ _ => rfl)] at generate_eq
    apply leads_of_error setup failed
      ⟨yields₁.cycle_eq, yields₁.took.host_eq, yields₁.took.posted_eq, yields₁.took.trace_eq⟩
      running₁
    change Fault setup s _ _ supply (_ ++ (.statusChanged .error :: s₁.stops ++ _))
    rw [stops_eq]
    exact .engagement h generate_eq
  | ok =>
    have begun : s₁.run setup .beginEngagement = (.ok none, s₂) := by
      rw [run, hbegin]
      rfl
    obtain ⟨engagement, supply, generate_eq, hs₂⟩ := beginEngagement_ok hbegin
    rw [hentered.same Session.supply (fun _ _ _ => rfl)] at generate_eq
    rw [Progress.perform_of_ok begun]
    have held : s₂.engagement = some engagement := by
      rw [hs₂]
    have host_eq : s₂.host
        = (setup.host.replay [.statusChanged .engagementReady] s.host).2 := by
      rw [hs₂]
      exact yields₁.took.host_eq
    rcases hstart : s₂.startAdvertising setup with ⟨outcome, s₃⟩
    cases outcome with
    | error e =>
      have failed : s₂.run setup .startAdvertising = (.error e, s₃) := by
        rw [run, hstart]
        rfl
      obtain ⟨reason, refused, rfl, keeps⟩ := startAdvertising_error held hstart
      have yields₂ : Yields setup [.statusChanged .engagementReady] s s₂ := by
        rw [hs₂]
        exact ⟨yields₁.cycle_eq, yields₁.took.host_eq, yields₁.took.posted_eq,
          yields₁.took.trace_eq⟩
      rw [host_eq] at refused
      apply leads_of_error setup failed (yields₂.keeps keeps)
      · rw [keeps.status_eq, hs₂]
        exact running₁
      · rw [keeps.supply_eq, giveUp, keeps.stops_eq, hs₂]
        change Fault setup s _ _ supply (_ ++ (.statusChanged .error :: s₁.stops ++ _))
        rw [stops_eq]
        exact .refusal h generate_eq refused
    | ok =>
      have started : s₂.run setup .startAdvertising = (.ok none, s₃) := by
        rw [run, hstart]
        rfl
      obtain ⟨willing, called⟩ := startAdvertising_ok held hstart
      rw [host_eq] at willing
      rw [Progress.perform_of_ok started, Progress.perform, Progress.result_of_none setup rfl]
      apply Step.advertise h generate_eq willing
      subst hs₂
      exact (hentered.map (fun s => { s with
        isAdvertising := true
        engagement := some engagement
        tunnel := .closed
        supply := supply }) (fun _ _ _ => rfl)).trans called

/-- A radio that may not be used. -/
theorem leads_of_fail {state : TransportState} {failure : Failure}
    (running : s.status.isTerminal = false)
    (h : Transition.ofTransportState s.status state = .fail failure []) :
  Leads setup s (.transportState state) (s.apply setup (.transportState state)).2
  := by
  have notError : s.status ≠ .error := by
    intro hs
    rw [hs] at running
    cases running
  have entering : transition s.snapshot (.transportState state) = .fail failure [] := h
  obtain ⟨s₁, hentered, heq⟩ := apply_of_enter setup entering rfl notError
  have effects : [] ++ onEnter s.status .error = [Effect.teardown] := by
    rw [List.nil_append, onEnter, if_neg notError]
    apply if_neg
    intro hs
    rw [hs] at running
    cases running
  rw [heq, Transition.fail, effects]
  apply leads_of_failure setup hentered.yields
  · exact hentered.same Session.status (fun _ _ _ => rfl)
  · rw [hentered.same Session.supply (fun _ _ _ => rfl), hentered.same stops (fun _ _ _ => rfl)]
    exact .radio running h

/-- Giving up the engagement at the end. -/
theorem leads_teardown {subscriptions : Subscriptions} {s₁ : Session η κ}
    (engaged : s.status = .engagementReady ∨ s.status.isConnected)
    (next_eq : (transition s.snapshot event).next = some .disconnected)
    (entered : Called setup [.statusChanged .disconnected]
      { s with
        status := .disconnected
        subscriptions := subscriptions } s₁) :
  Leads setup s event ((Progress.perform setup [.teardown] ⟨s₁, none, []⟩).result setup)
  := by
  have run : s₁.run setup .teardown = (.ok none, s₁.teardown setup) := rfl
  rw [Progress.perform_of_ok run, Progress.perform, Progress.result_of_none setup rfl]
  apply Step.leave engaged _ next_eq
  have torn := teardown_called setup s₁
  have stops_eq : s₁.stops = s.stops := entered.same stops (fun _ _ _ => rfl)
  rw [stops_eq, entered.same Session.status (fun _ _ _ => rfl)] at torn
  exact (entered.released .disconnected).trans torn

theorem leads_of_leave (engaged : s.status = .engagementReady ∨ s.status.isConnected)
    (h : transition s.snapshot event = .enter .disconnected []) :
  Leads setup s event (s.apply setup event).2
  := by
  have notGone : s.status ≠ .disconnected := by
    intro hs
    rw [hs] at engaged
    simp [TransferStatus.isConnected, TransferStatus.isExchanging] at engaged
  obtain ⟨s₁, hentered, heq⟩ := apply_of_enter setup h rfl notGone
  have effects : [] ++ onEnter s.status .disconnected = [Effect.teardown] := by
    rw [List.nil_append, onEnter, if_neg notGone]
  rw [heq, Transition.enter, effects]
  exact leads_teardown setup engaged (congrArg Transition.next h) hentered

theorem leads_transportState (state : TransportState) :
  Leads setup s (.transportState state) (s.apply setup (.transportState state)).2
  := by
  have stay {t : Transition} (ht : t = .stay)
      (h : transition s.snapshot (.transportState state) = t) :
      Leads setup s (.transportState state) (s.apply setup (.transportState state)).2 := by
    subst ht
    exact leads_of_stay setup h rfl rfl rfl
  cases state with
  | ready =>
    by_cases h : s.status = .initialized
    · exact leads_advertise setup h
    · exact stay (if_neg h) rfl
  | unauthorized =>
    cases h : s.status.isTerminal with
    | true => exact stay (if_pos h) rfl
    | false => exact leads_of_fail setup h (if_neg (by simpa using h))
  | unsupported =>
    cases h : s.status.isTerminal with
    | true => exact stay (if_pos h) rfl
    | false => exact leads_of_fail setup h (if_neg (by simpa using h))
  | poweredOff =>
    by_cases h : s.status = .engagementReady ∨ s.status.isConnected
    · exact leads_of_leave setup h (if_pos h)
    · exact stay (if_neg h) rfl
  | unknown => exact stay rfl rfl
  | resetting => exact stay rfl rfl

theorem leads_subscribed (c : Characteristic) :
  Leads setup s (.subscribed c) (s.apply setup (.subscribed c)).2
  := by
  by_cases hstay : !c.isNotifying || s.status.isTerminal || s.subscriptions.contains c
  · exact leads_of_stay setup (t := .stay) (if_pos hstay) rfl rfl rfl
  · have running : s.status.isTerminal = false := by
      simp at hstay
      exact hstay.1.2
    have notifying : c.isNotifying := by
      simp at hstay
      exact hstay.1.1
    have notify : transition s.snapshot (.subscribed c)
        = { next := if s.status == .engagementReady && (s.subscriptions.set c true).isComplete then
              some .connected
            else none
            effects := [.subscribe c] } := if_neg hstay
    by_cases hconnects : s.status == .engagementReady && (s.subscriptions.set c true).isComplete
    · rw [if_pos hconnects] at notify
      rw [Bool.and_eq_true, beq_iff_eq] at hconnects
      obtain ⟨s₁, hentered, heq⟩ := apply_of_enter setup notify rfl (by simp [hconnects.1])
      have effects : [Effect.subscribe c] ++ onEnter s.status .connected = [.subscribe c] := by
        rw [hconnects.1]
        rfl
      have subscribed : s₁.run setup (.subscribe c)
        = (.ok none, { s₁ with subscriptions := s₁.subscriptions.set c true }) := rfl
      rw [heq]
      dsimp only
      rw [effects, Progress.perform_of_ok subscribed, Progress.perform,
        Progress.result_of_none setup rfl]
      have same : s₁.subscriptions = s.subscriptions :=
        hentered.same Session.subscriptions (fun _ _ _ => rfl)
      rw [same]
      exact Step.connect hconnects.1 hconnects.2 (hentered.map
        (fun s₁ => { s₁ with subscriptions := s.subscriptions.set c true }) (fun _ _ _ => rfl))
    · rw [if_neg hconnects] at notify
      rw [Bool.and_eq_true, beq_iff_eq] at hconnects
      have subscribed : s.run setup (.subscribe c)
        = (.ok none, { s with subscriptions := s.subscriptions.set c true }) := rfl
      rw [apply_of_stay setup notify rfl rfl, Progress.perform_of_ok subscribed, Progress.perform,
        Progress.result_of_none setup rfl]
      exact Step.subscribe running notifying hconnects

theorem leads_unsubscribed (c : Characteristic) :
  Leads setup s (.unsubscribed c) (s.apply setup (.unsubscribed c)).2
  := by
  by_cases hheld : s.subscriptions.contains c
  · have cancel : transition s.snapshot (.unsubscribed c)
        = { next := if s.status.isConnected && (s.subscriptions.set c false).isEmpty then
              some .disconnected
            else none
            effects := [.unsubscribe c] } := if_neg (by simpa [snapshot] using hheld)
    by_cases hleaves : s.status.isConnected && (s.subscriptions.set c false).isEmpty
    · rw [if_pos hleaves] at cancel
      rw [Bool.and_eq_true] at hleaves
      have notGone : s.status ≠ .disconnected := by
        intro hs
        rw [hs] at hleaves
        cases hleaves.1
      obtain ⟨s₁, hentered, heq⟩ := apply_of_enter setup cancel rfl notGone
      have effects : [Effect.unsubscribe c] ++ onEnter s.status .disconnected
          = [.unsubscribe c, .teardown] := by
        rw [onEnter, if_neg notGone]
        rfl
      have unsubscribed : s₁.run setup (.unsubscribe c)
        = (.ok none, { s₁ with subscriptions := s₁.subscriptions.set c false }) := rfl
      rw [heq]
      dsimp only
      rw [effects, Progress.perform_of_ok unsubscribed]
      have same : s₁.subscriptions = s.subscriptions :=
        hentered.same Session.subscriptions (fun _ _ _ => rfl)
      rw [same]
      exact leads_teardown setup (.inr hleaves.1) (congrArg Transition.next cancel) (hentered.map
        (fun s₁ => { s₁ with subscriptions := s.subscriptions.set c false }) (fun _ _ _ => rfl))
    · rw [if_neg hleaves] at cancel
      rw [Bool.and_eq_true] at hleaves
      have unsubscribed : s.run setup (.unsubscribe c)
        = (.ok none, { s with subscriptions := s.subscriptions.set c false }) := rfl
      rw [apply_of_stay setup cancel rfl rfl, Progress.perform_of_ok unsubscribed,
        Progress.perform, Progress.result_of_none setup rfl]
      exact Step.unsubscribe hheld hleaves
  · exact leads_of_stay setup (t := .stay) (if_pos (by simpa [snapshot] using hheld)) rfl rfl rfl

theorem leads_start (h : s.status = .connected) :
  Leads setup s (.write .state Channel.startMarker)
    (s.apply setup (.write .state Channel.startMarker)).2
  := by
  have entering : transition s.snapshot (.write .state Channel.startMarker)
      = .enter .started [] := by
    simp [transition, snapshot, Transition.ofWrite, h]
  obtain ⟨s₁, hentered, heq⟩ := apply_of_enter setup entering rfl (by simp [h])
  have effects : [] ++ onEnter s.status .started = [Effect.clearReassembly] := by
    rw [h]
    rfl
  have cleared : s₁.run setup .clearReassembly = (.ok none, { s₁ with reassembly := [] }) := rfl
  rw [heq, Transition.enter, effects, Progress.perform_of_ok cleared, Progress.perform,
    Progress.result_of_none setup rfl]
  exact Step.start h (hentered.map (fun s => { s with reassembly := [] }) (fun _ _ _ => rfl))

/-- A fragment after which more follow is gathered. -/
theorem apply_more {value payload : Bytes} (h : s.status = .started)
    (parse_eq : Fragment.parse value = .ok (.more, payload)) :
  (s.apply setup (.write .client2Server value)).2
    = ([], { s with reassembly := s.reassembly ++ payload })
  := by
  have gathering : transition s.snapshot (.write .client2Server value)
      = { effects := [.appendFragment payload] } := by
    simp [transition, snapshot, Transition.ofWrite_started, Transition.ofFragment, h, parse_eq]
  have appended : s.run setup (.appendFragment payload)
    = (.ok none, { s with reassembly := s.reassembly ++ payload }) := rfl
  rw [apply_of_stay setup gathering rfl rfl, Progress.perform_of_ok appended, Progress.perform,
    Progress.result_of_none setup rfl]
  rfl

theorem leads_gather {value payload : Bytes} (h : s.status = .started)
    (parse_eq : Fragment.parse value = .ok (.more, payload)) :
  Leads setup s (.write .client2Server value) (s.apply setup (.write .client2Server value)).2
  := by
  rw [Leads, apply_more setup h parse_eq]
  exact Step.gather h parse_eq

/-- Before the request is read, its last fragment is gathered and advertising is stopped. -/
theorem gathered_called {s₁ : Session η κ} (payload : Bytes)
    (entered : Called setup [.statusChanged .requestReceived]
      { s with status := .requestReceived } s₁) :
  Called setup ([Action.statusChanged .requestReceived] ++ s.stops)
    { s with
      status := .requestReceived
      reassembly := s.reassembly ++ payload
      isAdvertising := false }
    (Session.stopAdvertising setup { s₁ with reassembly := s.reassembly ++ payload })
  := by
  have stopped := stopAdvertising_called setup { s₁ with reassembly := s.reassembly ++ payload }
  have stops_eq : stops { s₁ with reassembly := s.reassembly ++ payload } = s.stops :=
    entered.same stops (fun _ _ _ => rfl)
  rw [stops_eq] at stopped
  exact (entered.map (fun s₁ => { s₁ with
    reassembly := s.reassembly ++ payload
    isAdvertising := false }) (fun _ _ _ => rfl)).trans stopped

/-- When the last fragment comes, the request is processed after these preparations. -/
theorem apply_of_last {value payload : Bytes} (h : s.status = .started)
    (parse_eq : Fragment.parse value = .ok (.last, payload)) :
  ∃ s₁, Called setup ([Action.statusChanged .requestReceived] ++ s.stops)
      { s with
        status := .requestReceived
        reassembly := s.reassembly ++ payload
        isAdvertising := false } s₁
    ∧ (s.apply setup (.write .client2Server value)).2
      = (Progress.perform setup [.processRequest] ⟨s₁, none, []⟩).result setup
  := by
  have entering : transition s.snapshot (.write .client2Server value)
      = .enter .requestReceived [.appendFragment payload] := by
    simp [transition, snapshot, Transition.ofWrite_started, Transition.ofFragment, h, parse_eq]
  obtain ⟨s₁, hentered, heq⟩ := apply_of_enter setup entering rfl (by simp [h])
  have effects : [Effect.appendFragment payload] ++ onEnter s.status .requestReceived
      = [.appendFragment payload, .stopAdvertising, .processRequest] := by
    rw [h]
    rfl
  have appended : s₁.run setup (.appendFragment payload)
    = (.ok none, { s₁ with reassembly := s₁.reassembly ++ payload }) := rfl
  rw [heq, Transition.enter, effects, Progress.perform_of_ok appended]
  have same : s₁.reassembly = s.reassembly :=
    hentered.same Session.reassembly (fun _ _ _ => rfl)
  have called := gathered_called setup payload hentered
  rw [same]
  generalize { s₁ with reassembly := s.reassembly ++ payload } = s₂ at called ⊢
  have stopped : s₂.run setup .stopAdvertising = (.ok none, s₂.stopAdvertising setup) := rfl
  rw [Progress.perform_of_ok stopped]
  exact ⟨_, called, rfl⟩

theorem leads_ask {value payload : Bytes} (h : s.status = .started)
    (parse_eq : Fragment.parse value = .ok (.last, payload)) :
  Leads setup s (.write .client2Server value) (s.apply setup (.write .client2Server value)).2
  := by
  obtain ⟨s₃, called₃, heq⟩ := apply_of_last setup h parse_eq
  rw [heq]
  have running₃ : s₃.status.isTerminal = false := by
    rw [called₃.same Session.status (fun _ _ _ => rfl)]
    rfl
  have reassembly_eq : s₃.reassembly = s.reassembly ++ payload :=
    called₃.same Session.reassembly (fun _ _ _ => rfl)
  have engagement_eq : s₃.engagement = s.engagement :=
    called₃.same Session.engagement (fun _ _ _ => rfl)
  have yields₃ : Yields setup ([Action.statusChanged .requestReceived] ++ s.stops) s s₃ := by
    have took₃ := called₃.took
    obtain ⟨_, _, -, rfl⟩ := called₃
    exact ⟨rfl, took₃.host_eq, took₃.posted_eq, took₃.trace_eq⟩
  rcases hanswer : s₃.answerRequest setup with ⟨outcome, s₄⟩
  cases outcome with
  | error e =>
    have failed : s₃.run setup .processRequest = (.error e, s₄) := by
      rw [run, hanswer]
      rfl
    obtain ⟨done, told, unread, tells, keeps⟩ := answerRequest_error hanswer
    apply leads_of_error setup failed (yields₃.keeps keeps)
    · rw [keeps.status_eq, running₃]
    · have stopped : s₃.stops = [] := by
        rw [stops, called₃.same Session.isAdvertising (fun _ _ _ => rfl)]
        rfl
      have supply_eq : s₃.supply = s.supply := called₃.same Session.supply (fun _ _ _ => rfl)
      rw [reassembly_eq, engagement_eq] at unread
      rw [yields₃.took.host_eq, ← Host.replay_snd_append] at tells
      rw [keeps.supply_eq, supply_eq, giveUp, keeps.stops_eq, stopped]
      exact .request h parse_eq unread tells
  | ok =>
    have asked : s₃.run setup .processRequest = (.ok none, s₄) := by
      rw [run, hanswer]
      rfl
    rw [Progress.perform_of_ok asked, Progress.perform, Progress.result_of_none setup rfl]
    obtain ⟨establishment, engagement, state, state', text, request, readerAuth, read_eq,
      derive_eq, decrypt_eq, decode_eq, judge_eq, called₄⟩ :=
      processRequest_ok (answerRequest_ok hanswer)
    rw [reassembly_eq, engagement_eq] at read_eq
    rw [called₃.same Session.cycle (fun _ _ _ => rfl)] at called₄
    apply Step.ask h parse_eq read_eq derive_eq decrypt_eq decode_eq judge_eq
    exact (called₃.map (fun s₃ => { s₃ with
      reassembly := []
      tunnel := .established state'
      cycle := s.cycle + 1
      pending := some request.itemsRequests }) (fun _ _ _ => rfl)).trans called₄

theorem leads_write (c : Characteristic) (value : Bytes) :
  Leads setup s (.write c value) (s.apply setup (.write c value)).2
  := by
  have reject (h : Transition.ofWrite s.status c value = .reject) :
      Leads setup s (.write c value) (s.apply setup (.write c value)).2 :=
    leads_of_stay setup h rfl rfl rfl
  have ignore (h : Transition.ofWrite s.status c value = .stay) :
      Leads setup s (.write c value) (s.apply setup (.write c value)).2 :=
    leads_of_stay setup h rfl rfl rfl
  cases c with
  | server2Client => exact reject rfl
  | state =>
    cases hs : s.status with
    | connected =>
      by_cases hvalue : value = Channel.startMarker
      · rw [hvalue]
        exact leads_start setup hs
      · apply reject
        rw [hs]
        exact if_neg hvalue
    | responseSent =>
      by_cases hvalue : value = Channel.endMarker
      · apply leads_of_leave setup
        · rw [hs]
          exact .inr rfl
        · change Transition.ofWrite s.status .state value = _
          rw [hs]
          exact if_pos hvalue
      · apply reject
        rw [hs]
        exact if_neg hvalue
    | _ =>
      apply reject
      rw [hs]
      rfl
  | client2Server =>
    cases hs : s.status with
    | connected =>
      apply ignore
      rw [hs]
      rfl
    | started =>
      rcases hparse : Fragment.parse value with e | ⟨header, payload⟩
      · apply reject
        simp [Transition.ofWrite_started, Transition.ofFragment, hs, hparse]
      · cases header with
        | more => exact leads_gather setup hs hparse
        | last => exact leads_ask setup hs hparse
    | _ =>
      apply reject
      rw [hs]
      rfl

/-- Sending what waits, at the end of an event. -/
theorem perform_sendNext (s : Session η κ) :
  ∃ sent rest s', s.outgoing = sent ++ rest
    ∧ Called setup (notices sent rest) { s with outgoing := rest } s'
    ∧ (Progress.perform setup [.sendNext] ⟨s, none, []⟩).result setup
      = (if rest.isEmpty then [.queueDrained] else [], s')
  := by
  obtain ⟨sent, rest, houtgoing, hcalled, hevent⟩ := sendNext_called setup s
  use sent, rest, (s.sendNext setup).2, houtgoing, hcalled
  have sending : s.run setup .sendNext
    = (.ok (if rest.isEmpty then some .queueDrained else none), (s.sendNext setup).2) := by
    rw [← hevent]
    rfl
  rw [Progress.perform_of_ok sending, Progress.perform, Progress.result_of_none setup rfl]
  cases rest.isEmpty with
  | true => rfl
  | false => rfl

theorem leads_accepted {decision : Decision} (h : s.status = .requestReceived)
    (cycle_eq : decision.cycle = s.cycle) (accepted : decision.accepted) :
  Leads setup s (.consent decision) (s.apply setup (.consent decision)).2
  := by
  have entering : transition s.snapshot (.consent decision)
      = .enter .userSelected [.buildResponse decision.items, .sendNext] := by
    simp [transition, snapshot, Transition.ofDecision, h, cycle_eq, accepted]
  obtain ⟨s₁, hentered, heq⟩ := apply_of_enter setup entering rfl (by simp [h])
  have effects : [Effect.buildResponse decision.items, Effect.sendNext]
      ++ onEnter s.status .userSelected = [.buildResponse decision.items, .sendNext] := by
    rw [h]
    rfl
  rw [heq, Transition.enter, effects]
  rcases hbuild : s₁.buildResponse setup decision.items with ⟨outcome, s₂⟩
  cases outcome with
  | error e =>
    have failed : s₁.run setup (.buildResponse decision.items) = (.error e, s₂) := by
      rw [run, hbuild]
      rfl
    obtain ⟨done, status, told, unanswered, tells, keeps⟩ := buildResponse_error hbuild
    have stops_eq : s₁.stops = s.stops := hentered.same stops (fun _ _ _ => rfl)
    have supply_eq : s₁.supply = s.supply := hentered.same Session.supply (fun _ _ _ => rfl)
    apply leads_of_error setup failed (hentered.yields.keeps keeps)
    · rw [keeps.status_eq, hentered.same Session.status (fun _ _ _ => rfl)]
      rfl
    · rw [hentered.yields.took.host_eq] at tells
      rw [keeps.supply_eq, supply_eq, giveUp, keeps.stops_eq, stops_eq]
      refine .response h accepted cycle_eq (unanswered.same ?_ ?_) tells
      · exact hentered.same Session.pending (fun _ _ _ => rfl)
      · exact hentered.same Session.tunnel (fun _ _ _ => rfl)
  | ok =>
    have built : s₁.run setup (.buildResponse decision.items) = (.ok none, s₂) := by
      rw [run, hbuild]
      rfl
    obtain ⟨requests, response, state, state', data, pending_eq, nonempty, response_eq, tunnel_eq,
      encrypt_eq, hs₂⟩ := buildResponse_ok hbuild
    obtain ⟨sent, rest, s₃, outgoing_eq, called₃, hresult⟩ := perform_sendNext setup s₂
    rw [Progress.perform_of_ok built]
    change Leads setup s _ ((Progress.perform setup [.sendNext] ⟨s₂, none, []⟩).result setup)
    rw [hresult]
    rw [hentered.same Session.tunnel (fun _ _ _ => rfl)] at response_eq tunnel_eq
    rw [hentered.same Session.pending (fun _ _ _ => rfl)] at pending_eq
    subst hs₂
    have frame_eq : Fragment.frame (responseMessage data) (setup.block s₁.host) = sent ++ rest :=
      outgoing_eq
    rw [hentered.yields.took.host_eq] at frame_eq
    apply Step.respond h accepted cycle_eq pending_eq nonempty response_eq tunnel_eq encrypt_eq
      frame_eq
    have recorded : Called setup [.encrypt (Cbor.encode response), .queue (responseMessage data)]
        { s₁ with
          pending := none
          tunnel := .established state'
          outgoing := rest }
        { s₁ with
          pending := none
          tunnel := .established state'
          outgoing := rest
          trace := s₁.trace
            ++ [.encrypt (Cbor.encode response), .queue (responseMessage data)] } :=
      record_called rfl
    exact ((hentered.map (fun s₁ => { s₁ with
      pending := none
      tunnel := .established state'
      outgoing := rest }) (fun _ _ _ => rfl)).trans recorded).trans called₃

theorem leads_rejected {decision : Decision} (h : s.status = .requestReceived)
    (cycle_eq : decision.cycle = s.cycle) (rejected : decision.accepted = false) :
  Leads setup s (.consent decision) (s.apply setup (.consent decision)).2
  := by
  have entering : transition s.snapshot (.consent decision)
      = .fail .userRejected [.sendTermination] := by
    simp [transition, snapshot, Transition.ofDecision, h, cycle_eq, rejected]
  obtain ⟨s₁, hentered, heq⟩ := apply_of_enter setup entering rfl (by simp [h])
  have effects : [Effect.sendTermination] ++ onEnter s.status .error
      = [.sendTermination, .teardown] := by
    rw [h]
    rfl
  have terminated : s₁.run setup .sendTermination
    = (.ok none, s₁.sendStatus setup .termination) := rfl
  obtain ⟨told, tells, keeps⟩ := sendStatus_tells setup .termination s₁
  have stops_eq : s₁.stops = s.stops := hentered.same stops (fun _ _ _ => rfl)
  have supply_eq : s₁.supply = s.supply := hentered.same Session.supply (fun _ _ _ => rfl)
  rw [heq, Transition.fail, effects, Progress.perform_of_ok terminated]
  apply leads_of_failure setup (hentered.yields.keeps keeps)
  · rw [keeps.status_eq, hentered.same Session.status (fun _ _ _ => rfl)]
  · rw [hentered.yields.took.host_eq] at tells
    rw [keeps.supply_eq, supply_eq, keeps.stops_eq, stops_eq, ← List.append_assoc]
    exact .rejection h rejected cycle_eq tells

theorem leads_consent (decision : Decision) :
  Leads setup s (.consent decision) (s.apply setup (.consent decision)).2
  := by
  by_cases h : s.status = .requestReceived ∧ decision.cycle = s.cycle
  · cases haccepted : decision.accepted with
    | true => exact leads_accepted setup h.1 h.2 haccepted
    | false => exact leads_rejected setup h.1 h.2 haccepted
  · exact leads_of_stay setup (t := .stay) (if_neg h) rfl rfl rfl

theorem leads_readyToSendMore :
  Leads setup s .readyToSendMore (s.apply setup .readyToSendMore).2
  := by
  by_cases h : s.status = .userSelected
  · have sending : transition s.snapshot .readyToSendMore = { effects := [.sendNext] } := if_pos h
    obtain ⟨sent, rest, s', outgoing_eq, called, hresult⟩ := perform_sendNext setup s
    rw [apply_of_stay setup sending rfl rfl, hresult]
    exact Step.sendMore h outgoing_eq called
  · exact leads_of_stay setup (t := .stay) (if_neg h) rfl rfl rfl

theorem leads_queueDrained :
  Leads setup s .queueDrained (s.apply setup .queueDrained).2
  := by
  by_cases h : s.status = .userSelected
  · have entering : transition s.snapshot .queueDrained = .enter .responseSent [] := if_pos h
    obtain ⟨s₁, hentered, heq⟩ := apply_of_enter setup entering rfl (by simp [h])
    have effects : [] ++ onEnter s.status .responseSent = [] := by
      rw [h]
      rfl
    rw [heq, Transition.enter, effects, Progress.perform, Progress.result_of_none setup rfl]
    exact Step.finish h hentered
  · exact leads_of_stay setup (t := .stay) (if_neg h) rfl rfl rfl

theorem leads_idleTimeout :
  Leads setup s .idleTimeout (s.apply setup .idleTimeout).2
  := by
  by_cases h : s.status.isExchanging
  · apply leads_of_leave setup
    · simp [TransferStatus.isConnected, h]
    · exact if_pos h
  · exact leads_of_stay setup (t := .stay) (if_neg h) rfl rfl rfl

theorem leads_recover :
  Leads setup s .recover (s.apply setup .recover).2
  := by
  by_cases h : s.status = .error
  · have entering : transition s.snapshot .recover = .enter .initializing [.setUpAgain] :=
      if_pos h
    obtain ⟨s₁, hentered, heq⟩ := apply_of_enter setup entering rfl (by simp [h])
    have effects : [Effect.setUpAgain] ++ onEnter s.status .initializing = [.setUpAgain] := by
      rw [h]
      rfl
    have again : s₁.run setup .setUpAgain = (.ok (some .setUp), s₁) := rfl
    rw [heq, Transition.enter, effects, Progress.perform_of_ok again, Progress.perform,
      Progress.result_of_none setup rfl]
    exact Step.recover h hentered
  · exact leads_of_stay setup (t := .stay) (if_neg h) rfl rfl rfl

end

/-- Applying an event is a step. -/
theorem apply_step (setup : Setup η κ) (event : Event) (s : Session η κ) :
  Step setup s event (s.apply setup event).2.1 (s.apply setup event).2.2
  := by
  cases event with
  | setUp =>
    by_cases h : s.status = .initializing
    · exact leads_setUp setup h
    · exact leads_of_stay setup (t := .stay) (if_neg h) rfl rfl rfl
  | transportState state => exact leads_transportState setup state
  | subscribed c => exact leads_subscribed setup c
  | unsubscribed c => exact leads_unsubscribed setup c
  | write c value => exact leads_write setup c value
  | readyToSendMore => exact leads_readyToSendMore setup
  | consent decision => exact leads_consent setup decision
  | idleTimeout => exact leads_idleTimeout setup
  | recover => exact leads_recover setup
  | queueDrained => exact leads_queueDrained setup

end Session

end Presentment
