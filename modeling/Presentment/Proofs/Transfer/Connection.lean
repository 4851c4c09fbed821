import Presentment.Proofs.Transfer.History

/-!
# Connections

A reader that has made both subscriptions is connected, unless it had made them before the
engagement was ready: then nothing that it subscribes to makes the connection any more.  The
invariant is that a session is overlooked in this way only since its engagement became ready.
-/

namespace Presentment.Session

variable {η κ : Type}

/-- The engagement is ready although the reader has made both subscriptions. -/
def IsOverlooked (s : Session η κ) : Prop :=
  s.status = .engagementReady ∧ s.subscriptions.isComplete

theorem isComplete_set_false {subscriptions : Subscriptions} {c : Characteristic}
    (held : subscriptions.contains c) :
  (subscriptions.set c false).isComplete = false
  := by
  cases c with
  | state => simp [Subscriptions.isComplete, Subscriptions.set, Subscriptions.full]
  | server2Client => simp [Subscriptions.isComplete, Subscriptions.set, Subscriptions.full]
  | client2Server => cases held

theorem contains_of_isComplete {subscriptions : Subscriptions} (h : subscriptions.isComplete)
    {c : Characteristic} (notifying : c.isNotifying) :
  subscriptions.contains c
  := by
  rw [eq_of_beq h]
  cases c with
  | state | server2Client => rfl
  | client2Server => cases notifying

section

variable {setup : Setup η κ} {s s' : Session η κ} {event : Event} {followUps : List Event}
  {log : List (Occurrence η κ)} {waiting : List Event}

/-- A session comes to be overlooked only when its engagement becomes ready. -/
theorem Step.of_isOverlooked (step : Step setup s event followUps s') (h : s'.IsOverlooked) :
  s.IsOverlooked
    ∨ event = .transportState .ready ∧ s.status = .initialized ∧ s.subscriptions.isComplete
  := by
  obtain ⟨status_eq, complete⟩ := h
  cases step with
  | stay => exact .inl ⟨status_eq, complete⟩
  | advertise status_eq' _ _ called =>
    rw [called.same Session.subscriptions (fun _ _ _ => rfl)] at complete
    exact .inr ⟨rfl, status_eq', complete⟩
  | subscribe _ _ incomplete => exact absurd ⟨status_eq, complete⟩ incomplete
  | unsubscribe held =>
    rw [isComplete_set_false held] at complete
    cases complete
  | gather => exact .inl ⟨status_eq, complete⟩
  | fail _ called | leave _ called | setUp _ _ called | connect _ _ called | start _ called
  | ask _ _ _ _ _ _ _ called | respond _ _ _ _ _ _ _ _ _ called | finish _ called
  | recover _ called =>
    cases called.status_eq.symm.trans status_eq
  | sendMore status_eq' _ called =>
    cases status_eq'.symm.trans (called.status_eq.symm.trans status_eq)

/-- A subscription does not make the connection of a session that was overlooked. -/
theorem IsOverlooked.apply_subscribed (h : s.IsOverlooked) (c : Characteristic) :
  (s.apply setup (.subscribed c)).2 = ([], s)
  := by
  have stay : transition s.snapshot (.subscribed c) = .stay := by
    apply if_pos
    rw [Bool.or_eq_true, Bool.or_eq_true, Bool.not_eq_true']
    cases notifying : c.isNotifying with
    | false => exact .inl (.inl rfl)
    | true => exact .inr (contains_of_isComplete h.2 notifying)
  rw [apply_of_stay setup stay rfl rfl]
  exact Progress.result_of_none setup rfl

/-- Since when a session is overlooked: the reader had made both subscriptions before the radio
was found to be ready. -/
def OverlookedSince (log : List (Occurrence η κ)) : Prop :=
  ∃ before o after, log = before ++ o :: after
    ∧ o.event = .transportState .ready
    ∧ o.session.status = .initialized
    ∧ o.session.subscriptions.isComplete
    ∧ ∀ later ∈ after, later.session.IsOverlooked

theorem OverlookedSince.concat (h : OverlookedSince log) {o : Occurrence η κ}
    (overlooked : o.session.IsOverlooked) :
  OverlookedSince (log ++ [o])
  := by
  obtain ⟨before, o', after, rfl, event_eq, status_eq, complete, since⟩ := h
  refine ⟨before, o', after ++ [o], List.append_assoc _ _ _, event_eq, status_eq, complete, ?_⟩
  intro later hlater
  rcases List.mem_append.mp hlater with hlater | hlater
  · exact since later hlater
  · rw [List.mem_singleton.mp hlater]
    exact overlooked

/-- Whether an event is given or follows from another one makes no difference. -/
theorem overlookedSince_of_apply {isGiven : Bool} (ih : s.IsOverlooked → OverlookedSince log)
    (h : (s.apply setup event).2.2.IsOverlooked) :
  OverlookedSince (log ++ [⟨s, event, isGiven⟩])
  := by
  rcases (apply_step setup event s).of_isOverlooked h with
    overlooked | ⟨event_eq, status_eq, complete⟩
  · exact (ih overlooked).concat overlooked
  · exact ⟨log, _, [], rfl, event_eq, status_eq, complete,
      fun later hlater => absurd hlater List.not_mem_nil⟩

theorem History.overlookedSince (h : History setup log waiting s) :
  s.IsOverlooked → OverlookedSince log
  := by
  induction h with
  | fresh supply host =>
    rintro ⟨status_eq, -⟩
    cases status_eq
  | give event _ ih => exact overlookedSince_of_apply ih
  | follow _ ih => exact overlookedSince_of_apply ih
  | outside host posted _ ih => exact ih

/-- While its service is advertised, a session with both subscriptions is connected, unless it
had them before its engagement was ready. -/
theorem connected_of_isComplete (h : History setup log waiting s)
    (complete : s.subscriptions.isComplete)
    (offered : s.status = .engagementReady ∨ s.isAdvertising) :
  s.status.isConnected ∨ s.IsOverlooked ∧ OverlookedSince log
  := by
  have ready (status_eq : s.status = .engagementReady) :
      s.IsOverlooked ∧ OverlookedSince log :=
    ⟨⟨status_eq, complete⟩, h.overlookedSince ⟨status_eq, complete⟩⟩
  rcases offered with status_eq | advertising
  · exact .inr (ready status_eq)
  · rw [h.settles.advertising] at advertising
    cases hs : s.status with
    | engagementReady => exact .inr (ready hs)
    | connected | started => exact .inl rfl
    | _ =>
      rw [hs] at advertising
      cases advertising

end

/-- The reader subscribes once the engagement is ready, and is connected. -/
theorem connected_of_isComplete_ready :
  ∃ log s, History emptyDocument log [] s
    ∧ s.status = .connected
    ∧ s.subscriptions.isComplete
    ∧ s.isAdvertising
    ∧ (s.status.isConnected ∨ s.IsOverlooked ∧ OverlookedSince log)
  := by
  have run : (unvaried.proceed emptyDocument [.handle 2 .setUp, .handle 0 (.subscribed .state),
      .handle 0 (.subscribed .server2Client)]).map
        (fun result => (result.2.status, result.2.subscriptions, result.2.isAdvertising))
      = some (.connected, .full, true) := by
    decide +kernel
  obtain ⟨⟨answers, s⟩, hrun, heq⟩ := Option.map_eq_some_iff.mp run
  simp only [Prod.mk.injEq] at heq
  obtain ⟨status_eq, subscriptions_eq, advertising⟩ := heq
  obtain ⟨log, history⟩ := (History.fresh _ _).proceed hrun
  have complete : s.subscriptions.isComplete := by
    rw [subscriptions_eq]
    rfl
  exact ⟨_, s, history, status_eq, complete, advertising,
    connected_of_isComplete history complete (.inr advertising)⟩

/-- A reader that subscribes before the session is set up is not connected: the engagement
becomes ready, and whatever the reader subscribes to again, nothing happens. -/
theorem not_connected_of_isComplete :
  ∃ answers s, unvaried.proceed emptyDocument [.handle 0 (.subscribed .state),
      .handle 0 (.subscribed .server2Client), .handle 2 .setUp] = some (answers, s)
    ∧ s.status = .engagementReady
    ∧ s.isAdvertising
    ∧ s.subscriptions.contains .state
    ∧ s.subscriptions.contains .server2Client
    ∧ ∀ c, (s.apply emptyDocument (.subscribed c)).2 = ([], s)
  := by
  have run : (unvaried.proceed emptyDocument [.handle 0 (.subscribed .state),
      .handle 0 (.subscribed .server2Client), .handle 2 .setUp]).map
        (fun result => (result.2.status, result.2.subscriptions, result.2.isAdvertising))
      = some (.engagementReady, .full, true) := by
    decide +kernel
  obtain ⟨⟨answers, s⟩, hrun, heq⟩ := Option.map_eq_some_iff.mp run
  simp only [Prod.mk.injEq] at heq
  obtain ⟨status_eq, subscriptions_eq, advertising⟩ := heq
  have overlooked : s.IsOverlooked := by
    use status_eq
    rw [subscriptions_eq]
    rfl
  exact ⟨answers, s, hrun, status_eq, advertising, contains_of_isComplete overlooked.2 rfl,
    contains_of_isComplete overlooked.2 rfl, overlooked.apply_subscribed⟩

end Presentment.Session
