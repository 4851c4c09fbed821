import Presentment.Proofs.Fragment
import Presentment.Proofs.Transfer.History
import Presentment.Proofs.Transfer.Termination

/-!
# What a reader may write

What a reader may write depends on the status and on nothing else: the markers of an exchange in
their statuses, fragments once it is started, and whatever it likes as data before that, which is
not looked at.  What is not allowed is rejected and leaves the session as it was; what is allowed is
acknowledged when all that follows from it is done, and nothing but a radio that refuses to
advertise again and again keeps this from happening.
-/

namespace Presentment

/-- What a reader may write while a session has a status. -/
inductive TransferStatus.Allows : TransferStatus → Characteristic → Bytes → Prop
  | start : Allows .connected .state [0x01]
  | finish : Allows .responseSent .state [0x02]
  | early (value : Bytes) : Allows .connected .client2Server value
  | fragment (header : Fragment.Header) (payload : Bytes) :
      Allows .started .client2Server (header.byte :: payload)

namespace Transition

variable {status : TransferStatus} {c : Characteristic} {value : Bytes}

theorem ofWrite_of_allows (h : status.Allows c value) :
  (ofWrite status c value).acknowledgement = .success
  := by
  cases h with
  | start | finish | early => rfl
  | fragment header payload =>
    rw [ofWrite_started, Fragment.parse_byte]
    cases header with
    | more | last => rfl

theorem ofWrite_of_not_allows (h : ¬status.Allows c value) :
  ofWrite status c value = reject
  := by
  cases c with
  | server2Client => rfl
  | state =>
    cases status with
    | connected =>
      apply if_neg
      rintro rfl
      exact h .start
    | responseSent =>
      apply if_neg
      rintro rfl
      exact h .finish
    | _ => rfl
  | client2Server =>
    cases status with
    | connected => exact absurd (.early value) h
    | started =>
      rw [ofWrite_started]
      cases parse_eq : Fragment.parse value with
      | error e => rfl
      | ok result =>
        rw [Fragment.eq_of_parse parse_eq] at h
        exact absurd (.fragment result.1 result.2) h
    | _ => rfl

theorem ofWrite_acknowledgement_iff :
  (ofWrite status c value).acknowledgement = .success ↔ status.Allows c value
  := by
  constructor
  · intro acknowledged
    by_contra h
    rw [ofWrite_of_not_allows h] at acknowledged
    cases acknowledged
  · exact ofWrite_of_allows

end Transition

namespace Session

variable {η κ : Type} {setup : Setup η κ} {s s' : Session η κ} {event : Event}
  {followUps : List Event} {c : Characteristic} {value : Bytes} {answer : Acknowledgement}

/-! ### What leaves a session as it was -/

/-- An event that sets nothing off is handled as soon as it is applied. -/
theorem handle_of_apply (shown : setup.config.preview = false)
    (applied : s.apply setup event = (answer, [], s')) (unheard : s'.posted = []) (fuel : Nat) :
  s.handle setup fuel event = some (answer, s')
  := by
  rw [handle_of_shown shown, applied, drain_of_posted_eq_nil unheard]
  rfl

theorem handle_of_not_allows (shown : setup.config.preview = false) (unheard : s.posted = [])
    (h : ¬s.status.Allows c value) (fuel : Nat) :
  s.handle setup fuel (.write c value) = some (.rejected, s)
  := by
  have rejects : transition s.snapshot (.write c value) = .reject :=
    Transition.ofWrite_of_not_allows h
  exact handle_of_apply shown (apply_of_idle setup rejects rfl rfl rfl) unheard fuel

theorem handle_early (shown : setup.config.preview = false) (unheard : s.posted = [])
    (status_eq : s.status = .connected) (value : Bytes) (fuel : Nat) :
  s.handle setup fuel (.write .client2Server value) = some (.success, s)
  := by
  have stays : transition s.snapshot (.write .client2Server value) = .stay := by
    rw [transition, snapshot, status_eq]
    rfl
  exact handle_of_apply shown (apply_of_idle setup stays rfl rfl rfl) unheard fuel

/-! ### What is acknowledged -/

/-- The answer to a write tells whether it was allowed. -/
theorem allows_of_handle (shown : setup.config.preview = false) {fuel : Nat}
    (handled : s.handle setup fuel (.write c value) = some (answer, s')) :
  answer = .success ↔ s.status.Allows c value
  := by
  rw [handle_of_shown shown] at handled
  obtain ⟨_, -, heq⟩ := Option.map_eq_some_iff.mp handled
  cases heq
  exact Transition.ofWrite_acknowledgement_iff

/-- Unless it is a fragment, what is written asks nobody, and nothing follows from it. -/
theorem Step.took_of_write (unstarted : s.status ≠ .started)
    (step : Step setup s (.write c value) followUps s') :
  followUps = [] ∧ ∃ actions, Took setup actions s s'
    ∧ ∀ action ∈ actions, action.isPrompt = false
  := by
  cases step with
  | stay =>
    use rfl, [], ⟨rfl, (List.append_nil _).symm, (List.append_nil _).symm⟩
    exact fun _ haction => absurd haction List.not_mem_nil
  | fail fault =>
    cases fault with
    | request status_eq => exact absurd status_eq unstarted
  | leave _ called =>
    refine ⟨rfl, _, called.tookFrom rfl rfl rfl, isPrompt_of_gates_eq ?_⟩
    simp [Action.isGate]
  | start _ called => exact ⟨rfl, _, called.tookFrom rfl rfl rfl, isPrompt_of_gates_eq rfl⟩
  | gather status_eq | ask status_eq => exact absurd status_eq unstarted

/-- A host that posts nothing but decisions is not heard of before the exchange is started. -/
theorem exists_handle_of_unstarted (shown : setup.config.preview = false)
    (unheard : s.posted = []) (modest : setup.host.IsModest) (unstarted : s.status ≠ .started)
    (fuel : Nat) :
  ∃ s', s.handle setup fuel (.write c value) = some ((s.apply setup (.write c value)).1, s')
  := by
  obtain ⟨followUps_eq, actions, took, unasked⟩ :=
    (apply_step setup (.write c value) s).took_of_write unstarted
  have quiet : (s.apply setup (.write c value)).2.2.posted = [] := by
    rw [took.posted_eq, unheard, modest.replay_eq_nil unasked]
    rfl
  use (s.apply setup (.write c value)).2.2
  exact handle_of_apply shown (Prod.ext rfl (Prod.ext followUps_eq rfl)) quiet fuel

/-- Handling an event ends with the answer that applying it gives. -/
theorem exists_handle_of_yields (shown : setup.config.preview = false)
    (modest : setup.host.IsModest) (wide : ∀ d, (setup.suite.publicKey d).IsWide)
    (yields : setup.config.autoRecover → Acc setup.host.Refuses s.host) (event : Event) :
  ∃ fuel s', s.handle setup fuel event = some ((s.apply setup event).1, s')
  := by
  have retries : Acc (fun h' h => setup.config.autoRecover ∧ setup.host.Refuses h' h) s.host := by
    cases hauto : setup.config.autoRecover with
    | false => exact ⟨_, fun h' hrefuses => absurd hrefuses.1 Bool.false_ne_true⟩
    | true => exact Subrelation.accessible And.right (yields hauto)
  obtain ⟨actions, took⟩ := (apply_step setup event s).took
  obtain ⟨fuel, s', drained⟩ := drain_ends modest wide retries (s.apply setup event).2.1
    (s.apply setup event).2.2 ⟨actions, took.host_eq⟩
  use fuel, s'
  rw [handle_of_shown shown, drained]
  rfl

/-- A write is acknowledged if the status allows it and is rejected otherwise.  What is rejected
leaves the whole session as it was, its trace and its host included, and so does data before the
start marker.  Handling what is allowed ends in front of a host that posts nothing but decisions;
as a request that cannot be read may be recovered from, this takes for a fragment that the radio
does not refuse to advertise again and again. -/
theorem write_isJudged (shown : setup.config.preview = false) (unheard : s.posted = [])
    (c : Characteristic) (value : Bytes) :
  (∀ fuel answer s', s.handle setup fuel (.write c value) = some (answer, s') →
      (answer = .success ↔ s.status.Allows c value))
    ∧ (¬s.status.Allows c value → ∀ fuel,
      s.handle setup fuel (.write c value) = some (.rejected, s))
    ∧ (s.status = .connected → c = .client2Server → ∀ fuel,
      s.handle setup fuel (.write c value) = some (.success, s))
    ∧ (s.status.Allows c value → setup.host.IsModest →
      (s.status = .started → (∀ d, (setup.suite.publicKey d).IsWide)
        ∧ (setup.config.autoRecover → Acc setup.host.Refuses s.host)) →
      ∃ fuel s', s.handle setup fuel (.write c value) = some (.success, s'))
  := by
  refine ⟨?_, handle_of_not_allows shown unheard, ?_, ?_⟩
  · intro fuel answer s' handled
    exact allows_of_handle shown handled
  · rintro status_eq rfl fuel
    exact handle_early shown unheard status_eq value fuel
  · intro allowed modest ends
    have acknowledged : (s.apply setup (.write c value)).1 = .success :=
      Transition.ofWrite_of_allows allowed
    rw [← acknowledged]
    by_cases started : s.status = .started
    · obtain ⟨wide, yields⟩ := ends started
      exact exists_handle_of_yields shown modest wide yields (.write c value)
    · exact ⟨0, exists_handle_of_unstarted shown unheard modest started 0⟩

/-- A session is set up and the reader starts to exchange messages. -/
def starting : List (Impulse (Option Nat)) :=
  [.handle 5 .setUp, .handle 0 (.subscribed .state), .handle 0 (.subscribed .server2Client),
    .handle 0 (.write .state Channel.startMarker)]

/-- The radio refuses once and the session recovers.  Once it is started, the empty value is
rejected everywhere, and handling a last fragment that completes no request ends. -/
theorem write_isJudged_recovering :
  ∃ s, Reached recovering s ∧ s.status = .started
    ∧ recovering.config.preview = false ∧ s.posted = []
    ∧ (∀ c fuel, s.handle recovering fuel (.write c []) = some (.rejected, s))
    ∧ s.status.Allows .client2Server [0x00, 0xff]
    ∧ recovering.host.IsModest
    ∧ (∀ d, (recovering.suite.publicKey d).IsWide)
    ∧ Acc recovering.host.Refuses s.host
    ∧ ∃ fuel s',
      s.handle recovering fuel (.write .client2Server [0x00, 0xff]) = some (.success, s')
  := by
  have run : ((waiting (some 1)).proceed recovering starting).map
        (fun result => (result.2.status, result.2.posted, result.2.host))
      = some (.started, [], some 0) := by
    decide +kernel
  obtain ⟨⟨answers, s⟩, hrun, heq⟩ := Option.map_eq_some_iff.mp run
  simp only [Prod.mk.injEq] at heq
  obtain ⟨started, unheard, host_eq⟩ := heq
  obtain ⟨log, history⟩ := (History.fresh _ _).proceed hrun
  have yields : Acc recovering.host.Refuses s.host := by
    rw [host_eq]
    exact reluctant_yields 0
  have allowed : s.status.Allows .client2Server [0x00, 0xff] := by
    rw [started]
    exact .fragment .last [0xff]
  have illegal (c : Characteristic) : ¬s.status.Allows c [] := by
    rw [started]
    rintro ⟨⟩
  have shown : recovering.config.preview = false := rfl
  obtain ⟨-, -, -, ends⟩ := write_isJudged shown unheard .client2Server [0x00, 0xff]
  refine ⟨s, history.reached, started, shown, unheard, ?_, allowed, reluctant_isModest,
    recovering_isWide, yields, ?_⟩
  · intro c fuel
    exact (write_isJudged shown unheard c []).2.1 (illegal c) fuel
  · exact ends allowed reluctant_isModest (fun _ => ⟨recovering_isWide, fun _ => yields⟩)

/-- What is allowed is not always answered: the radio has come to refuse whatever it is asked, and
a session that recovers by itself never returns from a last fragment that completes no request. -/
theorem not_write_isJudged :
  ∃ s, Reached recovering s ∧ s.status = .started
    ∧ recovering.config.preview = false ∧ s.posted = []
    ∧ s.status.Allows .client2Server [0x00, 0xff]
    ∧ ¬∃ fuel result,
      s.handle recovering fuel (.write .client2Server [0x00, 0xff]) = some result
  := by
  have run : ((waiting (some 0)).proceed recovering
      (starting ++ [.outside (fun _ => none) []])).map (fun result =>
        let failed := result.2.apply recovering (.write .client2Server [0x00, 0xff])
        (result.2.status, result.2.posted, failed.2.1, failed.2.2.status, failed.2.2.host))
      = some (.started, [], [.recover], .error, none) := by
    decide +kernel
  obtain ⟨⟨answers, s⟩, hrun, heq⟩ := Option.map_eq_some_iff.mp run
  simp only [Prod.mk.injEq] at heq
  obtain ⟨started, unheard, followUps_eq, failed, stuck⟩ := heq
  obtain ⟨log, history⟩ := (History.fresh _ _).proceed hrun
  have allowed : s.status.Allows .client2Server [0x00, 0xff] := by
    rw [started]
    exact .fragment .last [0xff]
  refine ⟨s, history.reached, started, rfl, unheard, allowed, ?_⟩
  rintro ⟨fuel, result, handled⟩
  have never := handle_eq_none reluctant_isStubborn rfl rfl rfl recovering_isWide followUps_eq
    failed stuck fuel
  rw [never] at handled
  cases handled

end Session

end Presentment
