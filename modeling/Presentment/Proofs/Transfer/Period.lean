import Presentment.Proofs.Transfer.Consent

/-!
# Engagement periods

An engagement period begins when an engagement is ready and lasts until the next one is.  In a
period at most one message is sent to the reader: either a response, or a status.  `Speaks`
tells how much of it the radio has accepted in each status, and `Utterance` what a step adds
to that.
-/

namespace Presentment

namespace Action

/-- Whether an action tells that an engagement is ready. -/
def isReady : Action → Bool
  | .statusChanged .engagementReady => true
  | _ => false

/-- Whether an action neither notifies the reader nor tells that an engagement is ready. -/
def isQuiet : Action → Bool
  | .notify _ _ _ | .statusChanged .engagementReady => false
  | _ => true

theorem isReady_iff {action : Action} :
  action.isReady ↔ action = .statusChanged .engagementReady
  := by
  constructor
  · intro h
    cases action with
    | statusChanged status =>
      cases status with
      | engagementReady => rfl
      | _ => cases h
    | _ => cases h
  · rintro rfl
    rfl

theorem isReady_of_isQuiet {action : Action} (h : action.isQuiet) :
  action.isReady = false
  := by
  apply Bool.eq_false_iff.mpr
  intro ready
  rw [isReady_iff.mp ready] at h
  cases h

theorem accepted?_of_isQuiet {action : Action} (h : action.isQuiet) :
  action.accepted? = none
  := by
  cases action with
  | notify => cases h
  | _ => rfl

end Action

namespace Session

variable {η κ : Type}

/-! ### Periods -/

/-- What was done since the last engagement was ready. -/
def current (log : List (η × Action)) : List (η × Action) :=
  log.foldl (fun period entry => if entry.2.isReady then [] else period ++ [entry]) []

theorem current_append_of_isReady_eq_false (log : List (η × Action)) {added : List (η × Action)}
    (h : ∀ entry ∈ added, entry.2.isReady = false) :
  current (log ++ added) = current log ++ added
  := by
  induction added generalizing log with
  | nil => rw [List.append_nil, List.append_nil]
  | cons entry added ih =>
    have begun : current (log ++ [entry]) = current log ++ [entry] := by
      rw [current, List.foldl_append, List.foldl_cons, List.foldl_nil, h entry List.mem_cons_self]
      rfl
    have later := ih (log ++ [entry]) (fun entry hentry => h entry (List.mem_cons_of_mem _ hentry))
    rw [begun, List.append_assoc, List.append_assoc] at later
    exact later

/-- A period begins when an engagement is ready. -/
theorem current_append_ready (log : List (η × Action)) (host : η) {period : List (η × Action)}
    (h : ∀ entry ∈ period, entry.2.isReady = false) :
  current (log ++ (host, .statusChanged .engagementReady) :: period) = period
  := by
  have begun : current (log ++ [(host, .statusChanged .engagementReady)]) = [] := by
    rw [current, List.foldl_append]
    rfl
  have later := current_append_of_isReady_eq_false
    (log ++ [(host, Action.statusChanged .engagementReady)]) h
  rw [begun, List.append_assoc] at later
  exact later

/-! ### Messages -/

/-- A message to the reader is begun: a response right after it was encrypted, or a status in
the clear. -/
inductive Begins (setup : Setup η κ) (before : List (η × Action)) : Action → Bytes → Prop
  | response {earlier : List (η × Action)} {host : η} {response : DeviceResponse}
      {state state' : κ} {data : Bytes}
      (before_eq : before = earlier ++ [(host, .encrypt (Cbor.encode response))])
      (encrypt_eq : setup.provider.encrypt (Cbor.encode response) state = (.ok data, state')) :
      Begins setup before (.queue (responseMessage data)) (responseMessage data)
  | status {value : Bytes} {accepted : Bool} (status : SessionStatus) :
      Begins setup before (.notify .server2Client value accepted) (statusMessage status)

/-- At most one message is sent in a period: from where it begins, the radio accepts the
fragments of this message in order, cut to the size that is in force there. -/
inductive OneVoice (setup : Setup η κ) : List (η × Action) → Prop
  | silent {period : List (η × Action)}
      (silent : accepted (period.map Prod.snd) = []) :
      OneVoice setup period
  | message {before after : List (η × Action)} {host : η} {action : Action} {message : Bytes}
      (silent : accepted (before.map Prod.snd) = [])
      (begins : Begins setup before action message)
      (heard : accepted (action :: after.map Prod.snd)
        <+: Fragment.frame message (setup.block host)) :
      OneVoice setup (before ++ (host, action) :: after)

/-- A response is under way, of which `rest` was not accepted yet. -/
inductive Sending (setup : Setup η κ) (rest : List Bytes) : List (η × Action) → Prop
  | intro {before after : List (η × Action)} {host : η} {message : Bytes}
      (silent : accepted (before.map Prod.snd) = [])
      (begins : Begins setup before (.queue message) message)
      (frame_eq : Fragment.frame message (setup.block host)
        = accepted (after.map Prod.snd) ++ rest) :
      Sending setup rest (before ++ (host, .queue message) :: after)

/-- How much the reader has heard in a period. -/
def Speaks (setup : Setup η κ) (s : Session η κ) (period : List (η × Action)) : Prop :=
  match s.status with
  | .engagementReady | .connected | .started | .requestReceived =>
    accepted (period.map Prod.snd) = []
  | .userSelected | .responseSent => Sending setup s.outgoing period
  | _ => OneVoice setup period

section

variable {setup : Setup η κ} {s s' : Session η κ} {event : Event} {followUps : List Event}
  {period added log : List (η × Action)} {actions : List Action}

theorem Sending.oneVoice {rest : List Bytes} (h : Sending setup rest period) :
  OneVoice setup period
  := by
  obtain ⟨silent, begins, frame_eq⟩ := h
  apply OneVoice.message silent begins
  rw [frame_eq]
  exact List.prefix_append _ _

theorem Speaks.oneVoice (h : Speaks setup s period) :
  OneVoice setup period
  := by
  rw [Speaks] at h
  split at h
  · exact .silent h
  · exact .silent h
  · exact .silent h
  · exact .silent h
  · exact h.oneVoice
  · exact h.oneVoice
  · exact h

theorem accepted_mono {earlier : List (η × Action)} (h : earlier <+: period) :
  accepted (earlier.map Prod.snd) <+: accepted (period.map Prod.snd)
  := by
  obtain ⟨later, rfl⟩ := h
  rw [List.map_append, accepted_append]
  exact List.prefix_append _ _

/-- What is one message all along is one at every earlier time. -/
theorem OneVoice.earlier {earlier : List (η × Action)} (h : OneVoice setup period)
    (hearlier : earlier <+: period) :
  OneVoice setup earlier
  := by
  cases h with
  | silent silent =>
    apply OneVoice.silent
    have heard := accepted_mono hearlier
    rw [silent] at heard
    exact List.prefix_nil.mp heard
  | @message before after host action message silent begins heard =>
    rcases List.prefix_or_prefix_of_prefix hearlier (List.prefix_append before _) with hbefore | hafter
    · apply OneVoice.silent
      have heard := accepted_mono hbefore
      rw [silent] at heard
      exact List.prefix_nil.mp heard
    · obtain ⟨rest, rfl⟩ := hafter
      cases rest with
      | nil =>
        rw [List.append_nil]
        exact .silent silent
      | cons entry rest =>
        obtain ⟨rfl, hrest⟩ := List.cons_prefix_cons.mp
          ((List.prefix_append_right_inj before).mp hearlier)
        have later : (host, action) :: rest <+: (host, action) :: after :=
          List.cons_prefix_cons.mpr ⟨rfl, hrest⟩
        exact .message silent begins ((accepted_mono later).trans heard)

/-! ### What a step adds -/

/-- Whether none of the actions concerns the reader. -/
def AreQuiet (actions : List Action) : Prop :=
  ∀ action ∈ actions, action.isQuiet

theorem AreQuiet.accepted_eq (h : AreQuiet actions) :
  accepted actions = []
  := List.filterMap_eq_nil_iff.mpr (fun action haction =>
    Action.accepted?_of_isQuiet (h action haction))

theorem areQuiet_stops (s : Session η κ) :
  AreQuiet s.stops
  := by
  intro action haction
  rw [stops] at haction
  split at haction
  · rw [List.mem_singleton.mp haction]
    rfl
  · cases haction

theorem areQuiet_giveUp (e : TransferError) (s : Session η κ) :
  AreQuiet (s.giveUp e)
  := by
  intro action haction
  simp only [giveUp, List.cons_append, List.mem_cons, List.mem_append, List.not_mem_nil,
    or_false] at haction
  rcases haction with rfl | haction | rfl
  · rfl
  · exact areQuiet_stops s action haction
  · rfl

theorem Unread.areQuiet {message : Bytes} {held : Option Engagement} {e : TransferError}
    (h : Unread setup message held e actions) :
  AreQuiet actions
  := by
  cases h with
  | read | derive | decrypt | decode => simp [AreQuiet, Action.isQuiet]

theorem Unanswered.areQuiet {items : Option Selection} {e : TransferError}
    {status : Option SessionStatus} (h : Unanswered setup s items e actions status) :
  AreQuiet actions
  := by
  cases h with
  | unasked | empty | make | encrypt => simp [AreQuiet, Action.isQuiet]

/-- What a step says to the reader, and what it means for the period. -/
inductive Utterance (setup : Setup η κ) (s : Session η κ) : List Action → Session η κ → Prop
  | nothing {actions : List Action} {s' : Session η κ}
      (quiet : AreQuiet actions)
      (keeps : ∀ period, Speaks setup s period → Speaks setup s' period) :
      Utterance setup s actions s'
  /-- A new period begins. -/
  | ready {actions : List Action} {s' : Session η κ}
      (quiet : AreQuiet actions)
      (fresh : ∀ period, accepted (period.map Prod.snd) = [] → Speaks setup s' period) :
      Utterance setup s (.statusChanged .engagementReady :: actions) s'
  /-- A status is told before the engagement is given up. -/
  | status {before after : List Action} {status : SessionStatus} {sent rest : List Bytes}
      {s' : Session η κ}
      (silent : ∀ period, Speaks setup s period → accepted (period.map Prod.snd) = [])
      (quiet : AreQuiet (before ++ after))
      (frame_eq : Fragment.frame (statusMessage status)
        (setup.block (setup.host.replay before s.host).2) = sent ++ rest)
      (status_eq : s'.status = .error) :
      Utterance setup s (before ++ notices sent rest ++ after) s'
  /-- A response is begun. -/
  | response {response : DeviceResponse} {state state' : κ} {data : Bytes} {sent : List Bytes}
      {s' : Session η κ}
      (silent : ∀ period, Speaks setup s period → accepted (period.map Prod.snd) = [])
      (encrypt_eq : setup.provider.encrypt (Cbor.encode response) state = (.ok data, state'))
      (frame_eq : Fragment.frame (responseMessage data)
          (setup.block (setup.host.replay [.statusChanged .userSelected] s.host).2)
        = sent ++ s'.outgoing)
      (status_eq : s'.status = .userSelected) :
      Utterance setup s
        ([Action.statusChanged .userSelected, Action.encrypt (Cbor.encode response),
          Action.queue (responseMessage data)] ++ notices sent s'.outgoing) s'
  /-- A response is continued. -/
  | more {sent : List Bytes} {s' : Session η κ}
      (status_eq : s.status = .userSelected)
      (outgoing_eq : s.outgoing = sent ++ s'.outgoing)
      (status_eq' : s'.status = .userSelected) :
      Utterance setup s (notices sent s'.outgoing) s'

theorem speaks_of_error (h : s'.status = .error) (voice : OneVoice setup period) :
  Speaks setup s' period
  := by
  rw [Speaks, h]
  exact voice

/-- A status that is told, if there is one, is the only message of the period. -/
theorem Tells.utterance {before after told : List Action} {status : Option SessionStatus}
    (tells : Tells setup (setup.host.replay before s.host).2 status told)
    (quiet : AreQuiet (before ++ after))
    (silent : ∀ period, Speaks setup s period → accepted (period.map Prod.snd) = [])
    (status_eq : s'.status = .error) :
  Utterance setup s (before ++ told ++ after) s'
  := by
  cases tells with
  | nothing =>
    rw [List.append_nil]
    exact .nothing quiet (fun period speaks => speaks_of_error status_eq speaks.oneVoice)
  | status frame_eq => exact .status silent quiet frame_eq status_eq

/-- Before the user has decided, the reader has heard nothing. -/
theorem Speaks.silent (h : s.status = .started ∨ s.status = .requestReceived)
    (speaks : Speaks setup s period) :
  accepted (period.map Prod.snd) = []
  := by
  rw [Speaks] at speaks
  rcases h with h | h
  · rw [h] at speaks
    exact speaks
  · rw [h] at speaks
    exact speaks

theorem AreQuiet.append {before after : List Action} (h : AreQuiet before) (h' : AreQuiet after) :
  AreQuiet (before ++ after)
  := by
  intro action haction
  rcases List.mem_append.mp haction with haction | haction
  · exact h action haction
  · exact h' action haction

theorem areQuiet_singleton {action : Action} (h : action.isQuiet) :
  AreQuiet [action]
  := by
  intro other hother
  rw [List.mem_singleton.mp hother]
  exact h

theorem Fault.utterance {e : TransferError} {supply : Supply}
    (fault : Fault setup s event e supply actions) (status_eq : s'.status = .error) :
  Utterance setup s actions s'
  := by
  have given : ∀ period, Speaks setup s period → Speaks setup s' period :=
    fun period speaks => speaks_of_error status_eq speaks.oneVoice
  have fresh : ∀ period : List (η × Action), accepted (period.map Prod.snd) = [] →
      Speaks setup s' period :=
    fun period silent => speaks_of_error status_eq (.silent silent)
  have closed : ∀ e, AreQuiet ([.statusChanged .error] ++ [.finishedWithError e]) :=
    fun e => (areQuiet_singleton rfl).append (areQuiet_singleton rfl)
  cases fault with
  | credentials => exact .nothing ((areQuiet_singleton rfl).append (areQuiet_giveUp _ s)) given
  | engagement => exact .ready (areQuiet_giveUp _ s) fresh
  | refusal => exact .ready ((areQuiet_singleton rfl).append (areQuiet_giveUp _ s)) fresh
  | radio => exact .nothing (areQuiet_giveUp _ s) given
  | request hstatus _ unread tells =>
    rw [← List.append_assoc _ _ (_ : List Action)]
    apply tells.utterance _ (fun period => Speaks.silent (.inl hstatus)) status_eq
    exact (((areQuiet_singleton rfl).append (areQuiet_stops s)).append unread.areQuiet).append
      (closed _)
  | @response _ _ done _ _ hstatus _ _ unanswered tells =>
    have host_eq : (setup.host.replay ([Action.statusChanged .userSelected] ++ done) s.host).2
        = (setup.host.replay [.statusChanged .userSelected] s.host).2 := by
      cases unanswered with
      | unasked | empty | make | encrypt => rfl
    rw [← host_eq] at tells
    rw [← List.append_assoc _ _ (_ : List Action)]
    apply tells.utterance _ (fun period => Speaks.silent (.inr hstatus)) status_eq
    exact ((areQuiet_singleton rfl).append unanswered.areQuiet).append (areQuiet_giveUp _ s)
  | rejection hstatus _ _ tells =>
    rw [List.append_assoc]
    apply tells.utterance _ (fun period => Speaks.silent (.inr hstatus)) status_eq
    exact (areQuiet_singleton rfl).append ((areQuiet_stops s).append (areQuiet_singleton rfl))

theorem Step.utterance (step : Step setup s event followUps s') :
  ∃ actions, Took setup actions s s' ∧ Utterance setup s actions s'
  := by
  cases step with
  | stay | subscribe | unsubscribe | gather =>
    use [], ⟨rfl, (List.append_nil _).symm, (List.append_nil _).symm⟩
    exact .nothing (by simp [AreQuiet]) (fun period speaks => speaks)
  | @fail _ _ _ actions _ fault called =>
    refine ⟨actions, called.tookFrom rfl rfl rfl, fault.utterance ?_⟩
    exact called.same Session.status (fun _ _ _ => rfl)
  | leave engaged called =>
    refine ⟨_, called.tookFrom rfl rfl rfl, .nothing ?_ ?_⟩
    · exact (areQuiet_singleton rfl).append (areQuiet_stops s)
    · intro period speaks
      rw [Speaks, called.same Session.status (fun _ _ _ => rfl)]
      exact speaks.oneVoice
  | setUp status_eq _ called | connect status_eq _ called | start status_eq called
  | recover status_eq called =>
    refine ⟨_, called.tookFrom rfl rfl rfl, .nothing (areQuiet_singleton rfl) ?_⟩
    intro period speaks
    rw [Speaks, status_eq] at speaks
    rw [Speaks, called.same Session.status (fun _ _ _ => rfl)]
    exact speaks
  | finish status_eq called =>
    refine ⟨_, called.tookFrom rfl rfl rfl, .nothing (areQuiet_singleton rfl) ?_⟩
    intro period speaks
    rw [Speaks, status_eq] at speaks
    rw [Speaks, called.same Session.status (fun _ _ _ => rfl),
      called.same Session.outgoing (fun _ _ _ => rfl)]
    exact speaks
  | advertise status_eq _ _ called =>
    refine ⟨_, called.tookFrom rfl rfl rfl, .ready (areQuiet_singleton rfl) ?_⟩
    intro period silent
    rw [Speaks, called.same Session.status (fun _ _ _ => rfl)]
    exact silent
  | ask status_eq _ _ _ _ _ _ called =>
    refine ⟨_, called.tookFrom rfl rfl rfl, .nothing ?_ ?_⟩
    · exact ((areQuiet_singleton rfl).append (areQuiet_stops s)).append
        (by simp [AreQuiet, Action.isQuiet])
    · intro period speaks
      rw [Speaks, called.same Session.status (fun _ _ _ => rfl)]
      exact speaks.silent (.inl status_eq)
  | respond status_eq _ _ _ _ _ _ encrypt_eq frame_eq called =>
    have took : Took setup _ s s' := called.tookFrom rfl rfl rfl
    have outgoing_eq := called.same Session.outgoing (fun _ _ _ => rfl)
    dsimp only at outgoing_eq
    rw [← outgoing_eq] at frame_eq took
    refine ⟨_, took,
      .response (fun period => Speaks.silent (.inr status_eq)) encrypt_eq frame_eq ?_⟩
    exact called.same Session.status (fun _ _ _ => rfl)
  | sendMore status_eq outgoing_eq called =>
    have took : Took setup _ s s' := called.tookFrom rfl rfl rfl
    have outgoing_eq' := called.same Session.outgoing (fun _ _ _ => rfl)
    dsimp only at outgoing_eq'
    rw [← outgoing_eq'] at outgoing_eq took
    refine ⟨_, took, .more status_eq outgoing_eq ?_⟩
    rw [called.same Session.status (fun _ _ _ => rfl), status_eq]

/-! ### Whole runs -/

/-- All that was said until now is one message in each period. -/
structure IsVoiced (setup : Setup η κ) (log : List (η × Action)) (s : Session η κ) : Prop where
  periods : ∀ earlier, earlier <+: log → OneVoice setup (current earlier)
  present : Speaks setup s (current log)
  channel : ∀ c value accepted, .notify c value accepted ∈ log.map Prod.snd → c = .server2Client

/-- What is notified is part of what was to be sent, and is notified on one channel. -/
theorem of_mem_notices {c : Characteristic} {value : Bytes} {accepted : Bool}
    {sent rest : List Bytes} (h : .notify c value accepted ∈ notices sent rest) :
  c = .server2Client ∧ value ∈ sent ++ rest
  := by
  simp only [notices, List.mem_append, List.mem_map] at h
  obtain ⟨_, hsent, heq⟩ | ⟨_, hrest, heq⟩ := h
  · cases heq
    exact ⟨rfl, List.mem_append_left rest hsent⟩
  · cases heq
    have hrest : value ∈ rest := List.mem_of_mem_head? (Option.mem_toList.mp hrest)
    exact ⟨rfl, List.mem_append_right sent hrest⟩

theorem AreQuiet.not_notify (h : AreQuiet actions) {c : Characteristic} {value : Bytes}
    {accepted : Bool} :
  .notify c value accepted ∉ actions
  := by
  intro hnotify
  cases h _ hnotify

theorem Utterance.channel (utterance : Utterance setup s actions s') {c : Characteristic}
    {value : Bytes} {accepted : Bool} (h : .notify c value accepted ∈ actions) :
  c = .server2Client
  := by
  cases utterance with
  | nothing quiet keeps => exact absurd h quiet.not_notify
  | ready quiet fresh =>
    rcases List.mem_cons.mp h with h | h
    · cases h
    · exact absurd h quiet.not_notify
  | @status before after _ _ _ _ silent quiet =>
    rcases List.mem_append.mp h with h | h
    · rcases List.mem_append.mp h with h | h
      · exact absurd (List.mem_append_left after h) quiet.not_notify
      · exact (of_mem_notices h).1
    · exact absurd (List.mem_append_right before h) quiet.not_notify
  | response =>
    rcases List.mem_append.mp h with h | h
    · simp at h
    · exact (of_mem_notices h).1
  | more => exact (of_mem_notices h).1

theorem AreQuiet.isReady (h : AreQuiet actions) :
  ∀ action ∈ actions, action.isReady = false
  := fun action haction => Action.isReady_of_isQuiet (h action haction)

theorem isReady_notices (sent rest : List Bytes) :
  ∀ action ∈ notices sent rest, action.isReady = false
  := by
  intro action haction
  simp only [notices, List.mem_append, List.mem_map] at haction
  obtain ⟨_, -, rfl⟩ | ⟨_, -, rfl⟩ := haction
  · rfl
  · rfl

theorem isReady_observe (host : Host η) (state : η)
    (h : ∀ action ∈ actions, action.isReady = false) :
  ∀ entry ∈ host.observe actions state, entry.2.isReady = false
  := by
  intro entry hentry
  apply h
  rw [← host.map_snd_observe actions state]
  exact List.mem_map_of_mem hentry

theorem periods_append (h : ∀ earlier, earlier <+: log → OneVoice setup (current earlier))
    (h' : ∀ earlier, earlier <+: added → OneVoice setup (current (log ++ earlier))) :
  ∀ earlier, earlier <+: log ++ added → OneVoice setup (current earlier)
  := by
  intro earlier hearlier
  rcases List.prefix_or_prefix_of_prefix hearlier (List.prefix_append log added) with hlog | hadded
  · exact h earlier hlog
  · obtain ⟨later, rfl⟩ := hadded
    exact h' later ((List.prefix_append_right_inj log).mp hearlier)

theorem silent_append (h : accepted (period.map Prod.snd) = [])
    (h' : accepted (added.map Prod.snd) = []) :
  accepted ((period ++ added).map Prod.snd) = []
  := by
  rw [List.map_append, accepted_append, h, h']
  rfl

/-- Nothing is lost while nothing is said. -/
theorem OneVoice.append (h : OneVoice setup period) (silent : accepted (added.map Prod.snd) = []) :
  OneVoice setup (period ++ added)
  := by
  cases h with
  | silent earlier => exact .silent (silent_append earlier silent)
  | message earlier begins heard =>
    rw [List.append_assoc, List.cons_append]
    apply OneVoice.message earlier begins
    rw [List.map_append, ← List.cons_append, accepted_append, silent, List.append_nil]
    exact heard

/-- The radio accepts more of a response that is under way. -/
theorem Sending.append {sent rest : List Bytes} (h : Sending setup (sent ++ rest) period)
    (accepted_eq : accepted (added.map Prod.snd) = sent) :
  Sending setup rest (period ++ added)
  := by
  obtain ⟨silent, begins, frame_eq⟩ := h
  rw [List.append_assoc, List.cons_append]
  apply Sending.intro silent begins
  rw [frame_eq, List.map_append, accepted_append, accepted_eq, List.append_assoc]

theorem Speaks.append (h : Speaks setup s period) (silent : accepted (added.map Prod.snd) = []) :
  Speaks setup s (period ++ added)
  := by
  rw [Speaks] at h ⊢
  split at h
  · exact silent_append h silent
  · exact silent_append h silent
  · exact silent_append h silent
  · exact silent_append h silent
  · exact h.append silent
  · exact h.append silent
  · exact h.append silent

/-- A status that is told is all that the radio accepts. -/
theorem oneVoice_status {before after : List Action} {status : SessionStatus}
    {sent rest : List Bytes} {host : η} (silent : accepted (period.map Prod.snd) = [])
    (quiet : AreQuiet (before ++ after))
    (frame_eq : Fragment.frame (statusMessage status)
      (setup.block (setup.host.replay before host).2) = sent ++ rest) :
  OneVoice setup (period ++ setup.host.observe (before ++ notices sent rest ++ after) host)
  := by
  have quiet_eq := quiet.accepted_eq
  rw [accepted_append, List.append_eq_nil_iff] at quiet_eq
  obtain ⟨before_eq, after_eq⟩ := quiet_eq
  cases sent with
  | nil =>
    apply OneVoice.silent
    simp [silent, before_eq, after_eq]
  | cons fragment sent =>
    rw [List.append_assoc, Host.observe_append, ← List.append_assoc]
    apply OneVoice.message _ (.status status)
    · rw [frame_eq, Host.map_snd_observe]
      change accepted (notices (fragment :: sent) rest ++ after) <+: _
      rw [accepted_append, accepted_notices, after_eq, List.append_nil]
      exact List.prefix_append _ _
    · apply silent_append silent
      rw [Host.map_snd_observe, before_eq]

/-- A response is under way as soon as it is queued. -/
theorem sending_response {response : DeviceResponse} {state state' : κ} {data : Bytes}
    {sent rest : List Bytes} {host : η} (silent : accepted (period.map Prod.snd) = [])
    (encrypt_eq : setup.provider.encrypt (Cbor.encode response) state = (.ok data, state'))
    (frame_eq : Fragment.frame (responseMessage data)
      (setup.block (setup.host.replay [.statusChanged .userSelected] host).2) = sent ++ rest) :
  Sending setup rest (period ++ setup.host.observe
    ([Action.statusChanged .userSelected, Action.encrypt (Cbor.encode response),
      Action.queue (responseMessage data)] ++ notices sent rest) host)
  := by
  have begun : Sending setup (sent ++ rest) (period ++ setup.host.observe
      [Action.statusChanged .userSelected, Action.encrypt (Cbor.encode response),
        Action.queue (responseMessage data)] host) := by
    change Sending setup _ (period ++ ([(host, Action.statusChanged .userSelected),
      (_, Action.encrypt (Cbor.encode response))] ++ [(_, Action.queue (responseMessage data))]))
    rw [← List.append_assoc]
    apply Sending.intro _ (.response (List.append_assoc period [_] [_]).symm encrypt_eq) frame_eq
    exact silent_append silent rfl
  rw [Host.observe_append, ← List.append_assoc]
  apply begun.append
  rw [Host.map_snd_observe, accepted_notices]

/-- As long as no engagement becomes ready, it is enough to look at the end of a step. -/
theorem IsVoiced.extend (h : IsVoiced setup log s)
    (channel : ∀ c value accepted,
      .notify c value accepted ∈ (log ++ added).map Prod.snd → c = .server2Client)
    (unready : ∀ entry ∈ added, entry.2.isReady = false)
    (speaks : Speaks setup s' (current log ++ added)) :
  IsVoiced setup (log ++ added) s'
  := by
  constructor
  case channel => exact channel
  case present =>
    rw [current_append_of_isReady_eq_false log unready]
    exact speaks
  case periods =>
    apply periods_append h.periods
    intro earlier hearlier
    rw [current_append_of_isReady_eq_false log
      (fun entry hentry => unready entry (hearlier.subset hentry))]
    exact speaks.oneVoice.earlier ((List.prefix_append_right_inj _).mpr hearlier)

/-- When an engagement becomes ready, the last period is over, and nothing was said in the new
one. -/
theorem IsVoiced.renew (h : IsVoiced setup log s) (host : η)
    (channel : ∀ c value accepted, .notify c value accepted
      ∈ (log ++ (host, .statusChanged .engagementReady) :: added).map Prod.snd → c = .server2Client)
    (unready : ∀ entry ∈ added, entry.2.isReady = false)
    (silent : accepted (added.map Prod.snd) = []) (speaks : Speaks setup s' added) :
  IsVoiced setup (log ++ (host, .statusChanged .engagementReady) :: added) s'
  := by
  constructor
  case channel => exact channel
  case present =>
    rw [current_append_ready log host unready]
    exact speaks
  case periods =>
    apply periods_append h.periods
    intro earlier hearlier
    rcases List.prefix_cons_iff.mp hearlier with rfl | ⟨later, rfl, hlater⟩
    · rw [List.append_nil]
      exact h.present.oneVoice
    · rw [current_append_ready log host
        (fun entry hentry => unready entry (hlater.subset hentry))]
      exact (OneVoice.silent silent).earlier hlater

/-- Nothing of a new period is said in another one. -/
theorem Utterance.isVoiced (h : IsVoiced setup log s) (utterance : Utterance setup s actions s') :
  IsVoiced setup (log ++ setup.host.observe actions s.host) s'
  := by
  have channel : ∀ c value accepted, .notify c value accepted
      ∈ (log ++ setup.host.observe actions s.host).map Prod.snd → c = .server2Client := by
    intro c value accepted hnotify
    rw [List.map_append, Host.map_snd_observe] at hnotify
    rcases List.mem_append.mp hnotify with hnotify | hnotify
    · exact h.channel c value accepted hnotify
    · exact utterance.channel hnotify
  cases utterance with
  | nothing quiet keeps =>
    apply h.extend channel (isReady_observe _ _ quiet.isReady)
    apply (keeps _ h.present).append
    rw [Host.map_snd_observe, quiet.accepted_eq]
  | @ready actions s' quiet fresh =>
    have silent : accepted ((setup.host.observe actions
        (setup.host.take (.statusChanged .engagementReady) s.host).2).map Prod.snd) = [] := by
      rw [Host.map_snd_observe, quiet.accepted_eq]
    exact h.renew s.host channel (isReady_observe _ _ quiet.isReady) silent (fresh _ silent)
  | @status before after _ sent rest _ silent quiet frame_eq status_eq =>
    apply h.extend channel
    · apply isReady_observe
      intro action haction
      rcases List.mem_append.mp haction with haction | haction
      · rcases List.mem_append.mp haction with haction | haction
        · exact quiet.isReady action (List.mem_append_left after haction)
        · exact isReady_notices sent rest action haction
      · exact quiet.isReady action (List.mem_append_right before haction)
    · exact speaks_of_error status_eq (oneVoice_status (silent _ h.present) quiet frame_eq)
  | @response response _ _ data sent s' silent encrypt_eq frame_eq status_eq =>
    apply h.extend channel
    · apply isReady_observe
      intro action haction
      rcases List.mem_append.mp haction with haction | haction
      · simp only [List.mem_cons, List.not_mem_nil, or_false] at haction
        rcases haction with rfl | rfl | rfl
        · rfl
        · rfl
        · rfl
      · exact isReady_notices _ _ action haction
    · rw [Speaks, status_eq]
      exact sending_response (silent _ h.present) encrypt_eq frame_eq
  | more status_eq outgoing_eq status_eq' =>
    apply h.extend channel (isReady_observe _ _ (isReady_notices _ _))
    have sending := h.present
    rw [Speaks, status_eq, outgoing_eq] at sending
    rw [Speaks, status_eq']
    apply Sending.append sending
    rw [Host.map_snd_observe, accepted_notices]

theorem Recorded.isVoiced (h : Recorded setup log s) :
  IsVoiced setup log s
  := by
  induction h with
  | fresh supply host =>
    constructor
    case periods =>
      intro earlier hearlier
      rw [List.prefix_nil.mp hearlier]
      exact .silent rfl
    case present => exact OneVoice.silent rfl
    case channel =>
      intro c value accepted h
      cases h
  | @apply log s actions event _ trace_eq ih =>
    obtain ⟨actions', took, utterance⟩ := (apply_step setup event s).utterance
    cases List.append_cancel_left (trace_eq.symm.trans took.trace_eq)
    exact utterance.isVoiced ih
  | outside host posted _ ih => exact ⟨ih.periods, ih.present, ih.channel⟩

/-- The channel to the reader never carries a mixture: in each engagement period, what the radio
accepts is a beginning of one message, the encrypted response or a status, in fragments of the
size that was in force when the message was framed. -/
theorem recorded_oneVoice (h : Recorded setup log s) :
  (∀ c value accepted, .notify c value accepted ∈ s.trace → c = .server2Client)
    ∧ ∀ before host period after,
      log = before ++ (host, .statusChanged .engagementReady) :: period ++ after →
      (∀ entry ∈ period, entry.2 ≠ .statusChanged .engagementReady) →
      OneVoice setup period
  := by
  have voiced := h.isVoiced
  constructor
  · rw [h.trace_eq]
    exact voiced.channel
  · intro before host period after hlog hperiod
    have unready : ∀ entry ∈ period, entry.2.isReady = false := by
      intro entry hentry
      apply Bool.eq_false_iff.mpr
      exact fun ready => hperiod entry hentry (Action.isReady_iff.mp ready)
    rw [← current_append_ready before host unready]
    apply voiced.periods
    rw [hlog]
    exact List.prefix_append _ _

end

/-- Of the name that the user discloses, the radio accepts one fragment. -/
theorem recorded_oneVoice_name :
  ∃ log s, Recorded nameWallet log s
    ∧ s.trace.any Action.isReady
    ∧ (accepted s.trace).length = 1
    ∧ (∀ c value accepted, .notify c value accepted ∈ s.trace → c = .server2Client)
    ∧ ∀ before host period after,
      log = before ++ (host, .statusChanged .engagementReady) :: period ++ after →
      (∀ entry ∈ period, entry.2 ≠ .statusChanged .engagementReady) →
      OneVoice nameWallet period
  := by
  have reached : Reached nameWallet nameAsked := Reached.foldl (.fresh _ _) _
  obtain ⟨log, recorded⟩ := (reached.apply (.consent ⟨true, none, 1⟩)).recorded
  have outcome : (nameAsked.apply nameWallet (.consent ⟨true, none, 1⟩)).2.2.trace.any
        Action.isReady
      ∧ (accepted (nameAsked.apply nameWallet (.consent ⟨true, none, 1⟩)).2.2.trace).length = 1
      := by
    decide +kernel
  exact ⟨log, _, recorded, outcome.1, outcome.2, recorded_oneVoice recorded⟩

end Session

end Presentment
