import Mathlib.Data.List.Chain
import Presentment.Proofs.Crypto.Suite
import Presentment.Proofs.Transfer.Runs
import Presentment.Security.Plain
import Presentment.Transfer.Radio

/-!
# What a session holds

`Agrees` says that a session holds what its status calls for, and nothing else.  While an
event is handled this holds up to the events that wait: `Settles` allows the last fragment of
the response to be gone when the event that reports this is still to come.  Every step keeps
it, so a session agrees whenever all that it was to handle has been handled.
-/

namespace Presentment

namespace TransferStatus

/-- Whether there is an engagement. -/
def isEngaged : TransferStatus → Bool
  | .engagementReady | .connected | .started | .requestReceived | .userSelected
  | .responseSent => true
  | _ => false

/-- Whether a request was read and the reader may be answered. -/
def isSecured : TransferStatus → Bool
  | .requestReceived | .userSelected | .responseSent => true
  | _ => false

/-- Whether the service is advertised. -/
def isOffered : TransferStatus → Bool
  | .engagementReady | .connected | .started => true
  | _ => false

end TransferStatus

/-- Starts and stops take turns, beginning with a start; `on` tells whether a start was the
last. -/
structure Alternates (toggles : List Bool) (on : Bool) : Prop where
  chain : (false :: toggles).IsChain (· ≠ ·)
  last : (false :: toggles).getLast (List.cons_ne_nil false toggles) = on

theorem Alternates.nil :
  Alternates [] false
  := ⟨.singleton false, rfl⟩

theorem Alternates.concat {toggles : List Bool} {on : Bool} (h : Alternates toggles on) :
  Alternates (toggles ++ [!on]) (!on)
  := by
  constructor
  · rw [← List.cons_append, List.isChain_append]
    use h.chain, .singleton _
    intro last hlast next hnext
    rw [List.getLast?_eq_some_getLast (List.cons_ne_nil false toggles), h.last] at hlast
    cases hlast
    cases hnext
    cases on with
    | true => exact Bool.noConfusion
    | false => exact Bool.noConfusion
  · simp

theorem Alternates.head_eq {toggles : List Bool} {on : Bool} (h : Alternates toggles on) :
  ∀ first ∈ toggles.head?, first = true
  := by
  intro first hfirst
  cases toggles with
  | nil => cases hfirst
  | cons toggle rest =>
    cases hfirst
    have hne : false ≠ first := h.chain.rel
    cases first with
    | true => rfl
    | false => exact absurd rfl hne

theorem Alternates.getLast?_eq {toggles : List Bool} {on : Bool} (h : Alternates toggles on) :
  toggles.getLast? = some true ↔ on = true
  := by
  rw [← h.last]
  cases toggles with
  | nil => simp
  | cons toggle rest => simp [List.getLast?_eq_some_getLast]

namespace Session

variable {η κ : Type}

/-- What a session holds agrees with its status, but for the events of `waiting`. -/
structure Settles (waiting : List Event) (s : Session η κ) : Prop where
  engagement : s.engagement.isSome = s.status.isEngaged
  tunnel : s.tunnel.isEstablished = s.status.isSecured
  pending : s.pending.isSome = decide (s.status = .requestReceived)
  reassembly : s.status ≠ .started → s.reassembly = []
  outgoing_ne_nil : s.status = .userSelected → s.outgoing ≠ [] ∨ .queueDrained ∈ waiting
  outgoing_eq_nil : s.status ≠ .userSelected → s.status ≠ .responseSent → s.outgoing = []
  advertising : s.isAdvertising = s.status.isOffered
  alternates : Alternates (toggles s.trace) s.isAdvertising
  subscribed : s.status.isConnected → s.subscriptions.isEmpty = false
  unsubscribed : s.status.isTerminal → s.subscriptions.isEmpty

attribute [simp] TransferStatus.isEngaged TransferStatus.isSecured TransferStatus.isOffered
  TransferStatus.isConnected TransferStatus.isExchanging TransferStatus.isTerminal
  Action.toggle?

theorem isEmpty_set_true (subscriptions : Subscriptions) {c : Characteristic}
    (notifying : c.isNotifying) :
  (subscriptions.set c true).isEmpty = false
  := by
  cases c with
  | state => simp [Subscriptions.isEmpty, Subscriptions.set, Subscriptions.empty]
  | server2Client => simp [Subscriptions.isEmpty, Subscriptions.set, Subscriptions.empty]
  | client2Server => cases notifying

theorem isEmpty_of_isComplete {subscriptions : Subscriptions} (h : subscriptions.isComplete) :
  subscriptions.isEmpty = false
  := by
  rw [eq_of_beq h]
  rfl

theorem contains_of_isEmpty {subscriptions : Subscriptions} (h : subscriptions.isEmpty)
    (c : Characteristic) :
  subscriptions.contains c = false
  := by
  rw [eq_of_beq h]
  cases c with
  | _ => rfl

theorem alternates_stops {waiting : List Event} {s : Session η κ} (h : Settles waiting s) :
  Alternates (toggles s.trace ++ toggles s.stops) false
  := by
  have alternates := h.alternates
  rw [toggles_stops]
  cases hon : s.isAdvertising with
  | true =>
    rw [hon] at alternates
    exact alternates.concat
  | false =>
    rw [hon] at alternates
    simpa using alternates

/-- A session that has given everything up is settled. -/
theorem settles_released {waiting : List Event} {actions : List Action} {s s' : Session η κ}
    {status : TransferStatus} {supply : Supply} {lastError : Option TransferError}
    (terminal : status.isTerminal) (alternates : Alternates (toggles (s.trace ++ actions)) false)
    (called : Called setup actions
      { s.released status with
        supply := supply
        lastError := lastError } s') :
  Settles waiting s'
  := by
  obtain ⟨_, _, -, rfl⟩ := called
  cases status with
  | disconnected => constructor <;> simp_all [released, Tunnel.isEstablished, Subscriptions.isEmpty]
  | error => constructor <;> simp_all [released, Tunnel.isEstablished, Subscriptions.isEmpty]
  | _ => cases terminal

/-- When the last fragment is gone, the event that reports this follows. -/
theorem queueDrained_mem (waiting : List Event) (rest : List Bytes) :
  rest ≠ [] ∨ .queueDrained ∈ waiting ++ (if rest.isEmpty then [.queueDrained] else [])
  := by
  cases rest with
  | nil => simp
  | cons fragment rest => simp

/-- Every step keeps a session settled, but for the events that wait after it. -/
theorem Step.settles {setup : Setup η κ} {event : Event} {waiting followUps : List Event}
    {s s' : Session η κ} (h : Settles (event :: waiting) s)
    (step : Step setup s event followUps s') :
  Settles (waiting ++ followUps) s'
  := by
  have stopped := alternates_stops h
  have started := h.alternates.concat
  obtain ⟨engagement, tunnel, pending, reassembly, outgoing_ne_nil, outgoing_eq_nil, advertising,
    alternates, subscribed, unsubscribed⟩ := h
  cases step with
  | stay next_eq effects_eq =>
    have notDrained : s.status = .userSelected → event ≠ .queueDrained := by
      rintro hstatus rfl
      simp [transition, snapshot, hstatus, Transition.enter] at next_eq
    constructor
    case outgoing_ne_nil =>
      intro hstatus
      apply (outgoing_ne_nil hstatus).imp_right
      intro hmem
      rw [List.append_nil]
      exact (List.mem_cons.mp hmem).resolve_left (notDrained hstatus).symm
    all_goals assumption
  | fail fault called =>
    apply settles_released rfl _ called
    rw [toggles_append, fault.toggles_eq]
    exact stopped
  | leave engaged called =>
    apply settles_released rfl _ called
    simpa using stopped
  | setUp status_eq _ called | start status_eq called | finish status_eq called
  | recover status_eq called =>
    obtain ⟨_, _, -, rfl⟩ := called
    constructor <;> simp_all
  | advertise status_eq _ _ called | ask status_eq _ _ _ _ _ _ called =>
    obtain ⟨_, _, -, rfl⟩ := called
    constructor <;> simp_all [Tunnel.isEstablished]
  | subscribe running notifying incomplete =>
    have nonempty := isEmpty_set_true s.subscriptions notifying
    constructor <;> simp_all
  | connect status_eq complete called =>
    obtain ⟨_, _, -, rfl⟩ := called
    have nonempty := isEmpty_of_isComplete complete
    constructor <;> simp_all
  | unsubscribe held attached =>
    constructor
    case unsubscribed =>
      intro terminal
      rw [contains_of_isEmpty (unsubscribed terminal)] at held
      cases held
    all_goals simp_all
  | gather status_eq parse_eq =>
    constructor <;> simp_all
  | @respond _ _ _ _ _ _ _ rest _ status_eq _ _ _ _ _ _ _ _ called =>
    obtain ⟨_, _, -, rfl⟩ := called
    have drained := queueDrained_mem waiting rest
    constructor <;> simp_all [Tunnel.isEstablished]
  | @sendMore _ rest _ status_eq outgoing_eq called =>
    obtain ⟨_, _, -, rfl⟩ := called
    have drained := queueDrained_mem waiting rest
    constructor <;> simp_all

/-! ### Between two calls -/

/-- What a session holds agrees with its status. -/
structure Agrees (s : Session η κ) : Prop where
  engagement : s.engagement.isSome ↔ s.status ∈ [.engagementReady, .connected, .started,
    .requestReceived, .userSelected, .responseSent]
  tunnel : s.tunnel.isEstablished ↔ s.status ∈ [.requestReceived, .userSelected, .responseSent]
  pending : s.pending.isSome ↔ s.status = .requestReceived
  reassembly : s.reassembly ≠ [] → s.status = .started
  outgoing_ne_nil : s.status = .userSelected → s.outgoing ≠ []
  outgoing_eq_nil : s.status ∉ [.userSelected, .responseSent] → s.outgoing = []
  /-- Advertising is started and stopped in turns. -/
  alternates : (toggles s.trace).IsChain (· ≠ ·)
  starts : ∀ first ∈ (toggles s.trace).head?, first = true
  /-- The last of these was a start. -/
  advertising : (toggles s.trace).getLast? = some true
    ↔ s.status ∈ [.engagementReady, .connected, .started]
  subscribed : s.status ∈ [.connected, .started, .requestReceived, .userSelected, .responseSent] →
    ∃ c, c.isNotifying ∧ s.subscriptions.contains c
  unsubscribed : s.status ∈ [.disconnected, .error] → ∀ c, s.subscriptions.contains c = false

theorem exists_contains {subscriptions : Subscriptions} (h : subscriptions.isEmpty = false) :
  ∃ c, c.isNotifying ∧ subscriptions.contains c
  := by
  obtain ⟨state, server2Client⟩ := subscriptions
  cases state with
  | true => exact ⟨.state, rfl, rfl⟩
  | false =>
    cases server2Client with
    | true => exact ⟨.server2Client, rfl, rfl⟩
    | false => cases h

theorem Settles.agrees {s : Session η κ} (h : Settles [] s) :
  Agrees s
  := by
  constructor
  case engagement =>
    rw [h.engagement]
    cases s.status with
    | _ => simp
  case tunnel =>
    rw [h.tunnel]
    cases s.status with
    | _ => simp
  case pending =>
    rw [h.pending, decide_eq_true_iff]
  case reassembly =>
    intro gathered
    by_contra hstatus
    exact gathered (h.reassembly hstatus)
  case outgoing_ne_nil =>
    intro hstatus
    exact (h.outgoing_ne_nil hstatus).resolve_right List.not_mem_nil
  case outgoing_eq_nil =>
    intro hstatus
    simp only [List.mem_cons, List.not_mem_nil, or_false, not_or] at hstatus
    exact h.outgoing_eq_nil hstatus.1 hstatus.2
  case alternates => exact h.alternates.chain.tail
  case starts => exact h.alternates.head_eq
  case advertising =>
    rw [h.alternates.getLast?_eq, h.advertising]
    cases s.status with
    | _ => simp
  case subscribed =>
    intro hstatus
    apply exists_contains (h.subscribed _)
    revert hstatus
    cases s.status with
    | _ => simp
  case unsubscribed =>
    intro hstatus
    apply contains_of_isEmpty (h.unsubscribed _)
    revert hstatus
    cases s.status with
    | _ => simp

theorem settles_fresh (supply : Supply) (host : η) :
  Settles [] (Session.fresh supply host : Session η κ)
  := by
  constructor
  case alternates => exact Alternates.nil
  all_goals simp [Session.fresh, Tunnel.isEstablished]

/-- What is settled up to some events is so up to others, as long as it is still to be reported
that the response is gone. -/
theorem Settles.of_mem {waiting waiting' : List Event} {s : Session η κ} (h : Settles waiting s)
    (hmem : .queueDrained ∈ waiting') :
  Settles waiting' s
  := { h with outgoing_ne_nil := fun _ => .inr hmem }

/-- A session holds what its status calls for wherever it is reached, but for the last fragment
of the response. -/
theorem Reached.settles {setup : Setup η κ} {s : Session η κ} (h : Reached setup s) :
  Settles [.queueDrained] s
  := by
  induction h with
  | fresh supply host => exact (settles_fresh supply host).of_mem List.mem_cons_self
  | @apply s event _ ih =>
    have awaited : Settles [event, .queueDrained] s :=
      ih.of_mem (List.mem_cons_of_mem event List.mem_cons_self)
    exact ((apply_step setup event s).settles awaited).of_mem List.mem_cons_self
  | outside host posted _ ih =>
    exact ⟨ih.engagement, ih.tunnel, ih.pending, ih.reassembly, ih.outgoing_ne_nil,
      ih.outgoing_eq_nil, ih.advertising, ih.alternates, ih.subscribed, ih.unsubscribed⟩

/-- Between any two calls a session holds what its status calls for. -/
theorem handled_agrees {s : Session η κ} (h : Handled s) :
  Agrees s
  := by
  apply Settles.agrees
  apply h.induction
  case fresh => exact settles_fresh
  case apply =>
    intro setup event waiting s hs
    exact (apply_step setup event s).settles hs
  case receive =>
    intro event s hs
    exact { hs with
      outgoing_ne_nil := fun hstatus =>
        (hs.outgoing_ne_nil hstatus).imp_right (List.mem_cons_of_mem event) }
  case outside =>
    intro host posted s hs
    exact ⟨hs.engagement, hs.tunnel, hs.pending, hs.reassembly, hs.outgoing_ne_nil,
      hs.outgoing_eq_nil, hs.advertising, hs.alternates, hs.subscribed, hs.unsubscribed⟩

/-- A radio that is ready, in front of a wallet with a document that has no items. -/
def emptyDocument : Setup Radio Plain.Encryption where
  credentials := .ofList [{
    id := "id"
    docType := "empty"
    issuerSigned := ⟨none, ⟨⟨[], .empty⟩, .empty, none, []⟩⟩
    privateKey := default }]
  anchors := ⟨[]⟩
  config := {}
  suite := .transparent
  provider := Plain.provider {}
  host := Radio.host

/-- A session that draws the same key and the same identifier again and again. -/
def unvaried : Session Radio κ :=
  .fresh ⟨fun _ => default, fun _ => .ofNat 1, 0, 0⟩ {}

/-- Setting up a session whose radio is ready leads to an engagement that is advertised. -/
theorem handled_agrees_engagementReady :
  ∃ s : Session Radio Plain.Encryption,
    Handled s ∧ s.status = .engagementReady ∧ Agrees s
  := by
  have run : (unvaried.handle emptyDocument 2 .setUp).map (fun result => result.2.status)
      = some .engagementReady := by
    decide +kernel
  obtain ⟨⟨acknowledgement, s⟩, handle_eq, status_eq⟩ := Option.map_eq_some_iff.mp run
  have handled : Handled s := .handle (.fresh _ _) handle_eq
  exact ⟨s, handled, status_eq, handled_agrees handled⟩

end Session

end Presentment
