import Presentment.Proofs.Transfer.Exchange

/-!
# What an event does

`Step` tells what applying one event can do to a session: each constructor names the status
in which it happens, what the session holds afterwards, and what it did in the meantime.  What
can fail, `Fault` tells.
-/

namespace Presentment.Session

variable {η κ : Type}

/-- The event that follows from a failure, if it is to be recovered from. -/
def recovery (setup : Setup η κ) (e : TransferError) : List Event :=
  if setup.config.autoRecover && e.isRecoverable then [.recover] else []

/-- What is done when the engagement is given up. -/
def giveUp (e : TransferError) (s : Session η κ) : List Action :=
  .statusChanged .error :: s.stops ++ [.finishedWithError e]

/-- What can fail when an event is applied: the failure, the supply that is left, and everything
that is done until the engagement is given up. -/
inductive Fault (setup : Setup η κ) (s : Session η κ) :
    Event → TransferError → Supply → List Action → Prop
  | credentials
      (status_eq : s.status = .initializing)
      (empty : setup.credentials.isEmpty) :
      Fault setup s .setUp .invalidCredentialInput s.supply
        ([Action.statusChanged .initialized] ++ s.giveUp .invalidCredentialInput)
  | engagement {cause : HolderError} {supply : Supply}
      (status_eq : s.status = .initialized)
      (generate_eq : Engagement.generate setup.suite s.supply = (.error cause, supply)) :
      Fault setup s (.transportState .ready) (.engagement cause) supply
        ([Action.statusChanged .engagementReady] ++ s.giveUp (.engagement cause))
  /-- The radio refuses to advertise the service. -/
  | refusal {engagement : Engagement} {supply : Supply} {reason : String}
      (status_eq : s.status = .initialized)
      (generate_eq : Engagement.generate setup.suite s.supply = (.ok engagement, supply))
      (refused : (setup.host.startAdvertising engagement.service
          (setup.host.replay [.statusChanged .engagementReady] s.host).2).answer = some reason) :
      Fault setup s (.transportState .ready) (.transport engagement.service reason) supply
        ([Action.statusChanged .engagementReady,
            Action.advertise engagement.service (some reason)]
          ++ s.giveUp (.transport engagement.service reason))
  /-- There is no radio that may be used. -/
  | radio {state : TransportState} {failure : Failure}
      (running : s.status.isTerminal = false)
      (fail_eq : Transition.ofTransportState s.status state = .fail failure []) :
      Fault setup s (.transportState state) failure.toError s.supply (s.giveUp failure.toError)
  | request {value payload : Bytes} {e : TransferError} {done told : List Action}
      (status_eq : s.status = .started)
      (parse_eq : Fragment.parse value = .ok (.last, payload))
      (unread : Unread setup (s.reassembly ++ payload) s.engagement e done)
      (tells : Tells setup
        (setup.host.replay ([Action.statusChanged .requestReceived] ++ s.stops ++ done) s.host).2
        e.sessionStatus? told) :
      Fault setup s (.write .client2Server value) e s.supply
        ([Action.statusChanged .requestReceived] ++ s.stops ++ (done ++ told)
          ++ [Action.statusChanged .error, Action.finishedWithError e])
  | response {decision : Decision} {e : TransferError} {done told : List Action}
      {status : Option SessionStatus}
      (status_eq : s.status = .requestReceived)
      (accepted : decision.accepted)
      (cycle_eq : decision.cycle = s.cycle)
      (unanswered : Unanswered setup s decision.items e done status)
      (tells : Tells setup (setup.host.replay [.statusChanged .userSelected] s.host).2 status told) :
      Fault setup s (.consent decision) e s.supply
        ([Action.statusChanged .userSelected] ++ (done ++ told) ++ s.giveUp e)
  | rejection {decision : Decision} {told : List Action}
      (status_eq : s.status = .requestReceived)
      (rejected : decision.accepted = false)
      (cycle_eq : decision.cycle = s.cycle)
      (tells : Tells setup (setup.host.replay [.statusChanged .error] s.host).2
        (some .termination) told) :
      Fault setup s (.consent decision) .userRejected s.supply
        ([Action.statusChanged .error] ++ told ++ s.stops
          ++ [Action.finishedWithError .userRejected])

section

variable {setup : Setup η κ} {s : Session η κ} {event : Event} {e : TransferError}
  {supply : Supply} {actions : List Action}

theorem toggles_giveUp (e : TransferError) (s : Session η κ) :
  toggles (s.giveUp e) = toggles s.stops
  := by
  simp [giveUp, Action.toggle?]

@[simp]
theorem gates_giveUp (e : TransferError) (s : Session η κ) :
  gates (s.giveUp e) = []
  := by
  simp [giveUp, Action.isGate]

/-- A failure stops advertising, if it was started, and does not start it. -/
theorem Fault.toggles_eq (fault : Fault setup s event e supply actions) :
  toggles actions = toggles s.stops
  := by
  cases fault with
  | credentials | engagement | refusal | radio => simp [toggles_giveUp, Action.toggle?]
  | request _ _ unread tells => simp [unread.toggles_eq, tells.toggles_eq, Action.toggle?]
  | response _ _ _ unanswered tells =>
    simp [unanswered.toggles_eq, tells.toggles_eq, toggles_giveUp, Action.toggle?]
  | rejection _ _ _ tells => simp [tells.toggles_eq, Action.toggle?]

/-- Nobody is asked on the way to a failure, and no response is queued. -/
theorem Fault.gates_eq (fault : Fault setup s event e supply actions) :
  gates actions = []
  := by
  cases fault with
  | credentials | engagement | refusal | radio => simp [Action.isGate]
  | request _ _ unread tells => simp [unread.gates_eq, tells.gates_eq, Action.isGate]
  | response _ _ _ unanswered tells => simp [unanswered.gates_eq, tells.gates_eq, Action.isGate]
  | rejection _ _ _ tells => simp [tells.gates_eq, Action.isGate]

end

/-- What applying an event does to a session: the event, the events that follow, and the
session after it. -/
inductive Step (setup : Setup η κ) (s : Session η κ) : Event → List Event → Session η κ → Prop
  | stay {event : Event}
      (next_eq : (transition s.snapshot event).next = none)
      (effects_eq : (transition s.snapshot event).effects = []) :
      Step setup s event [] s
  /-- Something failed, and the engagement is given up. -/
  | fail {event : Event} {e : TransferError} {supply : Supply} {actions : List Action}
      {s' : Session η κ}
      (fault : Fault setup s event e supply actions)
      (called : Called setup actions
        { s.released .error with
          supply := supply
          lastError := some e } s') :
      Step setup s event (recovery setup e) s'
  /-- The presentation ends, and the engagement is given up. -/
  | leave {event : Event} {s' : Session η κ}
      (engaged : s.status = .engagementReady ∨ s.status.isConnected)
      (called : Called setup (.statusChanged .disconnected :: s.stops)
        (s.released .disconnected) s')
      (next_eq : (transition s.snapshot event).next = some .disconnected) :
      Step setup s event [] s'
  | setUp {s' : Session η κ}
      (status_eq : s.status = .initializing)
      (nonempty : setup.credentials.isEmpty = false)
      (called : Called setup [.statusChanged .initialized] { s with status := .initialized } s') :
      Step setup s .setUp [.transportState (setup.host.transportState s'.host)] s'
  | advertise {engagement : Engagement} {supply : Supply} {s' : Session η κ}
      (status_eq : s.status = .initialized)
      (generate_eq : Engagement.generate setup.suite s.supply = (.ok engagement, supply))
      (willing : (setup.host.startAdvertising engagement.service
          (setup.host.replay [.statusChanged .engagementReady] s.host).2).answer = none)
      (called : Called setup [.statusChanged .engagementReady, .advertise engagement.service none]
        { s with
          status := .engagementReady
          isAdvertising := true
          engagement := some engagement
          tunnel := .closed
          supply := supply } s') :
      Step setup s (.transportState .ready) [] s'
  | subscribe {c : Characteristic}
      (running : s.status.isTerminal = false)
      (notifying : c.isNotifying)
      (incomplete : ¬(s.status = .engagementReady ∧ (s.subscriptions.set c true).isComplete)) :
      Step setup s (.subscribed c) [] { s with subscriptions := s.subscriptions.set c true }
  /-- The last subscription makes the connection. -/
  | connect {c : Characteristic} {s' : Session η κ}
      (status_eq : s.status = .engagementReady)
      (complete : (s.subscriptions.set c true).isComplete)
      (called : Called setup [.statusChanged .connected]
        { s with
          status := .connected
          subscriptions := s.subscriptions.set c true } s') :
      Step setup s (.subscribed c) [] s'
  | unsubscribe {c : Characteristic}
      (held : s.subscriptions.contains c)
      (attached : ¬(s.status.isConnected ∧ (s.subscriptions.set c false).isEmpty)) :
      Step setup s (.unsubscribed c) [] { s with subscriptions := s.subscriptions.set c false }
  | start {s' : Session η κ}
      (status_eq : s.status = .connected)
      (called : Called setup [.statusChanged .started]
        { s with
          status := .started
          reassembly := [] } s') :
      Step setup s (.write .state Channel.startMarker) [] s'
  | gather {value payload : Bytes}
      (status_eq : s.status = .started)
      (parse_eq : Fragment.parse value = .ok (.more, payload)) :
      Step setup s (.write .client2Server value) []
        { s with reassembly := s.reassembly ++ payload }
  /-- The last fragment has come, and the user is asked. -/
  | ask {value payload text : Bytes} {establishment : SessionEstablishment}
      {engagement : Engagement} {state state' : κ} {request : DeviceRequest}
      {readerAuth : Option ReaderAuthOutcome} {s' : Session η κ}
      (status_eq : s.status = .started)
      (parse_eq : Fragment.parse value = .ok (.last, payload))
      (read_eq : readEstablishment (s.reassembly ++ payload) s.engagement
        = .ok (establishment, engagement))
      (derive_eq : setup.provider.derive establishment engagement .qr = .ok state)
      (decrypt_eq : setup.provider.decrypt establishment.data state = (.ok text, state'))
      (decode_eq : Cbor.decode text = .ok request)
      (judge_eq : judgeReader setup (.established state') request = .ok readerAuth)
      (called : Called setup (.statusChanged .requestReceived :: s.stops
          ++ [Action.derive engagement, Action.decrypt establishment.data,
            Action.prompt (promptFor setup.credentials request.itemsRequests readerAuth)
              (s.cycle + 1)])
        { s with
          status := .requestReceived
          isAdvertising := false
          reassembly := []
          tunnel := .established state'
          cycle := s.cycle + 1
          pending := some request.itemsRequests } s') :
      Step setup s (.write .client2Server value) [] s'
  /-- The user accepts, and the response is queued and sent as far as possible. -/
  | respond {decision : Decision} {requests : List ItemsRequest} {response : DeviceResponse}
      {state state' : κ} {data : Bytes} {sent rest : List Bytes}
      {s' : Session η κ}
      (status_eq : s.status = .requestReceived)
      (accepted : decision.accepted)
      (cycle_eq : decision.cycle = s.cycle)
      (pending_eq : s.pending = some requests)
      (nonempty : (Disclosure.filter setup.credentials
        (.verifier requests decision.items)).isEmpty = false)
      (response_eq : makeResponse setup s.tunnel
          (Disclosure.filter setup.credentials (.verifier requests decision.items))
        = .ok response)
      (tunnel_eq : s.tunnel = .established state)
      (encrypt_eq : setup.provider.encrypt (Cbor.encode response) state = (.ok data, state'))
      (frame_eq : Fragment.frame (responseMessage data)
          (setup.block (setup.host.replay [.statusChanged .userSelected] s.host).2)
        = sent ++ rest)
      (called : Called setup ([Action.statusChanged .userSelected,
            Action.encrypt (Cbor.encode response), Action.queue (responseMessage data)]
          ++ notices sent rest)
        { s with
          status := .userSelected
          pending := none
          tunnel := .established state'
          outgoing := rest } s') :
      Step setup s (.consent decision) (if rest.isEmpty then [.queueDrained] else []) s'
  | sendMore {sent rest : List Bytes} {s' : Session η κ}
      (status_eq : s.status = .userSelected)
      (outgoing_eq : s.outgoing = sent ++ rest)
      (called : Called setup (notices sent rest) { s with outgoing := rest } s') :
      Step setup s .readyToSendMore (if rest.isEmpty then [.queueDrained] else []) s'
  | finish {s' : Session η κ}
      (status_eq : s.status = .userSelected)
      (called : Called setup [.statusChanged .responseSent] { s with status := .responseSent } s') :
      Step setup s .queueDrained [] s'
  | recover {s' : Session η κ}
      (status_eq : s.status = .error)
      (called : Called setup [.statusChanged .initializing] { s with status := .initializing } s') :
      Step setup s .recover [.setUp] s'

/-- Whatever a step does, the trace tells, and the host takes it so. -/
theorem Step.took {setup : Setup η κ} {s s' : Session η κ} {event : Event} {followUps : List Event}
    (step : Step setup s event followUps s') :
  ∃ actions, Took setup actions s s'
  := by
  cases step with
  | stay | subscribe | unsubscribe | gather =>
    exact ⟨[], rfl, (List.append_nil _).symm, (List.append_nil _).symm⟩
  | fail _ called | leave _ called | setUp _ _ called | advertise _ _ _ called
  | connect _ _ called | start _ called | ask _ _ _ _ _ _ _ called
  | respond _ _ _ _ _ _ _ _ _ called | sendMore _ _ called | finish _ called
  | recover _ called =>
    exact ⟨_, called.tookFrom rfl rfl rfl⟩

end Presentment.Session
