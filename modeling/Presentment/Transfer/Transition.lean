import Presentment.Fragment
import Presentment.Transfer.Error
import Presentment.Transfer.Status

/-!
# Transitions

`transition` tells, from what a session looks like and an event, the next status, the
effects to carry out and the answer to the reader; `onEnter` adds the effects of entering a
status.  Both only decide: carrying out the effects is up to the session.
-/

namespace Presentment

/-- What a session is to do. -/
inductive Effect where
  | validateCredentials
  | probeTransport
  | setUpAgain
  | beginEngagement
  | startAdvertising
  | stopAdvertising
  | subscribe (characteristic : Characteristic)
  | unsubscribe (characteristic : Characteristic)
  | clearReassembly
  | appendFragment (payload : Bytes)
  | processRequest
  | buildResponse (items : Option Selection)
  | sendTermination
  | sendNext
  | teardown
  deriving DecidableEq

/-- The failures that follow from an event alone. -/
inductive Failure where
  | transportUnauthorized
  | transportUnsupported
  | userRejected
  deriving DecidableEq, Repr

def Failure.toError : Failure → TransferError
  | .transportUnauthorized => .transportUnauthorized
  | .transportUnsupported => .transportUnsupported
  | .userRejected => .userRejected

/-- What a session looks like to the table. -/
structure Snapshot where
  status : TransferStatus
  subscriptions : Subscriptions
  cycle : Nat
  deriving DecidableEq, Repr

/-- What an event leads to; without a next status the session keeps its own. -/
structure Transition where
  next : Option TransferStatus := none
  effects : List Effect := []
  acknowledgement : Acknowledgement := .success
  failure : Option Failure := none
  deriving DecidableEq

namespace Transition

def stay : Transition := {}

def reject : Transition := { acknowledgement := .rejected }

def enter (next : TransferStatus) (effects : List Effect) : Transition :=
  { next := some next, effects }

def fail (failure : Failure) (effects : List Effect) : Transition :=
  { next := some .error, effects, failure := some failure }

/-- The reader subscribes: both subscriptions make the connection. -/
def ofSubscribed (s : Snapshot) (c : Characteristic) : Transition :=
  if !c.isNotifying || s.status.isTerminal || s.subscriptions.contains c then stay
  else
    let connects := s.status == .engagementReady && (s.subscriptions.set c true).isComplete
    { next := if connects then some .connected else none, effects := [.subscribe c] }

/-- The reader cancels a subscription: without any the connection is lost. -/
def ofUnsubscribed (s : Snapshot) (c : Characteristic) : Transition :=
  if !s.subscriptions.contains c then stay
  else
    let leaves := s.status.isConnected && (s.subscriptions.set c false).isEmpty
    { next := if leaves then some .disconnected else none, effects := [.unsubscribe c] }

/-- The reader writes: markers to `state`, and fragments of its request between them.  What
it sends before the start marker is not looked at. -/
def ofWrite (status : TransferStatus) (c : Characteristic) (value : Bytes) : Transition :=
  match c, status with
  | .state, .connected => if value = Channel.startMarker then enter .started [] else reject
  | .state, .responseSent => if value = Channel.endMarker then enter .disconnected [] else reject
  | .client2Server, .connected => stay
  | .client2Server, .started => match value with
    | [] => reject
    | first :: payload => match Fragment.Header.ofByte first with
      | .ok .more => { effects := [.appendFragment payload] }
      | .ok .last => enter .requestReceived [.appendFragment payload]
      | .error _ => reject
  | _, _ => reject

/-- The radio changes its state. -/
def ofTransportState (status : TransferStatus) (state : TransportState) : Transition :=
  match state with
  | .ready =>
    if status = .initialized then enter .engagementReady [.beginEngagement, .startAdvertising]
    else stay
  | .unauthorized => if status.isTerminal then stay else fail .transportUnauthorized []
  | .unsupported => if status.isTerminal then stay else fail .transportUnsupported []
  | .poweredOff =>
    if status = .engagementReady ∨ status.isConnected then enter .disconnected [] else stay
  | _ => stay

/-- The user decides; only the decision on the present request counts. -/
def ofDecision (s : Snapshot) (decision : Decision) : Transition :=
  if s.status = .requestReceived ∧ decision.cycle = s.cycle then
    if decision.accepted then enter .userSelected [.buildResponse decision.items, .sendNext]
    else fail .userRejected [.sendTermination]
  else stay

end Transition

/-- What an event leads to. -/
def transition (s : Snapshot) (event : Event) : Transition :=
  match event with
  | .setUp =>
    if s.status = .initializing then .enter .initialized [.validateCredentials] else .stay
  | .transportState state => .ofTransportState s.status state
  | .subscribed c => .ofSubscribed s c
  | .unsubscribed c => .ofUnsubscribed s c
  | .write c value => .ofWrite s.status c value
  | .readyToSendMore =>
    if s.status = .userSelected then { effects := [.sendNext] } else .stay
  | .queueDrained => if s.status = .userSelected then .enter .responseSent [] else .stay
  | .consent decision => .ofDecision s decision
  | .idleTimeout => if s.status.isExchanging then .enter .disconnected [] else .stay
  | .recover => if s.status = .error then .enter .initializing [.setUpAgain] else .stay

/-- The effects of entering `next` from `previous`. -/
def onEnter (previous next : TransferStatus) : List Effect :=
  if previous = next then []
  else match next with
    | .initialized => [.probeTransport]
    | .started => [.clearReassembly]
    | .requestReceived => [.stopAdvertising, .processRequest]
    | .disconnected => [.teardown]
    | .error => if previous = .disconnected then [] else [.teardown]
    | _ => []

end Presentment
