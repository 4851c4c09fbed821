import Presentment.Disclosure.Item
import Presentment.Transfer.Channel

/-!
# Statuses and events

A presentation goes through a sequence of statuses.  What moves it on are events: of the
radio, of the reader, of the user, and of the session itself.
-/

namespace Presentment

/-- How far a presentation has come. -/
inductive TransferStatus where
  | initializing
  | initialized
  | engagementReady
  | connected
  | started
  | requestReceived
  | userSelected
  | responseSent
  | disconnected
  | error
  deriving DecidableEq, Repr

namespace TransferStatus

def all : List TransferStatus :=
  [.initializing, .initialized, .engagementReady, .connected, .started, .requestReceived,
    .userSelected, .responseSent, .disconnected, .error]

def name : TransferStatus → String
  | .initializing => "initializing"
  | .initialized => "initialized"
  | .engagementReady => "engagementReady"
  | .connected => "connected"
  | .started => "started"
  | .requestReceived => "requestReceived"
  | .userSelected => "userSelected"
  | .responseSent => "responseSent"
  | .disconnected => "disconnected"
  | .error => "error"

/-- Whether messages are being exchanged, so that a reader may go idle. -/
def isExchanging : TransferStatus → Bool
  | .started | .requestReceived | .userSelected | .responseSent => true
  | _ => false

/-- Whether a reader is attached. -/
def isConnected (s : TransferStatus) : Bool :=
  s == .connected || s.isExchanging

/-- Whether the presentation is over. -/
def isTerminal : TransferStatus → Bool
  | .disconnected | .error => true
  | _ => false

end TransferStatus

/-- The answer of the user to a request: whether to respond, and with which items, all of
them by default.  `cycle` is the number of the request that is answered. -/
structure Decision where
  accepted : Bool
  items : Option Selection
  cycle : Nat
  deriving DecidableEq

/-- What happens to a session. -/
inductive Event where
  | setUp
  | transportState (state : TransportState)
  | subscribed (characteristic : Characteristic)
  | unsubscribed (characteristic : Characteristic)
  | write (characteristic : Characteristic) (value : Bytes)
  /-- The radio takes more notifications. -/
  | readyToSendMore
  | consent (decision : Decision)
  | idleTimeout
  | recover
  /-- The last fragment of the response was taken by the radio. -/
  | queueDrained
  deriving DecidableEq

/-- The characteristics to which the reader is subscribed. -/
structure Subscriptions where
  state : Bool
  server2Client : Bool
  deriving DecidableEq, Repr

namespace Subscriptions

def empty : Subscriptions := ⟨false, false⟩

def full : Subscriptions := ⟨true, true⟩

def contains (s : Subscriptions) : Characteristic → Bool
  | .state => s.state
  | .server2Client => s.server2Client
  | .client2Server => false

/-- The set with a characteristic put in or taken out.  One that does not notify is never
held. -/
def set (s : Subscriptions) (c : Characteristic) (subscribed : Bool) : Subscriptions :=
  match c with
  | .state => { s with state := subscribed }
  | .server2Client => { s with server2Client := subscribed }
  | .client2Server => s

def size (s : Subscriptions) : Nat :=
  s.state.toNat + s.server2Client.toNat

def isEmpty (s : Subscriptions) : Bool :=
  s == empty

def isComplete (s : Subscriptions) : Bool :=
  s == full

end Subscriptions

end Presentment
