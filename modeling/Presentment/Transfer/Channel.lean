import Presentment.Text.Uuid

/-!
# The channel

The holder offers a service with three characteristics: `state`, on which the reader starts
and ends the exchange, and one for the messages of each direction.  The reader subscribes
to those on which the holder notifies it.
-/

namespace Presentment

/-- A characteristic of the service. -/
inductive Characteristic where
  | state
  | client2Server
  | server2Client
  deriving DecidableEq, Repr

namespace Characteristic

def all : List Characteristic := [.state, .client2Server, .server2Client]

def name : Characteristic → String
  | .state => "state"
  | .client2Server => "client2Server"
  | .server2Client => "server2Client"

def uuid : Characteristic → Uuid
  | .state => .ofNat 0x00000001a12348ce896b4c76973373e6
  | .client2Server => .ofNat 0x00000002a12348ce896b4c76973373e6
  | .server2Client => .ofNat 0x00000003a12348ce896b4c76973373e6

/-- The characteristic with the given identifier. -/
def ofUuid? (u : Uuid) : Option Characteristic :=
  all.find? (fun c => c.uuid = u)

/-- Whether the reader subscribes to the characteristic. -/
def isNotifying : Characteristic → Bool
  | .state => true
  | .client2Server => false
  | .server2Client => true

end Characteristic

/-- The power and permission of the radio. -/
inductive TransportState where
  | unknown
  | resetting
  | unsupported
  | unauthorized
  | poweredOff
  | ready
  deriving DecidableEq, Repr

namespace TransportState

def all : List TransportState :=
  [.unknown, .resetting, .unsupported, .unauthorized, .poweredOff, .ready]

def name : TransportState → String
  | .unknown => "unknown"
  | .resetting => "resetting"
  | .unsupported => "unsupported"
  | .unauthorized => "unauthorized"
  | .poweredOff => "poweredOff"
  | .ready => "ready"

end TransportState

/-- The answer to what the reader wrote. -/
inductive Acknowledgement where
  | success
  | rejected
  deriving DecidableEq, Repr

def Acknowledgement.name : Acknowledgement → String
  | .success => "Success"
  | .rejected => "Rejected"

namespace Channel

/-- What the reader writes to start the exchange. -/
def startMarker : Bytes := [0x01]

/-- What the reader writes to end the exchange. -/
def endMarker : Bytes := [0x02]

/-- The longest notification of a characteristic. -/
def maxUpdateLength : Nat := 512

end Channel

end Presentment
