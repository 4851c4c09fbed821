import Presentment.Transfer.Prompt
import Presentment.Transfer.Status
import Presentment.Transfer.Error

/-!
# The host

A session lives in an application that offers it a radio and is told of its progress.  The
application may post events while it is called, such as the answer of the user to a prompt;
they wait until the session has finished with the present event.
-/

namespace Presentment

/-- What a call to a host of state `η` yields: its answer, the events posted meanwhile, and
the host after the call. -/
structure Reply (η α : Type) where
  answer : α
  posted : List Event
  host : η

/-- The application around a session, whose state is `η`. -/
structure Host (η : Type) where
  transportState : η → TransportState
  /-- The longest notification that the radio takes. -/
  maxUpdateLength : η → Nat
  /-- Advertises the service, or refuses to with a reason. -/
  startAdvertising : (service : Uuid) → η → Reply η (Option String)
  stopAdvertising : η → Reply η Unit
  /-- Hands a notification to the radio, which may refuse it. -/
  notify : Characteristic → (value : Bytes) → η → Reply η Bool
  statusChanged : TransferStatus → η → Reply η Unit
  /-- Asks the user for consent; the answer comes as an event with the same cycle. -/
  requestReceived : Prompt → (cycle : Nat) → η → Reply η Unit
  finishedWithError : TransferError → η → Reply η Unit

end Presentment
