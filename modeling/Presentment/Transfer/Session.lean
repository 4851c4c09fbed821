import Presentment.Transfer.Host
import Presentment.Transfer.Transition
import Presentment.Transfer.Tunnel
import Presentment.Wallet.TransferInfo

/-!
# Sessions

A `Session` owns everything that one presentation needs.  It keeps a trace of what it has
done: what it told the host, and when it used its keys.
-/

namespace Presentment

/-- What a session is set up with. -/
structure Setup (η κ : Type) extends TransferInfo where
  suite : CipherSuite
  provider : SecurityProvider κ
  host : Host η

/-- Something a session does. -/
inductive Action where
  | statusChanged (status : TransferStatus)
  | advertise (service : Uuid) (refusal : Option String)
  | stopAdvertising
  | notify (characteristic : Characteristic) (value : Bytes) (accepted : Bool)
  | prompt (prompt : Prompt) (cycle : Nat)
  | finishedWithError (error : TransferError)
  /-- Keys are derived with the ephemeral key of an engagement. -/
  | derive (engagement : Engagement)
  | encrypt (text : Bytes)
  | decrypt (ciphertext : Bytes)
  /-- A message with data is queued for the reader. -/
  | queue (message : Bytes)

/-- A presentation, in a host of state `η`, with session encryption of state `κ`. -/
structure Session (η κ : Type) where
  status : TransferStatus
  subscriptions : Subscriptions
  isAdvertising : Bool
  /-- What has come of the request. -/
  reassembly : Bytes
  /-- The fragments of the response that the radio has not taken yet. -/
  outgoing : List Bytes
  engagement : Option Engagement
  tunnel : Tunnel κ
  /-- The request that waits for the decision of the user. -/
  pending : Option (List ItemsRequest)
  /-- How many requests have been shown to the user.  An implementation counts in a word of 64 bits,
  which no session lives to fill; here the count has no bound, so no two requests share a number. -/
  cycle : Nat
  lastError : Option TransferError
  /-- The events that were posted and not applied yet. -/
  posted : List Event
  supply : Supply
  host : η
  trace : List Action

namespace Session

variable {η κ α : Type}

/-- A session that has not been set up. -/
def fresh (supply : Supply) (host : η) : Session η κ where
  status := .initializing
  subscriptions := .empty
  isAdvertising := false
  reassembly := []
  outgoing := []
  engagement := none
  tunnel := .closed
  pending := none
  cycle := 0
  lastError := none
  posted := []
  supply := supply
  host := host
  trace := []

/-- Adds an event to those that wait. -/
def post (event : Event) (s : Session η κ) : Session η κ :=
  { s with posted := s.posted ++ [event] }

/-- Adds to the trace. -/
def record (action : Action) (s : Session η κ) : Session η κ :=
  { s with trace := s.trace ++ [action] }

/-- Calls the host, which `action` describes. -/
def call (f : η → Reply η α) (action : α → Action) (s : Session η κ) : α × Session η κ :=
  let reply := f s.host
  (reply.answer, { s with
    host := reply.host
    posted := s.posted ++ reply.posted
    trace := s.trace ++ [action reply.answer] })

/-- What the session looks like to the table of transitions. -/
def snapshot (s : Session η κ) : Snapshot :=
  ⟨s.status, s.subscriptions, s.cycle⟩

/-- Enters a status: the effects of entering it. -/
def enter (setup : Setup η κ) (next : TransferStatus) (s : Session η κ) :
    List Effect × Session η κ :=
  if s.status = next then ([], s)
  else
    let (_, entered) := { s with status := next }.call (setup.host.statusChanged next)
      (fun _ => .statusChanged next)
    (onEnter s.status next, entered)

/-- How many bytes of a message one notification carries: the header takes one byte of the
longest notification. -/
def block (setup : Setup η κ) (s : Session η κ) : BlockSize :=
  .atLeastOne (min setup.config.maxFragmentSize (setup.host.maxUpdateLength s.host) - 1)

/-- Notifies the reader of fragments until the radio refuses one: those that were not
accepted. -/
def send (setup : Setup η κ) : List Bytes → Session η κ → List Bytes × Session η κ
  | [], s => ([], s)
  | fragment :: rest, s =>
    let (accepted, s) := s.call (setup.host.notify .server2Client fragment)
      (fun accepted => .notify .server2Client fragment accepted)
    if accepted then send setup rest s else (fragment :: rest, s)

/-- Tells the reader a status in the clear, as far as the radio takes it. -/
def sendStatus (setup : Setup η κ) (status : SessionStatus) (s : Session η κ) : Session η κ :=
  let message := Cbor.encode (SessionData.statusOnly status)
  (send setup (Fragment.frame message (s.block setup)) s).2

/-- Hands waiting fragments of the response to the radio; when none is left, the queue is
drained. -/
def sendNext (setup : Setup η κ) (s : Session η κ) : Option Event × Session η κ :=
  let (rest, s) := send setup s.outgoing s
  (if rest.isEmpty then some .queueDrained else none, { s with outgoing := rest })

def stopAdvertising (setup : Setup η κ) (s : Session η κ) : Session η κ :=
  if s.isAdvertising then
    let (_, s) := s.call setup.host.stopAdvertising (fun _ => .stopAdvertising)
    { s with isAdvertising := false }
  else s

/-- Gives up everything that belongs to the engagement. -/
def teardown (setup : Setup η κ) (s : Session η κ) : Session η κ :=
  { s.stopAdvertising setup with
    engagement := none
    tunnel := .closed
    reassembly := []
    outgoing := []
    pending := none
    subscriptions := .empty }

end Session

end Presentment
