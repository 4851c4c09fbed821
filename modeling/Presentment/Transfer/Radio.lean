import Presentment.Transfer.Host

/-!
# A radio with credits

The smallest host: a radio that takes as many notifications as it has credits, and a user
whose answer is settled in advance.
-/

namespace Presentment

/-- A radio, and the user in front of it. -/
structure Radio where
  state : TransportState := .ready
  /-- How many notifications are taken; any number by default. -/
  credits : Option Nat := none
  maxUpdateLength : Nat := Channel.maxUpdateLength
  /-- Why advertising is refused. -/
  refusal : Option String := none
  /-- What the user answers to a prompt at once; without it, the prompt is put aside. -/
  answer : Option (Prompt → (cycle : Nat) → List Event) := none
  /-- The cycles of the prompts that were put aside, the last one first. -/
  asked : List Nat := []
  /-- The notifications that were taken. -/
  taken : List Bytes := []

namespace Radio

/-- Takes a notification, if there is a credit left. -/
def notify (value : Bytes) (r : Radio) : Reply Radio Bool :=
  if r.credits = some 0 then ⟨false, [], r⟩
  else ⟨true, [], { r with credits := r.credits.map (· - 1), taken := r.taken ++ [value] }⟩

/-- Shows a prompt to the user. -/
def ask (prompt : Prompt) (cycle : Nat) (r : Radio) : Reply Radio Unit :=
  match r.answer with
  | some answer => ⟨(), answer prompt cycle, r⟩
  | none => ⟨(), [], { r with asked := cycle :: r.asked }⟩

/-- The host that a radio and its user make. -/
def host : Host Radio where
  transportState := Radio.state
  maxUpdateLength := Radio.maxUpdateLength
  startAdvertising _ r := ⟨r.refusal, [], r⟩
  stopAdvertising r := ⟨(), [], r⟩
  notify _ value r := r.notify value
  statusChanged _ r := ⟨(), [], r⟩
  requestReceived prompt cycle r := r.ask prompt cycle
  finishedWithError _ r := ⟨(), [], r⟩

end Radio

end Presentment
