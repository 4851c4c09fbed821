import Presentment.Transfer.Run

/-!
# Actors

An actor runs a session on its own.  It takes commands from its owner, through a queue, and
events that were posted; while messages are being exchanged, it also counts how long it has
been waiting, and when that is too long, the reader has gone idle.  Of several of these
sources that are ready, any one may be taken next.

`step` takes the next thing from a given source.  Like the handling of an event it takes a
bound on the number of events that follow.
-/

namespace Presentment

/-- What the owner of a session may ask for; an answer is given under the number that comes
with the question. -/
inductive Command where
  /-- Applies an event, and answers the acknowledgement if a number is given. -/
  | event (event : Event) (question : Option Nat)
  | status (question : Nat)
  | shutdown

/-- An answer of an actor. -/
inductive Answer where
  | acknowledged (acknowledgement : Acknowledgement)
  | status (status : TransferStatus)
  deriving DecidableEq

/-- Where an actor takes the next thing from. -/
inductive Source where
  | command
  | posted
  | timer
  deriving DecidableEq, Repr

/-- A session that runs on its own; times are in milliseconds. -/
structure Actor (η κ : Type) where
  session : Session η κ
  commands : List Command
  /-- Whether the owner can still send commands. -/
  isOwned : Bool
  isRunning : Bool
  now : Nat
  /-- Since when the actor has been waiting. -/
  waitingSince : Nat
  answers : List (Nat × Answer)
  /-- The events that were applied, with the times at which they were. -/
  applied : List (Nat × Event)

namespace Actor

variable {η κ : Type}

/-- An actor that starts to wait at time 0. -/
def spawn (session : Session η κ) : Actor η κ where
  session := session
  commands := []
  isOwned := true
  isRunning := true
  now := 0
  waitingSince := 0
  answers := []
  applied := []

/-- Queues a command, unless the actor has stopped. -/
def send? (command : Command) (a : Actor η κ) : Option (Actor η κ) :=
  if a.isRunning then some { a with commands := a.commands ++ [command] } else none

/-- Posts an event, unless the actor has stopped. -/
def post? (event : Event) (a : Actor η κ) : Option (Actor η κ) :=
  if a.isRunning then some { a with session := a.session.post event } else none

/-- The owner gives the actor up: it stops when the commands that were queued are done. -/
def disown (a : Actor η κ) : Actor η κ :=
  { a with isOwned := false }

/-- What was answered to a question. -/
def answer? (question : Nat) (a : Actor η κ) : Option Answer :=
  (a.answers.find? (fun answer => answer.1 = question)).map (·.2)

/-- For how long the reader may be idle, in milliseconds. -/
def idleTimeout (setup : Setup η κ) : Nat :=
  1000 * setup.config.idleTimeout

/-- When the reader has gone idle, if nothing else happens. -/
def deadline? (setup : Setup η κ) (a : Actor η κ) : Option Nat :=
  if a.isRunning && a.session.status.isExchanging then
    some (a.waitingSince + idleTimeout setup)
  else none

/-- Whether something can be taken from a source. -/
def isReady (setup : Setup η κ) (a : Actor η κ) : Source → Bool
  | .command => !a.commands.isEmpty || !a.isOwned
  | .posted => !a.session.posted.isEmpty
  | .timer => (a.deadline? setup).any (· ≤ a.now)

/-- Stops: the commands that are still queued are never done. -/
def stop (a : Actor η κ) : Actor η κ :=
  { a with isRunning := false, commands := [] }

/-- Applies an event to the session and waits again. -/
def apply (setup : Setup η κ) (fuel : Nat) (event : Event) (question : Option Nat)
    (a : Actor η κ) : Option (Actor η κ) := do
  let (acknowledgement, session) ← a.session.handle setup fuel event
  return { a with
    session := session
    waitingSince := a.now
    applied := a.applied ++ [(a.now, event)]
    answers := a.answers
      ++ question.toList.map (fun question => (question, .acknowledged acknowledgement)) }

/-- Does a command. -/
def obey (setup : Setup η κ) (fuel : Nat) (command : Command) (a : Actor η κ) :
    Option (Actor η κ) :=
  match command with
  | .event event question => a.apply setup fuel event question
  | .status question => some { a with
      waitingSince := a.now
      answers := a.answers ++ [(question, .status a.session.status)] }
  | .shutdown => some a.stop

/-- Takes the next thing from a source, which has to be ready. -/
def step (setup : Setup η κ) (fuel : Nat) (source : Source) (a : Actor η κ) :
    Option (Actor η κ) :=
  match source with
  | .command => match a.commands with
    | [] => some a.stop
    | command :: commands => { a with commands := commands }.obey setup fuel command
  | .posted => match a.session.posted with
    | [] => some a
    | event :: posted =>
      { a with session := { a.session with posted := posted } }.apply setup fuel event none
  | .timer => a.apply setup fuel .idleTimeout none

/-- The first source that is ready, if the actor is running. -/
def nextSource? (setup : Setup η κ) (a : Actor η κ) : Option Source :=
  if a.isRunning then [.command, .posted, .timer].find? (a.isReady setup) else none

/-- Runs until nothing is ready, at most `steps` times. -/
def settle (setup : Setup η κ) (fuel : Nat) : (steps : Nat) → Actor η κ → Option (Actor η κ)
  | 0, _ => none
  | steps + 1, a => match a.nextSource? setup with
    | none => some a
    | some source => (a.step setup fuel source).bind (settle setup fuel steps)

/-- Lets time pass up to `time`, with the timer going off when it is due, at most `steps`
times. -/
def waitUntil (setup : Setup η κ) (fuel time : Nat) : (steps : Nat) → Actor η κ →
    Option (Actor η κ)
  | 0, _ => none
  | steps + 1, a =>
    match (a.deadline? setup).filter (· ≤ time) with
    | none => some { a with now := max a.now time }
    | some deadline => do
      let a ← { a with now := max a.now deadline }.settle setup fuel steps
      waitUntil setup fuel time steps a

end Actor

end Presentment
