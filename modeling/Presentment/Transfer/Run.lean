import Presentment.Transfer.Exchange

/-!
# Running a session

`apply` applies one event: it asks the table of transitions what to do, carries out the
effects in order, and reports a failure to the host.  An effect that fails takes the session
to the status `error`, and the effects of entering it replace the ones that were left.

Effects and failures lead to further events, and the host may post some as well.  `handle`
applies an event with everything that follows from it.  As nothing bounds how often a
session recovers and fails again, it takes the number of further events that are applied at
most, and yields nothing if that is too low.
-/

namespace Presentment.Session

variable {η κ : Type}

/-- Carries out an effect: the event that follows from it, if there is one. -/
def run (setup : Setup η κ) (effect : Effect) (s : Session η κ) :
    Except TransferError (Option Event) × Session η κ :=
  match effect with
  | .validateCredentials =>
    if setup.credentials.isEmpty then (.error .invalidCredentialInput, s) else (.ok none, s)
  | .probeTransport => (.ok (some (.transportState (setup.host.transportState s.host))), s)
  | .setUpAgain => (.ok (some .setUp), s)
  | .beginEngagement => andThen (s.beginEngagement setup) fun _ s => (.ok none, s)
  | .startAdvertising => andThen (s.startAdvertising setup) fun _ s => (.ok none, s)
  | .stopAdvertising => (.ok none, s.stopAdvertising setup)
  | .subscribe c => (.ok none, { s with subscriptions := s.subscriptions.set c true })
  | .unsubscribe c => (.ok none, { s with subscriptions := s.subscriptions.set c false })
  | .clearReassembly => (.ok none, { s with reassembly := [] })
  | .appendFragment payload => (.ok none, { s with reassembly := s.reassembly ++ payload })
  | .processRequest => andThen (s.answerRequest setup) fun _ s => (.ok none, s)
  | .buildResponse items => andThen (s.buildResponse setup items) fun _ s => (.ok none, s)
  | .sendTermination => (.ok none, s.sendStatus setup .termination)
  | .sendNext => let (event, s) := s.sendNext setup; (.ok event, s)
  | .teardown => (.ok none, s.teardown setup)

/-- A session in the middle of an event. -/
structure Progress (η κ : Type) where
  session : Session η κ
  /-- The first failure. -/
  failure : Option TransferError
  /-- The events that follow. -/
  followUps : List Event

namespace Progress

/-- Takes in the outcome of an effect. -/
def update (p : Progress η κ) (outcome : Except TransferError (Option Event) × Session η κ) :
    Progress η κ :=
  match outcome with
  | (.ok event, s) => { p with session := s, followUps := p.followUps ++ event.toList }
  | (.error e, s) => { p with session := s, failure := p.failure <|> some e }

/-- Carries out effects, whether they fail or not. -/
def persist (setup : Setup η κ) (effects : List Effect) (p : Progress η κ) : Progress η κ :=
  effects.foldl (fun p effect => p.update (p.session.run setup effect)) p

/-- Carries out effects; the first one that fails takes the session to the status `error`. -/
def perform (setup : Setup η κ) : List Effect → Progress η κ → Progress η κ
  | [], p => p
  | effect :: rest, p =>
    let outcome := p.session.run setup effect
    let p := p.update outcome
    match outcome.1 with
    | .ok _ => perform setup rest p
    | .error _ =>
      if p.session.status = .error then perform setup rest p
      else
        let (effects, s) := p.session.enter setup .error
        persist setup effects { p with session := s }

/-- Reports the failure to the host; where that is wanted, the session is to recover. -/
def report (setup : Setup η κ) (p : Progress η κ) : Progress η κ :=
  match p.failure with
  | none => p
  | some e =>
    let (_, s) := p.session.call (setup.host.finishedWithError e) (fun _ => .finishedWithError e)
    { p with
      session := { s with lastError := some e }
      followUps :=
        if setup.config.autoRecover && e.isRecoverable then p.followUps ++ [.recover]
        else p.followUps }

end Progress

/-- Applies an event: the answer to the reader, and the events that follow. -/
def apply (setup : Setup η κ) (event : Event) (s : Session η κ) :
    Acknowledgement × List Event × Session η κ :=
  let t := transition s.snapshot event
  let (entering, s) := match t.next with
    | some next => s.enter setup next
    | none => ([], s)
  let p := (Progress.perform setup (t.effects ++ entering)
    ⟨s, t.failure.map Failure.toError, []⟩).report setup
  (t.acknowledgement, p.followUps, p.session)

/-- Applies waiting events until none is left, of which there are at most `fuel`: first those
of `queue` and then those that were posted. -/
def drain (setup : Setup η κ) : (fuel : Nat) → (queue : List Event) → Session η κ →
    Option (Session η κ)
  | fuel, event :: queue, s => match fuel with
    | 0 => none
    | fuel + 1 =>
      let (_, followUps, s) := s.apply setup event
      drain setup fuel (queue ++ followUps) s
  | fuel, [], s => match s.posted with
    | [] => some s
    | event :: posted => match fuel with
      | 0 => none
      | fuel + 1 =>
        let (_, followUps, s) := { s with posted := posted }.apply setup event
        drain setup fuel followUps s

/-- Applies an event with everything that follows from it: the answer to the reader.  A
session that is a preview does nothing. -/
def handle (setup : Setup η κ) (fuel : Nat) (event : Event) (s : Session η κ) :
    Option (Acknowledgement × Session η κ) :=
  if setup.config.preview then some (.success, s)
  else
    let (acknowledgement, followUps, s) := s.apply setup event
    (s.drain setup fuel followUps).map (acknowledgement, ·)

/-- Applies the events that were posted. -/
def handlePosted (setup : Setup η κ) (fuel : Nat) (s : Session η κ) : Option (Session η κ) :=
  if setup.config.preview then some { s with posted := [] } else s.drain setup fuel []

end Presentment.Session
