import Presentment.Transfer.Actor
import Presentment.Proofs.Transfer.History

/-!
# Rounds

An actor goes round after round: it takes the next thing from one of its sources, and is done
with it before it takes another.  Its log tells, in order, what came in and which rounds there
were; a round tells what was taken and which events the session applied because of it.  Whatever
is ready may be taken next, and how long nothing is taken is a parameter of the runs of an actor.

A `Turn` is a step of the actor together with the round that tells of it.  Which rounds there can
be, `Outcome` says case by case: nothing but these comes of a step, and each of them does.
-/

namespace Presentment

variable {η κ : Type}

/-! ### What is applied in a call -/

namespace Session

/-- Waiting events are applied, and what follows from them, until nothing waits any more: what
was applied, and the session after it. -/
inductive Drains (setup : Setup η κ) :
    List Event → Session η κ → List (Occurrence η κ) → Session η κ → Prop
  | done {s : Session η κ} : s.posted = [] → Drains setup [] s [] s
  | follow {event : Event} {queue : List Event} {s s' : Session η κ}
      {log : List (Occurrence η κ)} :
      Drains setup (queue ++ (s.apply setup event).2.1) (s.apply setup event).2.2 log s' →
        Drains setup (event :: queue) s (⟨s, event, false⟩ :: log) s'
  | give {event : Event} {posted : List Event} {s s' : Session η κ}
      {log : List (Occurrence η κ)} :
      s.posted = event :: posted →
        Drains setup ({ s with posted := posted }.apply setup event).2.1
          ({ s with posted := posted }.apply setup event).2.2 log s' →
        Drains setup [] s (⟨{ s with posted := posted }, event, true⟩ :: log) s'

/-- An event is handled: the answer, what was applied, and the session after it. -/
inductive Handles (setup : Setup η κ) (event : Event) (s : Session η κ) :
    Acknowledgement → List (Occurrence η κ) → Session η κ → Prop
  | ignore : setup.config.preview → Handles setup event s .success [] s
  | apply {log : List (Occurrence η κ)} {s' : Session η κ} : setup.config.preview = false →
      Drains setup (s.apply setup event).2.1 (s.apply setup event).2.2 log s' →
        Handles setup event s (s.apply setup event).1 (⟨s, event, true⟩ :: log) s'

section

variable {setup : Setup η κ} {fuel : Nat} {queue : List Event} {event : Event}
  {s s' : Session η κ} {log log' : List (Occurrence η κ)} {acknowledgement : Acknowledgement}

theorem exists_drains (h : s.drain setup fuel queue = some s') :
  ∃ log, Drains setup queue s log s'
  := by
  induction fuel generalizing queue s with
  | zero =>
    cases queue with
    | nil =>
      cases hposted : s.posted with
      | nil =>
        rw [drain_of_posted_eq_nil hposted] at h
        cases h
        exact ⟨[], .done hposted⟩
      | cons event posted =>
        rw [drain_zero_posted hposted] at h
        cases h
    | cons event queue => simp [drain] at h
  | succ fuel ih =>
    cases queue with
    | nil =>
      cases hposted : s.posted with
      | nil =>
        rw [drain_of_posted_eq_nil hposted] at h
        cases h
        exact ⟨[], .done hposted⟩
      | cons event posted =>
        rw [drain_posted hposted] at h
        obtain ⟨log, drains⟩ := ih h
        exact ⟨_, .give hposted drains⟩
    | cons event queue =>
      rw [drain] at h
      obtain ⟨log, drains⟩ := ih h
      exact ⟨_, .follow drains⟩

theorem Drains.exists_fuel (h : Drains setup queue s log s') :
  ∃ fuel, s.drain setup fuel queue = some s'
  := by
  induction h with
  | done hposted => exact ⟨0, drain_of_posted_eq_nil hposted 0⟩
  | follow _ ih =>
    obtain ⟨fuel, hdrain⟩ := ih
    use fuel + 1
    rw [drain]
    exact hdrain
  | give hposted _ ih =>
    obtain ⟨fuel, hdrain⟩ := ih
    use fuel + 1
    rw [drain_posted hposted]
    exact hdrain

/-- Every call that returns tells what was applied, and nothing else is told. -/
theorem exists_handles_iff :
  (∃ log, Handles setup event s acknowledgement log s')
    ↔ ∃ fuel, s.handle setup fuel event = some (acknowledgement, s')
  := by
  constructor
  · rintro ⟨log, h⟩
    cases h with
    | ignore preview => exact ⟨0, if_pos preview⟩
    | apply shown drains =>
      obtain ⟨fuel, hdrain⟩ := drains.exists_fuel
      use fuel
      rw [handle_of_shown shown, hdrain]
      rfl
  · rintro ⟨fuel, h⟩
    rw [handle] at h
    split at h
    · rename_i preview
      cases h
      exact ⟨[], .ignore preview⟩
    · rename_i shown
      rw [Option.map_eq_some_iff] at h
      obtain ⟨_, hdrain, hpair⟩ := h
      cases hpair
      obtain ⟨log, drains⟩ := exists_drains hdrain
      exact ⟨_, .apply (Bool.eq_false_iff.mpr shown) drains⟩

theorem History.drains (h : History setup log queue s) (drains : Drains setup queue s log' s') :
  History setup (log ++ log') [] s'
  := by
  induction drains generalizing log with
  | done _ =>
    rw [List.append_nil]
    exact h
  | follow _ ih =>
    have later := ih h.follow
    rw [List.append_assoc] at later
    exact later
  | @give event posted s _ _ _ _ ih =>
    have later := ih ((h.outside s.host posted).give event)
    rw [List.append_assoc] at later
    exact later

theorem History.handles (h : History setup log [] s)
    (handles : Handles setup event s acknowledgement log' s') :
  History setup (log ++ log') [] s'
  := by
  cases handles with
  | ignore _ =>
    rw [List.append_nil]
    exact h
  | apply _ drains =>
    have later := (h.give event).drains drains
    rw [List.append_assoc] at later
    exact later

/-! ### Events that were posted -/

/-- What the host posted while an event was applied. -/
def posts (setup : Setup η κ) (o : Occurrence η κ) : List Event :=
  (o.session.apply setup o.event).2.2.posted.drop o.session.posted.length

/-- The events that came from outside. -/
def given (log : List (Occurrence η κ)) : List Event :=
  (log.filter (·.isGiven)).map (·.event)

theorem apply_posted (setup : Setup η κ) (o : Occurrence η κ) :
  (o.session.apply setup o.event).2.2.posted = o.session.posted ++ posts setup o
  := by
  obtain ⟨actions, took⟩ := (apply_step setup o.event o.session).took
  rw [posts, took.posted_eq, List.drop_left]

/-- What is posted goes to the end of those that wait, and what is given comes from their
front. -/
theorem Drains.posted_eq (h : Drains setup queue s log s') :
  s.posted ++ log.flatMap (posts setup) = given log ++ s'.posted
  := by
  induction h with
  | done hposted => simp [given, hposted]
  | @follow event queue s s' log _ ih =>
    have posted_eq := apply_posted setup ⟨s, event, false⟩
    dsimp only at posted_eq
    rw [posted_eq, List.append_assoc] at ih
    rw [List.flatMap_cons, ih]
    rfl
  | @give event posted s s' log hposted _ ih =>
    have posted_eq := apply_posted setup ⟨{ s with posted := posted }, event, true⟩
    dsimp only at posted_eq
    rw [posted_eq, List.append_assoc] at ih
    rw [hposted, List.flatMap_cons, List.cons_append, ih]
    rfl

theorem Handles.posted_eq (h : Handles setup event s acknowledgement log s') :
  s.posted ++ log.flatMap (posts setup) = given log.tail ++ s'.posted
  := by
  cases h with
  | ignore _ => exact List.append_nil _
  | apply _ drains =>
    have posted_eq := apply_posted setup ⟨s, event, true⟩
    have drained := drains.posted_eq
    dsimp only at posted_eq
    rw [posted_eq, List.append_assoc] at drained
    rw [List.flatMap_cons, drained]
    rfl

/-- A session that is not a preview returns when nothing waits any more. -/
theorem Drains.posted_eq_nil (h : Drains setup queue s log s') :
  s'.posted = []
  := by
  induction h with
  | done hposted => exact hposted
  | follow _ ih => exact ih
  | give _ _ ih => exact ih

end

end Session

/-! ### What happens to an actor -/

namespace Actor

open Session (Handles History)

/-- What comes to an actor from outside. -/
inductive Input (η : Type) where
  /-- The owner queues a command. -/
  | command (command : Command)
  /-- An event is posted. -/
  | post (event : Event)
  /-- The owner gives the actor up. -/
  | disown
  /-- Something happens to the host. -/
  | outside (change : η → η)

/-- Takes something in, if that is still possible. -/
def receive? (input : Input η) (a : Actor η κ) : Option (Actor η κ) :=
  match input with
  | .command command => if a.isOwned then a.send? command else none
  | .post event => a.post? event
  | .disown => some a.disown
  | .outside change => some { a with session := { a.session with host := change a.session.host } }

/-- What is taken in a round. -/
inductive Taken where
  | command (command : Command)
  | posted (event : Event)
  /-- The reader has gone idle. -/
  | idle
  /-- No command is left, and no other can come. -/
  | closed

namespace Taken

/-- The event that the session is to handle. -/
def event? : Taken → Option Event
  | .command (.event event _) => some event
  | .posted event => some event
  | .idle => some .idleTimeout
  | _ => none

def command? : Taken → Option Command
  | .command c => some c
  | _ => none

def posted? : Taken → Option Event
  | .posted event => some event
  | _ => none

/-- The question that is answered with the acknowledgement of the event. -/
def question? : Taken → Option Nat
  | .command (.event _ question) => question
  | _ => none

end Taken

/-- A round of an actor. -/
structure Round (η κ : Type) where
  time : Nat
  taken : Taken
  /-- The session, without the event that was taken. -/
  found : Session η κ
  /-- What the session applied because of it. -/
  applied : List (Occurrence η κ)

/-- Something that happens to an actor, with the time at which it does. -/
inductive Happening (η κ : Type) where
  | input (time : Nat) (input : Input η)
  | round (round : Round η κ)

/-- What an actor may take for the session to handle: the event, and the session and the commands
that are left without it. -/
inductive Offers (setup : Setup η κ) (a : Actor η κ) :
    Taken → Event → Session η κ → List Command → Prop
  | command {event : Event} {question : Option Nat} {commands : List Command} :
      a.commands = .event event question :: commands →
        Offers setup a (.command (.event event question)) event a.session commands
  | posted {event : Event} {posted : List Event} :
      a.session.posted = event :: posted →
        Offers setup a (.posted event) event { a.session with posted := posted } a.commands
  | idle {deadline : Nat} :
      a.deadline? setup = some deadline → deadline ≤ a.now →
        Offers setup a .idle .idleTimeout a.session a.commands

/-- What a round tells of an actor, and what becomes of the actor in it. -/
inductive Outcome (setup : Setup η κ) (a : Actor η κ) : Round η κ → Actor η κ → Prop
  | handle {taken : Taken} {event : Event} {found s : Session η κ} {commands : List Command}
      {acknowledgement : Acknowledgement} {applied : List (Occurrence η κ)} :
      Offers setup a taken event found commands →
        Handles setup event found acknowledgement applied s →
        Outcome setup a ⟨a.now, taken, found, applied⟩ { a with
          session := s
          commands := commands
          waitingSince := a.now
          applied := a.applied ++ [(a.now, event)]
          answers := a.answers
            ++ taken.question?.toList.map (fun question => (question, .acknowledged acknowledgement)) }
  | tell {question : Nat} {commands : List Command} :
      a.commands = .status question :: commands →
        Outcome setup a ⟨a.now, .command (.status question), a.session, []⟩ { a with
          commands := commands
          waitingSince := a.now
          answers := a.answers ++ [(question, .status a.session.status)] }
  | shutdown {commands : List Command} :
      a.commands = .shutdown :: commands →
        Outcome setup a ⟨a.now, .command .shutdown, a.session, []⟩ a.stop
  | close : a.commands = [] → a.isOwned = false → Outcome setup a ⟨a.now, .closed, a.session, []⟩ a.stop

/-- An actor takes the next thing from a source that is ready, and this is the round that it makes
of it. -/
structure Turn (setup : Setup η κ) (a : Actor η κ) (round : Round η κ) (a' : Actor η κ) :
    Prop where
  stepped : ∃ fuel source, a.isReady setup source ∧ a.step setup fuel source = some a'
  outcome : Outcome setup a round a'

section

variable {setup : Setup η κ} {a a' : Actor η κ} {round : Round η κ}

/-- Whatever becomes of an actor in a round, there is a source from which it was taken. -/
theorem Outcome.turn (h : Outcome setup a round a') :
  Turn setup a round a'
  := by
  refine ⟨?_, h⟩
  cases h with
  | handle offers handles =>
    obtain ⟨fuel, handle_eq⟩ := Session.exists_handles_iff.mp ⟨_, handles⟩
    use fuel
    cases offers with
    | command commands_eq =>
      use .command
      constructor
      · simp [isReady, commands_eq]
      · simp [step, commands_eq, obey, Actor.apply, handle_eq, Taken.question?]
    | posted posted_eq =>
      use .posted
      constructor
      · simp [isReady, posted_eq]
      · simp [step, posted_eq, Actor.apply, handle_eq, Taken.question?]
    | idle deadline_eq due =>
      use .timer
      constructor
      · simp [isReady, deadline_eq, due]
      · simp [step, Actor.apply, handle_eq, Taken.question?]
  | tell commands_eq =>
    use 0, .command
    constructor
    · simp [isReady, commands_eq]
    · simp [step, commands_eq, obey]
  | shutdown commands_eq =>
    use 0, .command
    constructor
    · simp [isReady, commands_eq]
    · simp [step, commands_eq, obey, Actor.stop]
  | close commands_eq disowned =>
    use 0, .command
    constructor
    · simp [isReady, disowned]
    · simp [step, commands_eq]

/-- What is offered is handled by the session, and by nothing else. -/
theorem exists_turn_of_apply {fuel : Nat} {taken : Taken} {event : Event} {found : Session η κ}
    {commands : List Command} (offers : Offers setup a taken event found commands)
    (h : { a with session := found, commands := commands }.apply setup fuel event taken.question?
      = some a') :
  ∃ round, Turn setup a round a'
  := by
  obtain ⟨⟨acknowledgement, s⟩, handle_eq, heq⟩ := Option.bind_eq_some_iff.mp h
  cases heq
  obtain ⟨applied, handles⟩ := Session.exists_handles_iff.mpr ⟨fuel, handle_eq⟩
  exact ⟨_, (Outcome.handle offers handles).turn⟩

/-- Whatever an actor takes next from a source that is ready, it makes a round of it. -/
theorem exists_turn_iff :
  (∃ round, Turn setup a round a')
    ↔ ∃ fuel source, a.isReady setup source ∧ a.step setup fuel source = some a'
  := by
  constructor
  · rintro ⟨round, turn⟩
    exact turn.stepped
  · rintro ⟨fuel, source, ready, h⟩
    cases source with
    | command =>
      cases commands_eq : a.commands with
      | nil =>
        have disowned : a.isOwned = false := by simpa [isReady, commands_eq] using ready
        simp only [step, commands_eq, Option.some.injEq] at h
        subst h
        exact ⟨_, (Outcome.close commands_eq disowned).turn⟩
      | cons command commands =>
        simp only [step, commands_eq] at h
        cases command with
        | event event question => exact exists_turn_of_apply (.command commands_eq) h
        | status question =>
          cases h
          exact ⟨_, (Outcome.tell commands_eq).turn⟩
        | shutdown =>
          cases h
          exact ⟨_, (Outcome.shutdown commands_eq).turn⟩
    | posted =>
      cases posted_eq : a.session.posted with
      | nil => simp [isReady, posted_eq] at ready
      | cons event posted =>
        simp only [step, posted_eq] at h
        exact exists_turn_of_apply (.posted posted_eq) h
    | timer =>
      cases deadline_eq : a.deadline? setup with
      | none => simp [isReady, deadline_eq] at ready
      | some deadline =>
        have due : deadline ≤ a.now := by simpa [isReady, deadline_eq] using ready
        exact exists_turn_of_apply (.idle deadline_eq due) h

end

/-! ### Logs -/

/-- The command that is queued. -/
def Happening.command? : Happening η κ → Option Command
  | .input _ (.command c) => some c
  | _ => none

def Happening.round? : Happening η κ → Option (Round η κ)
  | .round r => some r
  | _ => none

/-- The events that are posted, also by the host. -/
def Happening.arrivals (setup : Setup η κ) : Happening η κ → List Event
  | .input _ (.post event) => [event]
  | .input _ _ => []
  | .round r => r.applied.flatMap (Session.posts setup)

/-- The posted events that are applied in a round: the one that is taken, or those that are given
to the session after the event that is taken. -/
def Round.collected (round : Round η κ) : List Event :=
  round.taken.posted?.toList ++ Session.given round.applied.tail

/-- The commands that were queued. -/
def sent (log : List (Happening η κ)) : List Command :=
  log.filterMap (·.command?)

def rounds (log : List (Happening η κ)) : List (Round η κ) :=
  log.filterMap (·.round?)

/-- The commands that were done. -/
def obeyed (log : List (Happening η κ)) : List Command :=
  (rounds log).filterMap (·.taken.command?)

/-- The events that were posted, in the order in which they were. -/
def arrivals (setup : Setup η κ) (log : List (Happening η κ)) : List Event :=
  log.flatMap (·.arrivals setup)

/-- The posted events that were applied, in the order in which they were. -/
def collected (log : List (Happening η κ)) : List Event :=
  (rounds log).flatMap (·.collected)

section

variable (log log' : List (Happening η κ)) (time : Nat) (input : Input η) (round : Round η κ)

@[simp]
theorem sent_append :
  sent (log ++ log') = sent log ++ sent log'
  := List.filterMap_append

@[simp]
theorem rounds_append :
  rounds (log ++ log') = rounds log ++ rounds log'
  := List.filterMap_append

@[simp]
theorem obeyed_append :
  obeyed (log ++ log') = obeyed log ++ obeyed log'
  := by
  rw [obeyed, rounds_append, List.filterMap_append]
  rfl

@[simp]
theorem arrivals_append (setup : Setup η κ) :
  arrivals setup (log ++ log') = arrivals setup log ++ arrivals setup log'
  := List.flatMap_append

@[simp]
theorem collected_append :
  collected (log ++ log') = collected log ++ collected log'
  := by
  rw [collected, rounds_append, List.flatMap_append]
  rfl

@[simp]
theorem rounds_input :
  rounds [(.input time input : Happening η κ)] = []
  := rfl

@[simp]
theorem rounds_round :
  rounds [(.round round : Happening η κ)] = [round]
  := rfl

@[simp]
theorem sent_round :
  sent [(.round round : Happening η κ)] = []
  := rfl

@[simp]
theorem obeyed_input :
  obeyed [(.input time input : Happening η κ)] = []
  := rfl

@[simp]
theorem obeyed_round :
  obeyed [(.round round : Happening η κ)] = round.taken.command?.toList
  := by
  rw [obeyed, rounds_round, List.filterMap_cons]
  cases round.taken.command? with
  | _ => rfl

@[simp]
theorem collected_input :
  collected [(.input time input : Happening η κ)] = []
  := rfl

@[simp]
theorem collected_round :
  collected [(.round round : Happening η κ)] = round.collected
  := List.flatMap_singleton ..

@[simp]
theorem arrivals_round (setup : Setup η κ) :
  arrivals setup [(.round round : Happening η κ)] = round.applied.flatMap (Session.posts setup)
  := List.flatMap_singleton ..

end

/-- An actor that was spawned with the session `s`, with everything that happened to it.
`mayWait` tells for how long an actor may be left waiting. -/
inductive Runs (setup : Setup η κ) (mayWait : Actor η κ → Nat → Prop) (s : Session η κ) :
    List (Happening η κ) → Actor η κ → Prop
  | spawn : Runs setup mayWait s [] (.spawn s)
  | receive {log : List (Happening η κ)} {a a' : Actor η κ} (input : Input η) :
      Runs setup mayWait s log a → a.receive? input = some a' →
        Runs setup mayWait s (log ++ [.input a.now input]) a'
  | turn {log : List (Happening η κ)} {a a' : Actor η κ} {round : Round η κ} :
      Runs setup mayWait s log a → a.isRunning → Turn setup a round a' →
        Runs setup mayWait s (log ++ [.round round]) a'
  | wait {log : List (Happening η κ)} {a : Actor η κ} (duration : Nat) :
      Runs setup mayWait s log a → mayWait a duration →
        Runs setup mayWait s log { a with now := a.now + duration }

theorem Runs.imp {setup : Setup η κ} {mayWait mayWait' : Actor η κ → Nat → Prop} {s : Session η κ}
    {log : List (Happening η κ)} {a : Actor η κ} (h : Runs setup mayWait s log a)
    (imp : ∀ a duration, mayWait a duration → mayWait' a duration) :
  Runs setup mayWait' s log a
  := by
  induction h with
  | spawn => exact .spawn
  | receive input _ receive_eq ih => exact ih.receive input receive_eq
  | turn _ running turn ih => exact ih.turn running turn
  | wait duration _ waits ih => exact ih.wait duration (imp _ _ waits)

end Actor

end Presentment
