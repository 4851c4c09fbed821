import Presentment.Proofs.Transfer.Rounds

/-!
# Commands

An actor does what it is told in the order in which it is told, each command once and none after a
shutdown; and it answers a question with what came of the very command that asks.  Events that were
posted are applied in the order in which they were posted, each of them once.  The two orders are
kept apart, though: a command may be done before an event that was posted earlier.  What was
posted by then is applied at once after it.
-/

namespace Presentment.Actor

open Session (Handles History emptyDocument unvaried)

variable {η κ : Type}

/-- How a session answers when it is given an event. -/
def acknowledgement (setup : Setup η κ) (event : Event) (s : Session η κ) : Acknowledgement :=
  if setup.config.preview then .success else (s.apply setup event).1

/-- The answer that is given in a round. -/
def Round.answer? (setup : Setup η κ) (round : Round η κ) : Option (Nat × Answer) :=
  match round.taken with
  | .command (.event event (some question)) =>
    some (question, .acknowledged (acknowledgement setup event round.found))
  | .command (.status question) => some (question, .status round.found.status)
  | _ => none

section

variable {setup : Setup η κ} {mayWait : Actor η κ → Nat → Prop} {s : Session η κ}
  {a a' : Actor η κ} {log : List (Happening η κ)} {round : Round η κ} {input : Input η}
  {taken : Taken} {event : Event} {found : Session η κ} {commands : List Command}
  {earlier : List (Occurrence η κ)}

/-! ### What comes in -/

/-- What becomes of an actor when something comes in. -/
structure Admits (setup : Setup η κ) (a : Actor η κ) (input : Input η) (a' : Actor η κ) : Prop where
  isRunning_eq : a'.isRunning = a.isRunning
  now_eq : a'.now = a.now
  waitingSince_eq : a'.waitingSince = a.waitingSince
  answers_eq : a'.answers = a.answers
  applied_eq : a'.applied = a.applied
  commands_eq : a'.commands = a.commands ++ sent [(.input a.now input : Happening η κ)]
  posted_eq : a'.session.posted
    = a.session.posted ++ arrivals setup [(.input a.now input : Happening η κ)]
  session_eq : a'.session
    = { a.session with host := a'.session.host, posted := a'.session.posted }
  /-- An actor that has stopped is told nothing. -/
  sent_eq_nil : a.isRunning = false → sent [(.input a.now input : Happening η κ)] = []

theorem admits (setup : Setup η κ) (h : a.receive? input = some a') :
  Admits setup a input a'
  := by
  cases input with
  | command command =>
    simp only [receive?, send?, Option.ite_none_right_eq_some, Option.some.injEq] at h
    obtain ⟨-, running, rfl⟩ := h
    refine ⟨rfl, rfl, rfl, rfl, rfl, rfl, ?_, rfl, ?_⟩
    · exact (List.append_nil _).symm
    · intro stopped
      rw [running] at stopped
      cases stopped
  | post event =>
    simp only [receive?, post?, Option.ite_none_right_eq_some, Option.some.injEq] at h
    obtain ⟨-, rfl⟩ := h
    exact ⟨rfl, rfl, rfl, rfl, rfl, (List.append_nil _).symm, rfl, rfl, fun _ => rfl⟩
  | disown =>
    cases h
    exact ⟨rfl, rfl, rfl, rfl, rfl, (List.append_nil _).symm, (List.append_nil _).symm, rfl,
      fun _ => rfl⟩
  | outside change =>
    cases h
    exact ⟨rfl, rfl, rfl, rfl, rfl, (List.append_nil _).symm, (List.append_nil _).symm, rfl,
      fun _ => rfl⟩

/-! ### Commands -/

theorem Offers.commands_eq (h : Offers setup a taken event found commands) :
  a.commands = taken.command?.toList ++ commands
  := by
  cases h with
  | command commands_eq => exact commands_eq
  | posted _ => rfl
  | idle _ _ => rfl

theorem Offers.event?_eq (h : Offers setup a taken event found commands) :
  taken.event? = some event
  := by
  cases h with
  | command _ => rfl
  | posted _ => rfl
  | idle _ _ => rfl

theorem Turn.exists_commands (h : Turn setup a round a') :
  ∃ later, a.commands = round.taken.command?.toList ++ later ∧ (a'.isRunning → later = a'.commands)
  := by
  cases h.outcome with
  | handle offers _ => exact ⟨_, offers.commands_eq, fun _ => rfl⟩
  | tell commands_eq => exact ⟨_, commands_eq, fun _ => rfl⟩
  | shutdown commands_eq => exact ⟨_, commands_eq, fun running => by cases running⟩
  | close commands_eq _ => exact ⟨_, commands_eq, fun running => by cases running⟩

/-- The commands that were not done yet still wait, unless the actor has stopped. -/
theorem Runs.sent_eq (h : Runs setup mayWait s log a) :
  ∃ later, sent log = obeyed log ++ later ∧ (a.isRunning → later = a.commands)
  := by
  induction h with
  | spawn => exact ⟨[], rfl, fun _ => rfl⟩
  | @receive log a a' input _ receive_eq ih =>
    obtain ⟨later, sent_eq, waiting⟩ := ih
    have admits := admits setup receive_eq
    use later ++ sent [(.input a.now input : Happening η κ)]
    constructor
    · rw [sent_append, sent_eq, obeyed_append, obeyed_input, List.append_nil, List.append_assoc]
    · intro running
      rw [admits.commands_eq, waiting (admits.isRunning_eq ▸ running)]
  | turn _ running turn ih =>
    obtain ⟨later, sent_eq, waiting⟩ := ih
    obtain ⟨later', commands_eq, waiting'⟩ := turn.exists_commands
    use later'
    constructor
    · rw [sent_append, sent_round, List.append_nil, obeyed_append, obeyed_round, sent_eq,
        waiting running, commands_eq, List.append_assoc]
    · exact waiting'
  | wait _ _ _ ih => exact ih

/-- An actor that runs has not been told to stop. -/
theorem Runs.not_shutdown (h : Runs setup mayWait s log a) (running : a.isRunning) :
  ∀ round ∈ rounds log, round.taken ≠ .command .shutdown
  := by
  induction h with
  | spawn => exact fun _ hround => absurd hround List.not_mem_nil
  | receive input _ receive_eq ih =>
    rw [rounds_append, rounds_input, List.append_nil]
    exact ih ((admits setup receive_eq).isRunning_eq ▸ running)
  | turn _ running' turn ih =>
    intro round hround
    rw [rounds_append, rounds_round] at hround
    rcases List.mem_append.mp hround with hround | hround
    · exact ih running' round hround
    · rw [List.mem_singleton.mp hround]
      cases turn.outcome with
      | handle offers _ =>
        rintro rfl
        cases offers.event?_eq
      | tell _ =>
        intro heq
        cases heq
      | shutdown _ => cases running
      | close _ _ => cases running
  | wait _ _ _ ih => exact ih running

theorem Taken.eq_of_command?_eq {command : Command} (h : taken.command? = some command) :
  taken = .command command
  := by
  cases taken with
  | command _ =>
    cases h
    rfl
  | posted _ => cases h
  | idle => cases h
  | closed => cases h

theorem shutdown_not_mem_obeyed (h : ∀ round ∈ rounds log, round.taken ≠ .command .shutdown) :
  .shutdown ∉ obeyed log
  := by
  intro mem
  obtain ⟨round, hround, command_eq⟩ := List.mem_filterMap.mp mem
  exact h round hround (Taken.eq_of_command?_eq command_eq)

/-- An actor that has stopped has done all commands up to the first shutdown, or all commands if
there is none among them. -/
theorem Runs.of_not_isRunning (h : Runs setup mayWait s log a) (stopped : a.isRunning = false) :
  sent log = obeyed log ∧ .shutdown ∉ sent log
    ∨ ∃ before after, sent log = before ++ .shutdown :: after ∧ .shutdown ∉ before
      ∧ obeyed log = before ++ [.shutdown]
  := by
  induction h with
  | spawn => cases stopped
  | receive input _ receive_eq ih =>
    have admits := admits setup receive_eq
    rw [admits.isRunning_eq] at stopped
    rw [sent_append, obeyed_append, obeyed_input, List.append_nil, admits.sent_eq_nil stopped,
      List.append_nil]
    exact ih stopped
  | @turn log _ _ _ h running turn _ =>
    obtain ⟨later, sent_eq, waiting⟩ := h.sent_eq
    have undisturbed := shutdown_not_mem_obeyed (h.not_shutdown running)
    rw [waiting running] at sent_eq
    rw [sent_append, sent_round, List.append_nil, obeyed_append, obeyed_round, sent_eq]
    cases turn.outcome with
    | handle _ _ =>
      rw [running] at stopped
      cases stopped
    | tell _ =>
      rw [running] at stopped
      cases stopped
    | @shutdown commands commands_eq =>
      right
      use obeyed log, commands, by rw [commands_eq], undisturbed
      rfl
    | close commands_eq _ =>
      left
      rw [commands_eq, List.append_nil]
      exact ⟨(List.append_nil _).symm, undisturbed⟩
  | wait _ _ _ ih => exact ih stopped

/-- Nothing is done after a shutdown. -/
theorem Runs.not_shutdown_of_mem_dropLast (h : Runs setup mayWait s log a) :
  ∀ round ∈ (rounds log).dropLast, round.taken ≠ .command .shutdown
  := by
  induction h with
  | spawn => exact fun _ hround => absurd hround List.not_mem_nil
  | receive input _ _ ih =>
    rw [rounds_append, rounds_input, List.append_nil]
    exact ih
  | turn h running _ _ =>
    rw [rounds_append, rounds_round, List.dropLast_concat]
    exact h.not_shutdown running
  | wait _ _ _ ih => exact ih

/-- A command that waits can be done next, if handling its event ends. -/
theorem exists_turn_of_commands {command : Command} {commands : List Command}
    (h : a.commands = command :: commands)
    (ends : ∀ event ∈ (Taken.command command).event?,
      ∃ fuel result, a.session.handle setup fuel event = some result) :
  ∃ round a', Turn setup a round a' ∧ round.taken = .command command
  := by
  cases command with
  | event event question =>
    obtain ⟨fuel, ⟨acknowledgement, s⟩, handle_eq⟩ := ends event rfl
    obtain ⟨applied, handles⟩ := Session.exists_handles_iff.mpr ⟨fuel, handle_eq⟩
    exact ⟨_, _, (Outcome.handle (.command h) handles).turn, rfl⟩
  | status question => exact ⟨_, _, (Outcome.tell h).turn, rfl⟩
  | shutdown => exact ⟨_, _, (Outcome.shutdown h).turn, rfl⟩

/-! ### Answers -/

theorem acknowledgement_eq {s' : Session η κ} {answer : Acknowledgement}
    {applied : List (Occurrence η κ)} (h : Handles setup event s answer applied s') :
  answer = acknowledgement setup event s
  := by
  rw [acknowledgement]
  cases h with
  | ignore preview => rw [if_pos preview]
  | apply shown _ => rw [if_neg (by rw [shown]; exact Bool.false_ne_true)]

theorem Turn.answers_eq (h : Turn setup a round a') :
  a'.answers = a.answers ++ (round.answer? setup).toList
  := by
  cases h.outcome with
  | handle offers handles =>
    rw [acknowledgement_eq handles]
    cases offers with
    | @command event question _ _ =>
      cases question with
      | none => rfl
      | some question => rfl
    | posted _ => rfl
    | idle _ _ => rfl
  | tell _ => rfl
  | shutdown _ => exact (List.append_nil _).symm
  | close _ _ => exact (List.append_nil _).symm

theorem Runs.answers_eq (h : Runs setup mayWait s log a) :
  a.answers = (rounds log).filterMap (·.answer? setup)
  := by
  induction h with
  | spawn => rfl
  | receive input _ receive_eq ih =>
    rw [rounds_append, rounds_input, List.append_nil, (admits setup receive_eq).answers_eq, ih]
  | @turn _ _ _ round _ _ turn ih =>
    rw [rounds_append, rounds_round, List.filterMap_append, turn.answers_eq, ih,
      List.filterMap_cons]
    cases round.answer? setup with
    | none => rfl
    | some answer => rfl
  | wait _ _ _ ih => exact ih

/-! ### What the session applies -/

/-- The event that is taken is applied first. -/
theorem Turn.applied_eq (h : Turn setup a round a') (event_eq : round.taken.event? = some event)
    (shown : setup.config.preview = false) :
  ∃ others, round.applied = ⟨round.found, event, true⟩ :: others
  := by
  cases h.outcome with
  | handle offers handles =>
    rw [offers.event?_eq] at event_eq
    cases event_eq
    cases handles with
    | ignore preview =>
      rw [shown] at preview
      cases preview
    | apply _ _ => exact ⟨_, rfl⟩
  | tell _ => cases event_eq
  | shutdown _ => cases event_eq
  | close _ _ => cases event_eq

/-- A round that takes no event applies none, and neither does a preview. -/
theorem Turn.applied_eq_nil (h : Turn setup a round a')
    (quiet : round.taken.event? = none ∨ setup.config.preview) :
  round.applied = []
  := by
  cases h.outcome with
  | handle offers handles =>
    cases handles with
    | ignore _ => rfl
    | apply shown _ =>
      rcases quiet with event_eq | preview
      · rw [offers.event?_eq] at event_eq
        cases event_eq
      · rw [shown] at preview
        cases preview
  | tell _ => rfl
  | shutdown _ => rfl
  | close _ _ => rfl

/-- Every round is a turn of an actor to which happened what stands before it in the log. -/
theorem Runs.exists_turn {later : List (Happening η κ)}
    (h : Runs setup mayWait s (log ++ .round round :: later) a) :
  ∃ b b', Runs setup mayWait s log b ∧ b.isRunning ∧ Turn setup b round b'
  := by
  generalize whole_eq : log ++ .round round :: later = whole at h
  -- What happens last is the last of `later`, or else it is the round.
  induction h generalizing later with
  | spawn => exact absurd whole_eq (List.append_ne_nil_of_right_ne_nil log (List.cons_ne_nil _ _))
  | receive input _ _ ih =>
    cases later using List.reverseRecOn with
    | nil => cases (List.append_inj' whole_eq rfl).2
    | append_singleton later _ _ =>
      rw [← List.cons_append, ← List.append_assoc] at whole_eq
      exact ih (List.append_inj' whole_eq rfl).1
  | turn runs running turn ih =>
    cases later using List.reverseRecOn with
    | nil =>
      obtain ⟨rfl, round_eq⟩ := List.append_inj' whole_eq rfl
      cases round_eq
      exact ⟨_, _, runs, running, turn⟩
    | append_singleton later _ _ =>
      rw [← List.cons_append, ← List.append_assoc] at whole_eq
      exact ih (List.append_inj' whole_eq rfl).1
  | wait _ _ _ ih => exact ih whole_eq

theorem Runs.exists_turn_of_mem (h : Runs setup mayWait s log a) (mem : round ∈ rounds log) :
  ∃ b b', Turn setup b round b'
  := by
  obtain ⟨happening, mem, round_eq⟩ := List.mem_filterMap.mp mem
  obtain ⟨before, after, rfl⟩ := List.append_of_mem mem
  cases happening with
  | input _ _ => cases round_eq
  | round _ =>
    cases round_eq
    obtain ⟨b, b', -, -, turn⟩ := h.exists_turn
    exact ⟨b, b', turn⟩

theorem Turn.posted_eq (h : Turn setup a round a') :
  a.session.posted ++ round.applied.flatMap (Session.posts setup)
    = round.collected ++ a'.session.posted
  := by
  cases h.outcome with
  | handle offers handles =>
    have posted_eq := handles.posted_eq
    cases offers with
    | command _ => exact posted_eq
    | posted queue_eq =>
      rw [queue_eq]
      exact congrArg (List.cons _) posted_eq
    | idle _ _ => exact posted_eq
  | tell _ => exact List.append_nil _
  | shutdown _ => exact List.append_nil _
  | close _ _ => exact List.append_nil _

/-- Events that were posted are applied in the order in which they were, and those that were not
applied yet still wait. -/
theorem Runs.posted_eq (h : Runs setup mayWait s log a) :
  s.posted ++ arrivals setup log = collected log ++ a.session.posted
  := by
  induction h with
  | spawn => exact List.append_nil _
  | receive input _ receive_eq ih =>
    rw [arrivals_append, ← List.append_assoc, ih, collected_append, collected_input,
      List.append_nil, (admits setup receive_eq).posted_eq, List.append_assoc]
  | turn _ _ turn ih =>
    rw [arrivals_append, arrivals_round, ← List.append_assoc, ih, collected_append,
      collected_round, List.append_assoc, List.append_assoc, turn.posted_eq]
  | wait _ _ _ ih => exact ih

/-- The session that is left by a round, and the one that the round finds, have applied what the
rounds tell. -/
theorem Turn.history (h : Turn setup a round a') (history : History setup earlier [] a.session) :
  History setup earlier [] round.found
    ∧ History setup (earlier ++ round.applied) [] a'.session
  := by
  cases h.outcome with
  | handle offers handles =>
    cases offers with
    | command _ => exact ⟨history, history.handles handles⟩
    | @posted _ posted _ =>
      have taken := history.outside a.session.host posted
      exact ⟨taken, taken.handles handles⟩
    | idle _ _ => exact ⟨history, history.handles handles⟩
  | tell _ => exact ⟨history, (List.append_nil earlier).symm ▸ history⟩
  | shutdown _ => exact ⟨history, (List.append_nil earlier).symm ▸ history⟩
  | close _ _ => exact ⟨history, (List.append_nil earlier).symm ▸ history⟩

theorem Runs.history (h : Runs setup mayWait s log a) (start : History setup earlier [] s) :
  History setup (earlier ++ (rounds log).flatMap (·.applied)) [] a.session
    ∧ ∀ before round after, rounds log = before ++ round :: after →
      History setup (earlier ++ before.flatMap (·.applied)) [] round.found
  := by
  induction h with
  | spawn =>
    constructor
    · rw [rounds, List.filterMap_nil, List.flatMap_nil, List.append_nil]
      exact start
    · intro before round after rounds_eq
      exact absurd rounds_eq.symm (List.append_ne_nil_of_right_ne_nil before (List.cons_ne_nil _ _))
  | receive input _ receive_eq ih =>
    rw [rounds_append, rounds_input, List.append_nil]
    refine ⟨?_, ih.2⟩
    rw [(admits setup receive_eq).session_eq]
    exact ih.1.outside _ _
  | turn _ _ turn ih =>
    obtain ⟨found, left⟩ := turn.history ih.1
    rw [rounds_append, rounds_round]
    constructor
    · rw [List.flatMap_append, List.flatMap_singleton, ← List.append_assoc]
      exact left
    · intro before round after rounds_eq
      cases after using List.reverseRecOn with
      | nil =>
        obtain ⟨rfl, heq⟩ := List.append_inj' rounds_eq rfl
        cases heq
        exact found
      | append_singleton after last _ =>
        rw [← List.cons_append, ← List.append_assoc] at rounds_eq
        exact ih.2 before round after (List.append_inj' rounds_eq rfl).1
  | wait _ _ _ ih => exact ih

/-! ### Obedience -/

/-- An actor that was spawned with the session `s`, which had applied what `earlier` tells, obeys:
everything that happened to it stands in the log. -/
structure Obeys (setup : Setup η κ) (earlier : List (Occurrence η κ)) (s : Session η κ)
    (log : List (Happening η κ)) (a : Actor η κ) : Prop where
  /-- Commands are done in the order in which they were queued, each of them once; while the actor
  runs, the others still wait. -/
  sent_eq : ∃ later, sent log = obeyed log ++ later ∧ (a.isRunning → later = a.commands)
  /-- Whatever the actor takes next, it makes a round of it. -/
  turn : ∀ fuel source a', a.isReady setup source → a.step setup fuel source = some a' →
    ∃ round, Turn setup a round a'
  /-- The first command that waits can be done next. -/
  progress : a.isRunning → ∀ command commands, a.commands = command :: commands →
    (∀ event ∈ (Taken.command command).event?,
      ∃ fuel result, a.session.handle setup fuel event = some result) →
    ∃ round a', Turn setup a round a' ∧ round.taken = .command command
  /-- When the actor has stopped, all commands up to the first shutdown are done. -/
  stopped : a.isRunning = false →
    sent log = obeyed log ∧ .shutdown ∉ sent log
      ∨ ∃ before after, sent log = before ++ .shutdown :: after ∧ .shutdown ∉ before
        ∧ obeyed log = before ++ [.shutdown]
  /-- Nothing is done after a shutdown. -/
  not_shutdown : ∀ round ∈ (rounds log).dropLast, round.taken ≠ .command .shutdown
  /-- The event that is taken is the first that the session applies in the round. -/
  applied_eq : setup.config.preview = false → ∀ round ∈ rounds log,
    ∀ event ∈ round.taken.event?, ∃ others, round.applied = ⟨round.found, event, true⟩ :: others
  /-- A round that takes no event applies none, and neither does a preview. -/
  applied_eq_nil : ∀ round ∈ rounds log, round.taken.event? = none ∨ setup.config.preview →
    round.applied = []
  /-- A round finds the session as the rounds before it have left it. -/
  found : ∀ before round after, rounds log = before ++ round :: after →
    History setup (earlier ++ before.flatMap (·.applied)) [] round.found
  /-- An answer tells what comes of the event that asked, or what the status is, in the session
  that was found. -/
  answers_eq : a.answers = (rounds log).filterMap (·.answer? setup)
  /-- Events that were posted are applied in the order in which they were, each of them once;
  the others still wait. -/
  posted_eq : s.posted ++ arrivals setup log = collected log ++ a.session.posted

/-- An actor obeys, whatever it takes next and whenever it does. -/
theorem runs_obeys (start : History setup earlier [] s) (h : Runs setup mayWait s log a) :
  Obeys setup earlier s log a
  := by
  constructor
  case sent_eq => exact h.sent_eq
  case turn =>
    intro fuel source a' ready step_eq
    exact exists_turn_iff.mpr ⟨fuel, source, ready, step_eq⟩
  case progress =>
    intro _ command commands commands_eq ends
    exact exists_turn_of_commands commands_eq ends
  case stopped => exact h.of_not_isRunning
  case not_shutdown => exact h.not_shutdown_of_mem_dropLast
  case applied_eq =>
    intro shown round mem event event_eq
    obtain ⟨_, _, turn⟩ := h.exists_turn_of_mem mem
    exact turn.applied_eq event_eq shown
  case applied_eq_nil =>
    intro round mem quiet
    obtain ⟨_, _, turn⟩ := h.exists_turn_of_mem mem
    exact turn.applied_eq_nil quiet
  case found => exact (h.history start).2
  case answers_eq => exact h.answers_eq
  case posted_eq => exact h.posted_eq

/-- The owner of a session has it set up, asks for the status, shuts it down, and comes too late
with another event. -/
theorem runs_obeys_setUp :
  ∃ log a, Runs emptyDocument (fun _ _ => True) unvaried log a
    ∧ sent log = [.event .setUp (some 0), .status 1, .shutdown, .event (.subscribed .state) none]
    ∧ obeyed log = [.event .setUp (some 0), .status 1, .shutdown]
    ∧ a.answers = [(0, .acknowledged .success), (1, .status .engagementReady)]
    ∧ Obeys emptyDocument [] unvaried log a
  := by
  have run : (unvaried.handle emptyDocument 2 .setUp).map
        (fun result => (result.1, result.2.status))
      = some (.success, .engagementReady) := by
    decide +kernel
  obtain ⟨⟨acknowledgement, s⟩, handle_eq, heq⟩ := Option.map_eq_some_iff.mp run
  simp only [Prod.mk.injEq] at heq
  obtain ⟨rfl, status_eq⟩ := heq
  obtain ⟨applied, handles⟩ := Session.exists_handles_iff.mpr ⟨2, handle_eq⟩
  have spawned : Runs emptyDocument (fun _ _ => True) unvaried [] (.spawn unvaried) := .spawn
  have told := (((spawned.receive (.command (.event .setUp (some 0))) rfl).receive
    (.command (.status 1)) rfl).receive (.command .shutdown) rfl).receive
    (.command (.event (.subscribed .state) none)) rfl
  have done := ((told.turn rfl (Outcome.handle (.command rfl) handles).turn).turn rfl
    (Outcome.tell rfl).turn).turn rfl (Outcome.shutdown rfl).turn
  refine ⟨_, _, done, rfl, rfl, ?_, runs_obeys (.fresh _ _) done⟩
  rw [← status_eq]
  rfl

/-! ### Overtaking -/

/-- A round that applies an event leaves nothing that was posted. -/
theorem Turn.posted_eq_nil (h : Turn setup a round a') (event_eq : round.taken.event? = some event)
    (shown : setup.config.preview = false) :
  a'.session.posted = []
  := by
  cases h.outcome with
  | handle _ handles =>
    cases handles with
    | ignore preview =>
      rw [shown] at preview
      cases preview
    | apply _ drains => exact drains.posted_eq_nil
  | tell _ => cases event_eq
  | shutdown _ => cases event_eq
  | close _ _ => cases event_eq

/-- The event of a command is applied after those of all commands that were queued before it, but
it may overtake events that were posted before it was queued: these are applied before its round,
or in its round and after it. -/
theorem Runs.collects_of_command {time : Nat} {question : Option Nat}
    {before between after : List (Happening η κ)}
    (h : Runs setup mayWait s
      (before ++ .input time (.command (.event event question)) :: between ++ .round round :: after)
      a)
    (shown : setup.config.preview = false) (takes : round.taken.command?.isSome)
    (next : (obeyed (before ++ between)).length = (sent before).length) :
  round.taken = .command (.event event question)
    ∧ obeyed (before ++ between) = sent before
    ∧ ∃ others, round.applied = ⟨round.found, event, true⟩ :: others
      ∧ s.posted ++ arrivals setup before
        <+: collected (before ++ between) ++ Session.given others
  := by
  obtain ⟨b, b', runs, running, turn⟩ := h.exists_turn
  have sent_eq : sent (before ++ .input time (.command (.event event question)) :: between)
      = sent before ++ .event event question :: sent between := sent_append ..
  have obeyed_eq : obeyed (before ++ .input time (.command (.event event question)) :: between)
      = obeyed (before ++ between) := by
    rw [obeyed_append, obeyed_append]
    rfl
  have taken_eq : obeyed (before ++ between) = sent before
      ∧ round.taken = .command (.event event question) := by
    obtain ⟨later, accounted, waiting⟩ := runs.sent_eq
    obtain ⟨rest, commands_eq, -⟩ := turn.exists_commands
    obtain ⟨command, taken_eq⟩ := Option.isSome_iff_exists.mp takes
    rw [sent_eq, obeyed_eq, waiting running, commands_eq, taken_eq] at accounted
    obtain ⟨before_eq, heq⟩ := List.append_inj accounted next.symm
    cases heq
    exact ⟨before_eq.symm, Taken.eq_of_command?_eq taken_eq⟩
  have event_eq : round.taken.event? = some event := by
    rw [taken_eq.2]
    rfl
  obtain ⟨others, applied_eq⟩ := turn.applied_eq event_eq shown
  have collected_eq : collected (before ++ .input time (.command (.event event question)) :: between)
      = collected (before ++ between) := by
    rw [collected_append, collected_append]
    rfl
  have round_eq : round.collected = Session.given others := by
    rw [Round.collected, taken_eq.2, applied_eq]
    rfl
  refine ⟨taken_eq.2, taken_eq.1, others, applied_eq, ?_⟩
  -- Nothing is left of what came in before the round, or in it.
  have arrived := runs.posted_eq
  have left := turn.posted_eq
  rw [collected_eq, arrivals_append] at arrived
  rw [turn.posted_eq_nil event_eq shown, List.append_nil, round_eq] at left
  rw [← left, ← List.append_assoc, ← arrived, List.append_assoc, List.append_assoc]
  exact (List.prefix_append_right_inj _).mpr (List.prefix_append _ _)

end

/-- The reader has subscribed once, its second subscription is posted, and then its start is queued:
the command may be taken first, and then the start is refused.  In the order in which the two came,
the session starts. -/
theorem exists_overtaking :
  ∃ earlier s round a, History emptyDocument earlier [] s
    ∧ Runs emptyDocument (fun _ _ => True) s
      [.input 0 (.post (.subscribed .server2Client)),
        .input 0 (.command (.event (.write .state Channel.startMarker) (some 0))), .round round] a
    ∧ s.posted = []
    ∧ round.taken = .command (.event (.write .state Channel.startMarker) (some 0))
    ∧ .subscribed .server2Client ∈ Session.given round.applied.tail
    ∧ a.answers = [(0, .acknowledged .rejected)]
    ∧ a.session.status = .connected
    ∧ (s.proceed emptyDocument [.handle 0 (.subscribed .server2Client),
        .handle 0 (.write .state Channel.startMarker)]).map (·.1)
      = some [(some .success, .connected), (some .success, .started)]
  := by
  have overtaken : ((unvaried.proceed emptyDocument
          [.handle 2 .setUp, .handle 0 (.subscribed .state)]).bind
        fun prepared => ((prepared.2.post (.subscribed .server2Client)).handle emptyDocument 1
          (.write .state Channel.startMarker)).map fun result =>
            (prepared.2.posted.isEmpty, result.1, result.2.posted.isEmpty, result.2.status))
      = some (true, .rejected, true, .connected) := by
    decide +kernel
  have inOrder : ((unvaried.proceed emptyDocument
          [.handle 2 .setUp, .handle 0 (.subscribed .state)]).bind
        fun prepared => (prepared.2.proceed emptyDocument [.handle 0 (.subscribed .server2Client),
          .handle 0 (.write .state Channel.startMarker)]).map (·.1))
      = some [(some .success, .connected), (some .success, .started)] := by
    decide +kernel
  obtain ⟨⟨_, s⟩, prepared, overtaken⟩ := Option.bind_eq_some_iff.mp overtaken
  obtain ⟨⟨_, s'⟩, handle_eq, heq⟩ := Option.map_eq_some_iff.mp overtaken
  simp only [Prod.mk.injEq, List.isEmpty_iff] at heq
  obtain ⟨heard, rfl, heard', status_eq⟩ := heq
  rw [prepared, Option.bind_some] at inOrder
  obtain ⟨earlier, history⟩ := (History.fresh _ _).proceed prepared
  obtain ⟨applied, handles⟩ := Session.exists_handles_iff.mpr ⟨1, handle_eq⟩
  have spawned : Runs emptyDocument (fun _ _ => True) s [] (.spawn s) := .spawn
  have told := (spawned.receive (.post (.subscribed .server2Client)) rfl).receive
    (.command (.event (.write .state Channel.startMarker) (some 0))) rfl
  refine ⟨_, s, _, _, history, told.turn rfl (Outcome.handle (.command rfl) handles).turn, heard,
    rfl, ?_, rfl, status_eq, inOrder⟩
  have posted_eq := handles.posted_eq
  rw [heard', List.append_nil] at posted_eq
  rw [← posted_eq, Session.post]
  simp

/-- A subscription that was posted is applied by the end of the round of a start that was queued
later. -/
theorem collects_of_command_start :
  ∃ s round a others, Runs emptyDocument (fun _ _ => True) s
      ([.input 0 (.post (.subscribed .server2Client))]
        ++ .input 0 (.command (.event (.write .state Channel.startMarker) (some 0))) :: []
        ++ .round round :: []) a
    ∧ round.taken.command?.isSome
    ∧ round.applied = ⟨round.found, .write .state Channel.startMarker, true⟩ :: others
    ∧ [.subscribed .server2Client] <+: Session.given others
  := by
  obtain ⟨_, s, round, a, -, runs, heard, taken_eq, -⟩ := exists_overtaking
  have takes : round.taken.command?.isSome := by
    rw [taken_eq]
    rfl
  have runs : Runs emptyDocument (fun _ _ => True) s
      ([.input 0 (.post (.subscribed .server2Client))]
        ++ .input 0 (.command (.event (.write .state Channel.startMarker) (some 0))) :: []
        ++ .round round :: []) a := runs
  obtain ⟨-, -, others, applied_eq, arrived⟩ := runs.collects_of_command rfl takes rfl
  rw [heard] at arrived
  exact ⟨s, round, a, others, runs, takes, applied_eq, arrived⟩

/-- A command may be done before an event that was posted before it was queued, and this may be
seen by the reader. -/
theorem not_afterPosted_of_command :
  ∃ earlier s round a others, History emptyDocument earlier [] s
    ∧ Runs emptyDocument (fun _ _ => True) s
      [.input 0 (.post (.subscribed .server2Client)),
        .input 0 (.command (.event (.write .state Channel.startMarker) (some 0))), .round round] a
    ∧ round.applied = ⟨round.found, .write .state Channel.startMarker, true⟩ :: others
    ∧ .subscribed .server2Client ∈ Session.given others
    ∧ a.answers = [(0, .acknowledged .rejected)]
    ∧ a.session.status = .connected
    ∧ (s.proceed emptyDocument [.handle 0 (.subscribed .server2Client),
        .handle 0 (.write .state Channel.startMarker)]).map (·.1)
      = some [(some .success, .connected), (some .success, .started)]
  := by
  obtain ⟨earlier, s, round, a, history, runs, -, taken_eq, overtaken, outcome⟩ := exists_overtaking
  obtain ⟨_, _, turn⟩ := runs.exists_turn_of_mem List.mem_cons_self
  have event_eq : round.taken.event? = some (.write .state Channel.startMarker) := by
    rw [taken_eq]
    rfl
  obtain ⟨others, applied_eq⟩ := turn.applied_eq event_eq rfl
  rw [applied_eq] at overtaken
  exact ⟨earlier, s, round, a, others, history, runs, applied_eq, overtaken, outcome⟩

end Presentment.Actor
