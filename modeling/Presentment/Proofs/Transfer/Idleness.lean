import Presentment.Proofs.Transfer.Commands

/-!
# Idleness

An actor whose clock stops only when something is ready takes the reader for idle when nothing was
taken for too long.  A question for the status is taken like anything else, so it puts off the time
at which the reader has gone idle: whoever asks often enough keeps a session open for ever.  As long
as no reader is overdue, questions change nothing else: without them the same happens at the same
times.
-/

namespace Presentment

variable {η κ : Type}

/-- Whether a command is one of the questions for the status. -/
def Command.isQuery (among : Nat → Bool) : Command → Bool
  | .status question => among question
  | _ => false

namespace Actor

open Session (Handles History emptyDocument unvaried)

/-! ### Clocks -/

/-- Time passes when nothing is ready, and until the reader has gone idle at most. -/
structure Rests (setup : Setup η κ) (a : Actor η κ) (duration : Nat) : Prop where
  commands_eq : a.isRunning → a.commands = [] ∧ a.isOwned
  posted_eq : a.isRunning → a.session.posted = []
  le_deadline : ∀ deadline ∈ a.deadline? setup, a.now + duration ≤ deadline

/-- When an event was last applied. -/
def heardAt (a : Actor η κ) : Nat :=
  (a.applied.getLast?.map (·.1)).getD 0

/-- Time passes until the reader has to be taken for idle at most: it is counted from the last
event that was applied. -/
def IsTimely (setup : Setup η κ) (a : Actor η κ) (duration : Nat) : Prop :=
  a.isRunning → a.session.status.isExchanging → a.now + duration ≤ a.heardAt + idleTimeout setup

/-- When a round was last made. -/
def lastRound (log : List (Happening η κ)) : Nat :=
  ((rounds log).getLast?.map (·.time)).getD 0

section

variable {setup : Setup η κ} {mayWait : Actor η κ → Nat → Prop} {s : Session η κ}
  {a a' b : Actor η κ} {log : List (Happening η κ)} {round : Round η κ} {input : Input η}
  {duration deadline : Nat}

theorem deadline?_eq_some_iff :
  a.deadline? setup = some deadline
    ↔ (a.isRunning ∧ a.session.status.isExchanging) ∧ a.waitingSince + idleTimeout setup = deadline
  := by
  rw [deadline?, Option.ite_none_right_eq_some, Bool.and_eq_true, Option.some.injEq]

/-- An actor to which nothing comes may be left waiting until its deadline. -/
theorem rests_of_quiet (commands_eq : a.commands = []) (owned : a.isOwned)
    (heard : a.session.posted = [])
    (le_deadline : a.now + duration ≤ a.waitingSince + idleTimeout setup) :
  Rests setup a duration
  := by
  refine ⟨fun _ => ⟨commands_eq, owned⟩, fun _ => heard, ?_⟩
  intro deadline deadline_eq
  obtain ⟨-, rfl⟩ := deadline?_eq_some_iff.mp deadline_eq
  exact le_deadline

theorem Turn.time_eq (h : Turn setup a round a') :
  round.time = a.now ∧ a'.now = a.now
  := by
  cases h.outcome with
  | _ => exact ⟨rfl, rfl⟩

theorem Turn.waitingSince_eq (h : Turn setup a round a') (running : a'.isRunning) :
  a'.waitingSince = a.now
  := by
  cases h.outcome with
  | handle _ _ => rfl
  | tell _ => rfl
  | shutdown _ => cases running
  | close _ _ => cases running

theorem lastRound_concat_input (time : Nat) (input : Input η) :
  lastRound (log ++ [.input time input]) = lastRound log
  := by
  rw [lastRound, rounds_append, rounds_input, List.append_nil]
  rfl

theorem lastRound_concat_round :
  lastRound (log ++ [.round round]) = round.time
  := by
  rw [lastRound, rounds_append, rounds_round, List.getLast?_concat]
  rfl

/-! ### The timer -/

/-- An actor waits since its last round. -/
theorem Runs.waitingSince_eq (h : Runs setup mayWait s log a) (running : a.isRunning) :
  a.waitingSince = lastRound log
  := by
  induction h with
  | spawn => rfl
  | receive input _ receive_eq ih =>
    have admits := admits setup receive_eq
    rw [admits.isRunning_eq] at running
    rw [admits.waitingSince_eq, ih running, lastRound_concat_input]
  | turn _ _ turn _ => rw [turn.waitingSince_eq running, lastRound_concat_round, turn.time_eq.1]
  | wait _ _ _ ih => exact ih running

/-- The clock of an actor stops when the reader has gone idle. -/
theorem Runs.now_le (h : Runs setup (Rests setup) s log a) (running : a.isRunning)
    (exchanging : a.session.status.isExchanging) :
  a.now ≤ a.waitingSince + idleTimeout setup
  := by
  induction h with
  | spawn => exact Nat.zero_le _
  | receive input _ receive_eq ih =>
    have admits := admits setup receive_eq
    rw [admits.isRunning_eq] at running
    rw [admits.session_eq] at exchanging
    rw [admits.now_eq, admits.waitingSince_eq]
    exact ih running exchanging
  | turn _ _ turn _ =>
    rw [turn.waitingSince_eq running, turn.time_eq.2]
    exact Nat.le_add_right _ _
  | wait duration _ rests _ =>
    exact rests.le_deadline _ (deadline?_eq_some_iff.mpr ⟨⟨running, exchanging⟩, rfl⟩)

/-- The reader is taken for idle just when no round was made for too long. -/
theorem Runs.time_of_idle {later : List (Happening η κ)}
    (h : Runs setup (Rests setup) s (log ++ .round round :: later) a)
    (idle : round.taken = .idle) :
  round.found.status.isExchanging ∧ round.time = lastRound log + idleTimeout setup
  := by
  obtain ⟨b, b', runs, running, turn⟩ := h.exists_turn
  cases turn.outcome with
  | handle offers _ =>
    cases offers with
    | command _ => cases idle
    | posted _ => cases idle
    | idle deadline_eq due =>
      obtain ⟨⟨-, exchanging⟩, rfl⟩ := deadline?_eq_some_iff.mp deadline_eq
      use exchanging
      rw [← runs.waitingSince_eq running]
      exact Nat.le_antisymm (runs.now_le running exchanging) due
  | tell _ => cases idle
  | shutdown _ => cases idle
  | close _ _ => cases idle

/-! ### Questions -/

end

/-- Whether one of the questions is queued, or answered. -/
def Happening.isQuery (among : Nat → Bool) : Happening η κ → Bool
  | .input _ (.command command) => command.isQuery among
  | .input _ _ => false
  | .round r => r.taken.command?.any (·.isQuery among)

/-- The log without some of the questions. -/
def withoutQueries (among : Nat → Bool) (log : List (Happening η κ)) : List (Happening η κ) :=
  log.filter (!·.isQuery among)

/-- An actor resembles another that is asked more questions. -/
structure Resembles (among : Nat → Bool) (a a' : Actor η κ) : Prop where
  session_eq : a'.session = a.session
  commands_eq : a'.commands = a.commands.filter (!·.isQuery among)
  isOwned_eq : a'.isOwned = a.isOwned
  isRunning_eq : a'.isRunning = a.isRunning
  now_eq : a'.now = a.now
  applied_eq : a'.applied = a.applied
  /-- Only questions were answered since an event was last applied. -/
  heardAt_le : a.heardAt ≤ a'.waitingSince
  waitingSince_le : a'.waitingSince ≤ a.waitingSince
  waitingSince_le_now : a.waitingSince ≤ a.now

section

variable {setup : Setup η κ} {s : Session η κ} {a a' b : Actor η κ} {log : List (Happening η κ)}
  {round : Round η κ} {input : Input η} {duration deadline : Nat} {among : Nat → Bool}

theorem withoutQueries_concat_of_isQuery {happening : Happening η κ}
    (query : happening.isQuery among) :
  withoutQueries among (log ++ [happening]) = withoutQueries among log
  := by
  rw [withoutQueries, List.filter_append, List.filter_cons_of_neg (by simp [query]),
    List.filter_nil, List.append_nil]
  rfl

theorem withoutQueries_concat {happening : Happening η κ}
    (query : happening.isQuery among = false) :
  withoutQueries among (log ++ [happening]) = withoutQueries among log ++ [happening]
  := by
  rw [withoutQueries, List.filter_append, List.filter_cons_of_pos (by simp [query]),
    List.filter_nil]
  rfl

theorem resembles_spawn (s : Session η κ) :
  Resembles among (.spawn s) (.spawn s)
  := ⟨rfl, rfl, rfl, rfl, rfl, rfl, Nat.le_refl 0, Nat.le_refl 0, Nat.le_refl 0⟩

/-- What comes in for one comes in for the other, unless it is one of the questions. -/
theorem Resembles.receive (h : Resembles among a a') (receive_eq : a.receive? input = some b) :
  ((.input a.now input : Happening η κ).isQuery among → Resembles among b a')
    ∧ ((.input a.now input : Happening η κ).isQuery among = false →
      ∃ b', a'.receive? input = some b' ∧ Resembles among b b')
  := by
  cases input with
  | command command =>
    simp only [receive?, send?, Option.ite_none_right_eq_some, Option.some.injEq] at receive_eq
    obtain ⟨owned, running, rfl⟩ := receive_eq
    rw [← h.isOwned_eq] at owned
    rw [← h.isRunning_eq] at running
    have commands_eq : a'.commands ++ [command].filter (!·.isQuery among)
        = (a.commands ++ [command]).filter (!·.isQuery among) := by
      rw [h.commands_eq, List.filter_append]
    constructor
    · intro query
      have query : command.isQuery among := query
      rw [List.filter_cons_of_neg (by simp [query]), List.filter_nil, List.append_nil] at commands_eq
      exact { h with commands_eq := commands_eq }
    · intro query
      have query : command.isQuery among = false := query
      rw [List.filter_cons_of_pos (by simp [query]), List.filter_nil] at commands_eq
      refine ⟨{ a' with commands := a'.commands ++ [command] }, ?_,
        { h with commands_eq := commands_eq }⟩
      rw [receive?, if_pos owned, send?, if_pos running]
  | post event =>
    simp only [receive?, post?, Option.ite_none_right_eq_some, Option.some.injEq] at receive_eq
    obtain ⟨running, rfl⟩ := receive_eq
    rw [← h.isRunning_eq] at running
    refine ⟨Bool.noConfusion, fun _ => ⟨_, if_pos running, { h with session_eq := ?_ }⟩⟩
    rw [h.session_eq]
  | disown =>
    cases receive_eq
    exact ⟨Bool.noConfusion, fun _ => ⟨_, rfl, { h with isOwned_eq := rfl }⟩⟩
  | outside change =>
    cases receive_eq
    refine ⟨Bool.noConfusion, fun _ => ⟨_, rfl, { h with session_eq := ?_ }⟩⟩
    rw [h.session_eq]

theorem Resembles.offers {taken : Taken} {event : Event} {found : Session η κ}
    {commands : List Command} (h : Resembles among a a')
    (offers : Offers setup a taken event found commands) :
  Offers setup a' taken event found (commands.filter (!·.isQuery among))
  := by
  cases offers with
  | command commands_eq =>
    rw [← h.session_eq]
    exact .command (by rw [h.commands_eq, commands_eq]; rfl)
  | posted posted_eq =>
    rw [← h.session_eq] at posted_eq ⊢
    rw [← h.commands_eq]
    exact .posted posted_eq
  | idle deadline_eq due =>
    obtain ⟨⟨running, exchanging⟩, rfl⟩ := deadline?_eq_some_iff.mp deadline_eq
    rw [← h.isRunning_eq] at running
    rw [← h.session_eq] at exchanging ⊢
    rw [← h.commands_eq]
    refine .idle (deadline?_eq_some_iff.mpr ⟨⟨running, exchanging⟩, rfl⟩) ?_
    rw [h.now_eq]
    exact (Nat.add_le_add_right h.waitingSince_le _).trans due

/-- A round that one makes is made by the other, unless it answers one of the questions. -/
theorem Resembles.turn (h : Resembles among a a') (turn : Turn setup a round b) :
  ((Happening.round round).isQuery among → Resembles among b a')
    ∧ ((Happening.round round).isQuery among = false →
      ∃ b', Turn setup a' round b' ∧ Resembles among b b')
  := by
  have answered : a'.waitingSince ≤ a.now := h.waitingSince_le.trans h.waitingSince_le_now
  cases turn.outcome with
  | @handle taken event found s commands acknowledgement applied offers handles =>
    have handled := (Outcome.handle (h.offers offers) handles).turn
    rw [h.now_eq] at handled
    constructor
    · intro query
      cases offers with
      | command _ => cases query
      | posted _ => cases query
      | idle _ _ => cases query
    · intro _
      refine ⟨_, handled, rfl, rfl, h.isOwned_eq, h.isRunning_eq, rfl, ?_, ?_, Nat.le_refl _,
        Nat.le_refl _⟩
      · exact congrArg (· ++ [(a.now, event)]) h.applied_eq
      · rw [heardAt, List.getLast?_concat]
        exact Nat.le_refl _
  | @tell question commands commands_eq =>
    have filtered := h.commands_eq
    rw [commands_eq] at filtered
    constructor
    · intro query
      have query : among question := query
      rw [List.filter_cons_of_neg (by simp [query, Command.isQuery])] at filtered
      exact { h with
        commands_eq := filtered
        waitingSince_le := answered
        waitingSince_le_now := Nat.le_refl _ }
    · intro query
      have query : among question = false := query
      rw [List.filter_cons_of_pos (by simp [query, Command.isQuery])] at filtered
      have told : Turn setup a' _ _ := (Outcome.tell filtered).turn
      rw [h.now_eq, h.session_eq] at told
      exact ⟨_, told, rfl, rfl, h.isOwned_eq, h.isRunning_eq, rfl, h.applied_eq,
        h.heardAt_le.trans answered, Nat.le_refl _, Nat.le_refl _⟩
  | shutdown commands_eq =>
    have filtered := h.commands_eq
    rw [commands_eq] at filtered
    have stopped : Turn setup a' _ _ := (Outcome.shutdown filtered).turn
    rw [h.now_eq, h.session_eq] at stopped
    refine ⟨Bool.noConfusion, fun _ => ⟨_, stopped, ?_⟩⟩
    exact { h with
      commands_eq := rfl
      isRunning_eq := rfl }
  | close commands_eq disowned =>
    have filtered := h.commands_eq
    rw [commands_eq] at filtered
    rw [← h.isOwned_eq] at disowned
    have closed : Turn setup a' _ _ := (Outcome.close filtered disowned).turn
    rw [h.now_eq, h.session_eq] at closed
    refine ⟨Bool.noConfusion, fun _ => ⟨_, closed, ?_⟩⟩
    exact { h with
      commands_eq := rfl
      isRunning_eq := rfl }

theorem Resembles.rests (h : Resembles among a a') (rests : Rests setup a duration)
    (timely : IsTimely setup a duration) :
  Rests setup a' duration
  := by
  constructor
  case commands_eq =>
    rw [h.isRunning_eq, h.isOwned_eq, h.commands_eq]
    intro running
    obtain ⟨commands_eq, owned⟩ := rests.commands_eq running
    rw [commands_eq]
    exact ⟨rfl, owned⟩
  case posted_eq =>
    rw [h.isRunning_eq, h.session_eq]
    exact rests.posted_eq
  case le_deadline =>
    intro deadline deadline_eq
    obtain ⟨⟨running, exchanging⟩, rfl⟩ := deadline?_eq_some_iff.mp deadline_eq
    rw [h.isRunning_eq] at running
    rw [h.session_eq] at exchanging
    rw [h.now_eq]
    exact (timely running exchanging).trans (Nat.add_le_add_right h.heardAt_le _)

/-- As long as the reader is not overdue, everything else happens in the same way at the same times
when some of the questions are not asked. -/
theorem Runs.withoutQueries
    (h : Runs setup (fun a duration => Rests setup a duration ∧ IsTimely setup a duration) s log a)
    (among : Nat → Bool) :
  ∃ a', Runs setup (Rests setup) s (withoutQueries among log) a' ∧ Resembles among a a'
  := by
  induction h with
  | spawn => exact ⟨_, .spawn, resembles_spawn s⟩
  | @receive log a b input _ receive_eq ih =>
    obtain ⟨a', runs, resembles⟩ := ih
    obtain ⟨unasked, asked⟩ := resembles.receive receive_eq
    cases query : (.input a.now input : Happening η κ).isQuery among with
    | true =>
      rw [withoutQueries_concat_of_isQuery query]
      exact ⟨a', runs, unasked query⟩
    | false =>
      obtain ⟨b', receive_eq, resembles'⟩ := asked query
      rw [withoutQueries_concat query, ← resembles.now_eq]
      exact ⟨b', runs.receive input receive_eq, resembles'⟩
  | @turn log a b round _ running turn ih =>
    obtain ⟨a', runs, resembles⟩ := ih
    obtain ⟨unanswered, answered⟩ := resembles.turn turn
    cases query : (Happening.round round).isQuery among with
    | true =>
      rw [withoutQueries_concat_of_isQuery query]
      exact ⟨a', runs, unanswered query⟩
    | false =>
      obtain ⟨b', turn', resembles'⟩ := answered query
      rw [← resembles.isRunning_eq] at running
      rw [withoutQueries_concat query]
      exact ⟨b', runs.turn running turn', resembles'⟩
  | @wait log a duration _ waits ih =>
    obtain ⟨a', runs, resembles⟩ := ih
    have rests := resembles.rests waits.1 waits.2
    refine ⟨_, runs.wait duration rests, { resembles with now_eq := ?_, waitingSince_le_now := ?_ }⟩
    · exact congrArg (· + duration) resembles.now_eq
    · exact Nat.le_add_right_of_le resembles.waitingSince_le_now

/-- When no question was asked, an actor waits since an event was last applied. -/
theorem Runs.waitingSince_eq_heardAt {mayWait : Actor η κ → Nat → Prop}
    (h : Runs setup mayWait s log a) (running : a.isRunning)
    (unasked : ∀ happening ∈ log, happening.isQuery (fun _ => true) = false) :
  a.waitingSince = a.heardAt
  := by
  induction h with
  | spawn => rfl
  | receive input _ receive_eq ih =>
    have admits := admits setup receive_eq
    rw [admits.isRunning_eq] at running
    rw [admits.waitingSince_eq, heardAt, admits.applied_eq]
    exact ih running fun happening mem => unasked happening (List.mem_append_left _ mem)
  | turn _ _ turn _ =>
    cases turn.outcome with
    | handle _ _ =>
      rw [heardAt, List.getLast?_concat]
      rfl
    | tell _ => cases unasked _ (List.mem_append_right _ (List.mem_singleton_self _))
    | shutdown _ => cases running
    | close _ _ => cases running
  | wait _ _ _ ih => exact ih running unasked

/-- A session can be asked for its status again and again, and as long as this is done often enough
nothing else happens. -/
theorem exists_runs_asked (heard : s.posted = []) {period : Nat}
    (often : period ≤ idleTimeout setup) (count : Nat) :
  ∃ log answers, Runs setup (Rests setup) s log { Actor.spawn s with
      now := count * period
      waitingSince := count * period
      answers := answers }
    ∧ ∀ happening ∈ log, happening.isQuery (fun _ => true)
  := by
  induction count with
  | zero =>
    rw [Nat.zero_mul]
    exact ⟨[], [], .spawn, fun _ mem => absurd mem List.not_mem_nil⟩
  | succ count ih =>
    obtain ⟨log, answers, runs, queries⟩ := ih
    have waited := runs.wait period (rests_of_quiet rfl rfl heard (Nat.add_le_add_left often _))
    have asked := (waited.receive (.command (.status count)) rfl).turn rfl (Outcome.tell rfl).turn
    rw [← Nat.succ_mul] at asked
    refine ⟨_, _, asked, ?_⟩
    intro happening mem
    rw [List.append_assoc] at mem
    rcases List.mem_append.mp mem with mem | mem
    · exact queries happening mem
    · simp only [List.cons_append, List.nil_append, List.mem_cons, List.not_mem_nil,
        or_false] at mem
      obtain rfl | rfl := mem
      · rfl
      · rfl

/-- Nothing but a reader that goes idle keeps time from passing. -/
theorem Runs.now_le_of_nil (h : Runs setup (Rests setup) s [] a)
    (exchanging : s.status.isExchanging) :
  a.now ≤ idleTimeout setup
  := by
  have quiet : a.isRunning ∧ a.session = s := by
    generalize log_eq : ([] : List (Happening η κ)) = log at h
    induction h with
    | spawn => exact ⟨rfl, rfl⟩
    | receive _ _ _ _ => simp at log_eq
    | turn _ _ _ _ => simp at log_eq
    | wait _ _ _ ih => exact ih log_eq
  rw [← quiet.2] at exchanging
  have now_le := h.now_le quiet.1 exchanging
  rw [h.waitingSince_eq quiet.1] at now_le
  exact now_le.trans (Nat.le_of_eq (Nat.zero_add _))

/-- A reader from which nothing comes is taken for idle. -/
theorem exists_runs_idle {acknowledgement : Acknowledgement} {applied : List (Occurrence η κ)}
    {s' : Session η κ} (heard : s.posted = []) (exchanging : s.status.isExchanging)
    (handles : Handles setup .idleTimeout s acknowledgement applied s') :
  ∃ round a, Runs setup (Rests setup) s [.round round] a
    ∧ a.session = s'
    ∧ a.applied = [(idleTimeout setup, .idleTimeout)]
  := by
  have waited := (Runs.spawn : Runs setup (Rests setup) s [] (.spawn s)).wait (idleTimeout setup)
    (rests_of_quiet rfl rfl heard (Nat.le_refl _))
  have due : Offers setup { Actor.spawn s with now := 0 + idleTimeout setup } .idle .idleTimeout s
      [] := .idle (deadline?_eq_some_iff.mpr ⟨⟨rfl, exchanging⟩, rfl⟩) (Nat.le_refl _)
  exact ⟨_, _, waited.turn rfl (Outcome.handle due handles).turn, rfl,
    congrArg (fun time => [(time, Event.idleTimeout)]) (Nat.zero_add _)⟩

/-- The status is asked for once while the reader may still be idle, and then an event is sent. -/
theorem exists_runs_askedOnce {acknowledgement : Acknowledgement}
    {applied : List (Occurrence η κ)} {s' : Session η κ} {event : Event} {first second : Nat}
    (heard : s.posted = []) (timely : first + second ≤ idleTimeout setup)
    (handles : Handles setup event s acknowledgement applied s') :
  ∃ log a, Runs setup (fun a duration => Rests setup a duration ∧ IsTimely setup a duration) s log a
    ∧ a.session = s'
    ∧ a.answers = [(0, .status s.status)]
    ∧ a.applied = [(first + second, event)]
  := by
  have spawned : Runs setup (fun a duration => Rests setup a duration ∧ IsTimely setup a duration) s
      [] (.spawn s) := .spawn
  have before : 0 + first ≤ 0 + idleTimeout setup :=
    Nat.add_le_add_left ((Nat.le_add_right first second).trans timely) 0
  have after : 0 + first + second ≤ 0 + idleTimeout setup := by
    rw [Nat.add_assoc]
    exact Nat.add_le_add_left timely 0
  have later : 0 + first + second ≤ 0 + first + idleTimeout setup :=
    after.trans (Nat.add_le_add_right (Nat.le_add_right 0 first) _)
  have asked := ((spawned.wait first ⟨rests_of_quiet rfl rfl heard before,
    fun _ _ => before⟩).receive (.command (.status 0)) rfl).turn rfl (Outcome.tell rfl).turn
  have sent := ((asked.wait second ⟨rests_of_quiet rfl rfl heard later,
    fun _ _ => after⟩).receive (.command (.event event none)) rfl).turn rfl
      (Outcome.handle (.command rfl) handles).turn
  exact ⟨_, _, sent, rfl, rfl,
    congrArg (fun time => [(time + second, event)]) (Nat.zero_add first)⟩

/-- A reader that has started to exchange messages. -/
theorem exists_started :
  ∃ earlier s, History emptyDocument earlier [] s
    ∧ s.posted = []
    ∧ s.status = .started
    ∧ (s.handle emptyDocument 0 (.subscribed .state)).map (·.2.status) = some .started
    ∧ (s.handle emptyDocument 0 .idleTimeout).map (·.2.status) = some .disconnected
  := by
  have run : (unvaried.proceed emptyDocument [.handle 2 .setUp, .handle 0 (.subscribed .state),
          .handle 0 (.subscribed .server2Client), .handle 0 (.write .state Channel.startMarker)]).map
        (fun result => (result.2.posted.isEmpty, result.2.status,
          (result.2.handle emptyDocument 0 (.subscribed .state)).map (·.2.status),
          (result.2.handle emptyDocument 0 .idleTimeout).map (·.2.status)))
      = some (true, .started, some .started, some .disconnected) := by
    decide +kernel
  obtain ⟨⟨_, s⟩, prepared, heq⟩ := Option.map_eq_some_iff.mp run
  simp only [Prod.mk.injEq, List.isEmpty_iff] at heq
  obtain ⟨earlier, history⟩ := (History.fresh _ _).proceed prepared
  exact ⟨earlier, s, history, heq⟩

/-! ### Idle readers -/

/-- A reader is taken for idle when no round was made for as long as is allowed, and no later: when
no question was asked, this is the time since an event was last applied.  As long as it is not
passed, everything else happens at the same times when some of the questions are not asked. -/
theorem runs_idle (h : Runs setup (Rests setup) s log a) :
  (∀ before round after, log = before ++ .round round :: after → round.taken = .idle →
      round.found.status.isExchanging ∧ round.time = lastRound before + idleTimeout setup)
    ∧ (a.isRunning → a.session.status.isExchanging → a.now ≤ lastRound log + idleTimeout setup)
    ∧ (a.isRunning → (∀ happening ∈ log, happening.isQuery (fun _ => true) = false) →
      lastRound log = a.heardAt)
    ∧ (Runs setup (fun a duration => Rests setup a duration ∧ IsTimely setup a duration) s log a →
      ∀ among, ∃ a', Runs setup (Rests setup) s (withoutQueries among log) a'
        ∧ a'.session = a.session ∧ a'.applied = a.applied ∧ a'.now = a.now)
  := by
  refine ⟨?_, ?_, ?_, ?_⟩
  · rintro before round after rfl idle
    exact h.time_of_idle idle
  · intro running exchanging
    rw [← h.waitingSince_eq running]
    exact h.now_le running exchanging
  · intro running unasked
    rw [← h.waitingSince_eq running]
    exact h.waitingSince_eq_heardAt running unasked
  · intro timely among
    obtain ⟨a', runs, resembles⟩ := timely.withoutQueries among
    exact ⟨a', runs, resembles.session_eq, resembles.applied_eq, resembles.now_eq⟩

/-- The status is asked for after forty seconds, and after a minute the reader subscribes again. -/
theorem runs_idle_started :
  ∃ s log a, Runs emptyDocument (Rests emptyDocument) s log a
    ∧ Runs emptyDocument
      (fun a duration => Rests emptyDocument a duration ∧ IsTimely emptyDocument a duration) s log a
    ∧ a.session.status = .started
    ∧ a.answers = [(0, .status .started)]
    ∧ a.applied = [(60000, .subscribed .state)]
    ∧ ∃ a', Runs emptyDocument (Rests emptyDocument) s (withoutQueries (fun _ => true) log) a'
      ∧ a'.session = a.session ∧ a'.applied = a.applied ∧ a'.now = a.now
  := by
  obtain ⟨_, s, -, heard, status_eq, subscribed, -⟩ := exists_started
  obtain ⟨⟨_, s'⟩, handle_eq, started⟩ := Option.map_eq_some_iff.mp subscribed
  obtain ⟨applied, handles⟩ := Session.exists_handles_iff.mpr ⟨0, handle_eq⟩
  have timely : 40000 + 20000 ≤ idleTimeout emptyDocument := by decide
  obtain ⟨log, a, runs, session_eq, answers_eq, applied_eq⟩ :=
    exists_runs_askedOnce heard timely handles
  have rested := runs.imp fun _ _ waits => waits.1
  obtain ⟨-, -, -, unasked⟩ := runs_idle rested
  rw [status_eq] at answers_eq
  rw [← session_eq] at started
  exact ⟨s, log, a, rested, runs, started, answers_eq, applied_eq, unasked runs _⟩

/-- A reader from which nothing comes is taken for idle after a minute, but not when the status is
asked for after forty seconds, and again after eighty. -/
theorem not_idle_of_asked :
  ∃ earlier s log a, History emptyDocument earlier [] s
    ∧ Runs emptyDocument (Rests emptyDocument) s log a
    ∧ a.isRunning ∧ a.session.status = .started ∧ a.applied = [] ∧ a.now = 80000
    ∧ (¬∃ a', Runs emptyDocument (Rests emptyDocument) s (withoutQueries (fun _ => true) log) a'
      ∧ a'.now = a.now)
    ∧ ∃ round a', Runs emptyDocument (Rests emptyDocument) s [.round round] a'
      ∧ a'.session.status = .disconnected
      ∧ a'.applied = [(60000, .idleTimeout)]
  := by
  obtain ⟨earlier, s, history, heard, status_eq, -, idle⟩ := exists_started
  have exchanging : s.status.isExchanging := by
    rw [status_eq]
    rfl
  have often : 40000 ≤ idleTimeout emptyDocument := by decide
  obtain ⟨log, answers, asked, queries⟩ := exists_runs_asked heard often 2
  refine ⟨earlier, s, log, _, history, asked, rfl, status_eq, rfl, rfl, ?_, ?_⟩
  · rintro ⟨a', runs, now_eq⟩
    have unasked : withoutQueries (fun _ => true) log = [] := by
      rw [withoutQueries, List.filter_eq_nil_iff]
      intro happening mem
      simp [queries happening mem]
    rw [unasked] at runs
    have late : 2 * 40000 ≤ idleTimeout emptyDocument :=
      (Nat.le_of_eq now_eq.symm).trans (runs.now_le_of_nil exchanging)
    exact absurd late (by decide)
  · obtain ⟨⟨_, s'⟩, handle_eq, disconnected⟩ := Option.map_eq_some_iff.mp idle
    obtain ⟨applied, handles⟩ := Session.exists_handles_iff.mpr ⟨0, handle_eq⟩
    obtain ⟨round, a', runs, session_eq, applied_eq⟩ := exists_runs_idle heard exchanging handles
    rw [← session_eq] at disconnected
    exact ⟨round, a', runs, disconnected, applied_eq⟩

end

end Actor

end Presentment
