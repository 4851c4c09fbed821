import Presentment.Proofs.Transfer.Resources

/-!
# Histories

From outside, a session handles events and is told of others, and things happen to its host:
`proceed` tells how it answers.  Its `History` tells which events were applied meanwhile: for
each of them, what it found, and whether it was given to the session or followed from the event
before.  What follows is applied first, so an event is given only when nothing else waits.
-/

namespace Presentment

/-- What may be done with a session from outside.  The numbers bound how many further events are
applied. -/
inductive Impulse (η : Type) where
  | handle (fuel : Nat) (event : Event)
  | handlePosted (fuel : Nat)
  /-- Something happens to the host, and events are posted. -/
  | outside (change : η → η) (posted : List Event)

/-- An event that was applied. -/
structure Occurrence (η κ : Type) where
  /-- The session that it found. -/
  session : Session η κ
  event : Event
  /-- Whether it came from outside. -/
  isGiven : Bool

namespace Session

variable {η κ : Type}

/-! ### Answers -/

/-- Does what an impulse asks for: the answer, if one is given. -/
def react (setup : Setup η κ) (impulse : Impulse η) (s : Session η κ) :
    Option (Option Acknowledgement × Session η κ) :=
  match impulse with
  | .handle fuel event => (s.handle setup fuel event).map (fun result => (some result.1, result.2))
  | .handlePosted fuel => (s.handlePosted setup fuel).map (none, ·)
  | .outside change posted =>
    some (none, { s with host := change s.host, posted := s.posted ++ posted })

/-- Does what impulses ask for, one after the other: for each of them the answer and the status
after it. -/
def proceed (setup : Setup η κ) : List (Impulse η) → Session η κ →
    Option (List (Option Acknowledgement × TransferStatus) × Session η κ)
  | [], s => some ([], s)
  | impulse :: rest, s =>
    (s.react setup impulse).bind fun reaction =>
      (proceed setup rest reaction.2).map fun result =>
        ((reaction.1, reaction.2.status) :: result.1, result.2)

/-! ### What was applied -/

/-- A session with its history, and the events that follow from the last one. -/
inductive History (setup : Setup η κ) : List (Occurrence η κ) → List Event → Session η κ → Prop
  | fresh (supply : Supply) (host : η) : History setup [] [] (Session.fresh supply host)
  | give {log : List (Occurrence η κ)} {s : Session η κ} (event : Event) :
      History setup log [] s →
        History setup (log ++ [⟨s, event, true⟩]) (s.apply setup event).2.1
          (s.apply setup event).2.2
  | follow {log : List (Occurrence η κ)} {event : Event} {waiting : List Event}
      {s : Session η κ} :
      History setup log (event :: waiting) s →
        History setup (log ++ [⟨s, event, false⟩]) (waiting ++ (s.apply setup event).2.1)
          (s.apply setup event).2.2
  | outside {log : List (Occurrence η κ)} {s : Session η κ} (host : η) (posted : List Event) :
      History setup log [] s → History setup log [] { s with host := host, posted := posted }

section

variable {setup : Setup η κ} {log : List (Occurrence η κ)} {waiting : List Event}
  {fuel : Nat} {s s' : Session η κ}

theorem History.reached (h : History setup log waiting s) :
  Reached setup s
  := by
  induction h with
  | fresh supply host => exact .fresh supply host
  | give event _ ih => exact ih.apply event
  | follow _ ih => exact ih.apply _
  | outside host posted _ ih => exact ih.outside host posted

/-- An event that comes in does not change what a session holds. -/
theorem Settles.receive (h : Settles [] s) (event : Event) :
  Settles [event] s
  := { h with
    outgoing_ne_nil := fun hstatus =>
      (h.outgoing_ne_nil hstatus).imp_right (List.mem_cons_of_mem event) }

theorem History.settles (h : History setup log waiting s) :
  Settles waiting s
  := by
  induction h with
  | fresh supply host => exact settles_fresh supply host
  | @give _ s event _ ih => exact (apply_step setup event s).settles (ih.receive event)
  | follow _ ih => exact (apply_step setup _ _).settles ih
  | outside host posted _ ih =>
    exact ⟨ih.engagement, ih.tunnel, ih.pending, ih.reassembly, ih.outgoing_ne_nil,
      ih.outgoing_eq_nil, ih.advertising, ih.alternates, ih.subscribed, ih.unsubscribed⟩

/-- The history goes on until nothing waits. -/
theorem History.drain (h : History setup log waiting s)
    (heq : s.drain setup fuel waiting = some s') :
  ∃ later, History setup (log ++ later) [] s'
  := by
  -- An event that was posted waits alone, and is then given.
  have run : ∃ later, History setup (log ++ later) [] s'
      ∨ ∃ event : Event, [] = [event] ∧ History setup (log ++ later) [] s' := by
    refine drain_induction (motive := fun queue s => ∃ later, History setup (log ++ later) queue s
      ∨ ∃ event, queue = [event] ∧ History setup (log ++ later) [] s) ?apply ?take ?start heq
    case start =>
      use []
      rw [List.append_nil]
      exact .inl h
    case apply =>
      rintro event waiting s ⟨later, followed | ⟨_, heq, given⟩⟩
      · use later ++ [⟨s, event, false⟩]
        rw [← List.append_assoc]
        exact .inl followed.follow
      · cases heq
        use later ++ [⟨s, event, true⟩]
        rw [← List.append_assoc]
        exact .inl (given.give event)
    case take =>
      rintro event posted s - ⟨later, quiet | ⟨_, heq, -⟩⟩
      · exact ⟨later, .inr ⟨event, rfl, quiet.outside s.host posted⟩⟩
      · cases heq
  obtain ⟨later, done | ⟨_, heq, -⟩⟩ := run
  · exact ⟨later, done⟩
  · cases heq

theorem History.handle {event : Event} {acknowledgement : Acknowledgement}
    (h : History setup log [] s)
    (heq : s.handle setup fuel event = some (acknowledgement, s')) :
  ∃ later, History setup (log ++ later) [] s'
  := by
  rw [Session.handle] at heq
  split at heq
  · cases heq
    use []
    rw [List.append_nil]
    exact h
  · rw [Option.map_eq_some_iff] at heq
    obtain ⟨_, hdrain, hpair⟩ := heq
    cases hpair
    obtain ⟨later, done⟩ := (h.give event).drain hdrain
    rw [List.append_assoc] at done
    exact ⟨_, done⟩

theorem History.handlePosted (h : History setup log [] s)
    (heq : s.handlePosted setup fuel = some s') :
  ∃ later, History setup (log ++ later) [] s'
  := by
  rw [Session.handlePosted] at heq
  split at heq
  · cases heq
    use []
    rw [List.append_nil]
    exact h.outside s.host []
  · exact h.drain heq

/-- Between two impulses nothing follows. -/
theorem History.react {impulse : Impulse η} {answer : Option Acknowledgement}
    (h : History setup log [] s) (heq : s.react setup impulse = some (answer, s')) :
  ∃ later, History setup (log ++ later) [] s'
  := by
  cases impulse with
  | handle fuel event =>
    obtain ⟨result, handle_eq, hpair⟩ := Option.map_eq_some_iff.mp heq
    cases hpair
    exact h.handle handle_eq
  | handlePosted fuel =>
    obtain ⟨_, handle_eq, hpair⟩ := Option.map_eq_some_iff.mp heq
    cases hpair
    exact h.handlePosted handle_eq
  | outside change posted =>
    cases heq
    use []
    rw [List.append_nil]
    exact h.outside _ _

theorem History.proceed {impulses : List (Impulse η)}
    {answers : List (Option Acknowledgement × TransferStatus)} (h : History setup log [] s)
    (heq : s.proceed setup impulses = some (answers, s')) :
  ∃ later, History setup (log ++ later) [] s'
  := by
  induction impulses generalizing log answers s with
  | nil =>
    cases heq
    use []
    rw [List.append_nil]
    exact h
  | cons impulse rest ih =>
    obtain ⟨⟨answer, s₁⟩, react_eq, hrest⟩ := Option.bind_eq_some_iff.mp heq
    obtain ⟨⟨others, _⟩, proceed_eq, hpair⟩ := Option.map_eq_some_iff.mp hrest
    cases hpair
    obtain ⟨later, reacted⟩ := h.react react_eq
    obtain ⟨later', done⟩ := ih reacted proceed_eq
    rw [List.append_assoc] at done
    exact ⟨_, done⟩

end

end Session

end Presentment
