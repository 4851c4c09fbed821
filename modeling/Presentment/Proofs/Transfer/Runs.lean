import Presentment.Proofs.Transfer.Apply

/-!
# Runs

A session is `Handled` when it has been handling events, one call after the other, each call
perhaps with another setup.  Between two calls the host may change and events may be posted.
What every application of an event keeps while others wait is kept by every call.  A session
is `Reached` when it has been applying events, in the middle of a call or between two of them,
and `Recorded` when it is also known which host each of its actions found.
-/

namespace Presentment.Session

variable {η κ : Type}

theorem drain_of_posted_eq_nil {setup : Setup η κ} {s : Session η κ} (h : s.posted = [])
    (fuel : Nat) :
  s.drain setup fuel [] = some s
  := by
  rw [drain, h]

/-- The first event that was posted is applied when nothing follows. -/
theorem drain_posted {setup : Setup η κ} {s : Session η κ} {event : Event} {posted : List Event}
    (h : s.posted = event :: posted) (fuel : Nat) :
  s.drain setup (fuel + 1) []
    = ({ s with posted := posted }.apply setup event).2.2.drain setup fuel
        ({ s with posted := posted }.apply setup event).2.1
  := by
  rw [drain, h]

theorem drain_zero_posted {setup : Setup η κ} {s : Session η κ} {event : Event}
    {posted : List Event} (h : s.posted = event :: posted) :
  s.drain setup 0 [] = none
  := by
  rw [drain, h]

/-- Unless it is a preview, a session applies an event and all that follows from it. -/
theorem handle_of_shown {setup : Setup η κ} (shown : setup.config.preview = false) (fuel : Nat)
    (event : Event) (s : Session η κ) :
  s.handle setup fuel event
    = ((s.apply setup event).2.2.drain setup fuel (s.apply setup event).2.1).map
        ((s.apply setup event).1, ·)
  := by
  rw [handle, if_neg (by rw [shown]; exact Bool.false_ne_true)]

/-- What applying an event keeps, whichever events still wait, holds when none waits. -/
theorem drain_induction {setup : Setup η κ} {motive : List Event → Session η κ → Prop}
    (apply : ∀ event waiting s, motive (event :: waiting) s →
      motive (waiting ++ (s.apply setup event).2.1) (s.apply setup event).2.2)
    (take : ∀ event posted s, s.posted = event :: posted → motive [] s →
      motive [event] { s with posted := posted })
    {fuel : Nat} {queue : List Event} {s s' : Session η κ} (h : motive queue s)
    (hdrain : s.drain setup fuel queue = some s') :
  motive [] s'
  := by
  induction fuel generalizing queue s with
  | zero =>
    cases queue with
    | nil =>
      cases hposted : s.posted with
      | nil =>
        simp only [drain, hposted, Option.some.injEq] at hdrain
        exact hdrain ▸ h
      | cons event posted => simp [drain, hposted] at hdrain
    | cons event queue => simp [drain] at hdrain
  | succ fuel ih =>
    cases queue with
    | nil =>
      cases hposted : s.posted with
      | nil =>
        simp only [drain, hposted, Option.some.injEq] at hdrain
        exact hdrain ▸ h
      | cons event posted =>
        simp only [drain, hposted] at hdrain
        exact ih (apply event [] _ (take event posted s hposted h)) hdrain
    | cons event queue =>
      rw [drain] at hdrain
      exact ih (apply event queue s h) hdrain

/-- While events are applied the host stays in its good states. -/
theorem good_foldl {setup : Setup η κ} {good : η → Prop} {kind : Event → Prop}
    (posts : setup.host.Posts good kind) (events : List Event) {s : Session η κ}
    (h : good s.host) :
  good (events.foldl (fun s event => (s.apply setup event).2.2) s).host
  := by
  induction events generalizing s with
  | nil => exact h
  | cons event events ih =>
    obtain ⟨actions, took⟩ := (apply_step setup event s).took
    apply ih
    rw [took.host_eq]
    exact (posts.replay actions h).1

/-- A session between two calls. -/
inductive Handled : Session η κ → Prop
  | fresh (supply : Supply) (host : η) : Handled (Session.fresh supply host)
  | handle {setup : Setup η κ} {fuel : Nat} {event : Event} {acknowledgement : Acknowledgement}
      {s s' : Session η κ} :
      Handled s → s.handle setup fuel event = some (acknowledgement, s') → Handled s'
  | handlePosted {setup : Setup η κ} {fuel : Nat} {s s' : Session η κ} :
      Handled s → s.handlePosted setup fuel = some s' → Handled s'
  /-- Something happens to the host. -/
  | outside {s : Session η κ} (host : η) (posted : List Event) :
      Handled s → Handled { s with host := host, posted := posted }

/-- What holds at first, and is kept by every application of an event and by the host, holds
between any two calls. -/
theorem Handled.induction {motive : List Event → Session η κ → Prop}
    (fresh : ∀ supply host, motive [] (Session.fresh supply host))
    (apply : ∀ setup event waiting s, motive (event :: waiting) s →
      motive (waiting ++ (s.apply setup event).2.1) (s.apply setup event).2.2)
    (receive : ∀ event s, motive [] s → motive [event] s)
    (outside : ∀ host posted s, motive [] s → motive [] { s with host := host, posted := posted })
    {s : Session η κ} (h : Handled s) :
  motive [] s
  := by
  have take : ∀ event posted s, s.posted = event :: posted → motive [] s →
      motive [event] { s with posted := posted } := by
    intro event posted s _ hs
    exact receive event _ (outside s.host posted s hs)
  induction h with
  | fresh supply host => exact fresh supply host
  | @handle setup fuel event acknowledgement s s' _ heq ih =>
    rw [Session.handle] at heq
    split at heq
    · cases heq
      exact ih
    · rw [Option.map_eq_some_iff] at heq
      obtain ⟨_, hdrain, hpair⟩ := heq
      cases hpair
      exact drain_induction (apply setup) take (apply setup event [] s (receive event s ih)) hdrain
  | @handlePosted setup fuel s s' _ heq ih =>
    rw [Session.handlePosted] at heq
    split at heq
    · cases heq
      exact outside s.host [] s ih
    · exact drain_induction (apply setup) take ih heq
  | outside host posted _ ih => exact outside host posted _ ih

/-! ### Reached sessions -/

/-- A session that has been applying events, in any order, while things happened to the host
and events were posted. -/
inductive Reached (setup : Setup η κ) : Session η κ → Prop
  | fresh (supply : Supply) (host : η) : Reached setup (Session.fresh supply host)
  | apply {s : Session η κ} (event : Event) :
      Reached setup s → Reached setup (s.apply setup event).2.2
  | outside {s : Session η κ} (host : η) (posted : List Event) :
      Reached setup s → Reached setup { s with host := host, posted := posted }

theorem Reached.foldl {setup : Setup η κ} {s : Session η κ} (h : Reached setup s)
    (events : List Event) :
  Reached setup (events.foldl (fun s event => (s.apply setup event).2.2) s)
  := by
  induction events generalizing s with
  | nil => exact h
  | cons event events ih => exact ih (h.apply event)

theorem Reached.drain {setup : Setup η κ} {fuel : Nat} {queue : List Event} {s s' : Session η κ}
    (h : Reached setup s) (heq : s.drain setup fuel queue = some s') :
  Reached setup s'
  := by
  apply drain_induction (motive := fun _ s => Reached setup s) _ _ h heq
  · intro event _ s hs
    exact hs.apply event
  · intro event posted s _ hs
    exact hs.outside s.host posted

/-- Handling an event is applying it and the events that follow. -/
theorem Reached.handle {setup : Setup η κ} {fuel : Nat} {event : Event}
    {acknowledgement : Acknowledgement} {s s' : Session η κ} (h : Reached setup s)
    (heq : s.handle setup fuel event = some (acknowledgement, s')) :
  Reached setup s'
  := by
  rw [Session.handle] at heq
  split at heq
  · cases heq
    exact h
  · rw [Option.map_eq_some_iff] at heq
    obtain ⟨_, hdrain, hpair⟩ := heq
    cases hpair
    exact (h.apply event).drain hdrain

theorem Reached.handlePosted {setup : Setup η κ} {fuel : Nat} {s s' : Session η κ}
    (h : Reached setup s) (heq : s.handlePosted setup fuel = some s') :
  Reached setup s'
  := by
  rw [Session.handlePosted] at heq
  split at heq
  · cases heq
    exact h.outside s.host []
  · exact h.drain heq

/-! ### Recorded sessions -/

/-- A session that has been applying events, with everything that it did and the host that each
of these actions found. -/
inductive Recorded (setup : Setup η κ) : List (η × Action) → Session η κ → Prop
  | fresh (supply : Supply) (host : η) : Recorded setup [] (Session.fresh supply host)
  | apply {log : List (η × Action)} {s : Session η κ} {actions : List Action} (event : Event) :
      Recorded setup log s → (s.apply setup event).2.2.trace = s.trace ++ actions →
        Recorded setup (log ++ setup.host.observe actions s.host) (s.apply setup event).2.2
  | outside {log : List (η × Action)} {s : Session η κ} (host : η) (posted : List Event) :
      Recorded setup log s → Recorded setup log { s with host := host, posted := posted }

/-- Every session that has been applying events can be recorded. -/
theorem Reached.recorded {setup : Setup η κ} {s : Session η κ} (h : Reached setup s) :
  ∃ log, Recorded setup log s
  := by
  induction h with
  | fresh supply host => exact ⟨[], .fresh supply host⟩
  | @apply s event _ ih =>
    obtain ⟨log, recorded⟩ := ih
    obtain ⟨actions, took⟩ := (apply_step setup event s).took
    exact ⟨_, recorded.apply event took.trace_eq⟩
  | outside host posted _ ih =>
    obtain ⟨log, recorded⟩ := ih
    exact ⟨log, recorded.outside host posted⟩

theorem Recorded.trace_eq {setup : Setup η κ} {log : List (η × Action)} {s : Session η κ}
    (h : Recorded setup log s) :
  s.trace = log.map Prod.snd
  := by
  induction h with
  | fresh supply host => rfl
  | apply event _ trace_eq ih => rw [trace_eq, ih, List.map_append, Host.map_snd_observe]
  | outside host posted _ ih => exact ih

end Presentment.Session
