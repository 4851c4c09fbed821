import Presentment.Proofs.Framing
import Presentment.Proofs.Transfer.Period

/-!
# The longest notification

The configuration and the radio limit how long a notification may be.  Messages are cut into
blocks that leave room for the header, but of one byte at least, so that a limit below two bytes is
not kept.  The invariant is that every notification is a fragment of a message that was cut to the
limit, and what waits to be sent, `Speaks` tells to be a rest of such a message.
-/

namespace Presentment

/-- The longest notification that the configuration and the radio allow. -/
def Setup.longest {η κ : Type} (setup : Setup η κ) (limit : Nat) : Nat :=
  min setup.config.maxFragmentSize limit

/-- With its header, a block is as long as the longest notification that has room for one. -/
theorem Setup.block_size_succ {η κ : Type} (setup : Setup η κ) (h : η) :
  (setup.block h).size + 1 = max 2 (setup.longest (setup.host.maxUpdateLength h))
  := by
  rw [block, BlockSize.atLeastOne, longest]
  dsimp only
  omega

theorem mem_accepted_iff {value : Bytes} {trace : List Action} :
  value ∈ accepted trace ↔ .notify .server2Client value true ∈ trace
  := by
  rw [accepted, List.mem_filterMap]
  constructor
  · rintro ⟨action, haction, heq⟩
    unfold Action.accepted? at heq
    split at heq
    · cases heq
      exact haction
    · cases heq
  · exact fun h => ⟨_, h, rfl⟩

/-- The first of some actions finds the host as it is. -/
theorem Host.exists_mem_observe {η : Type} (host : Host η) {actions : List Action}
    (h : actions ≠ []) (state : η) :
  ∃ action, (state, action) ∈ host.observe actions state
  := by
  cases actions with
  | nil => exact absurd rfl h
  | cons action actions => exact ⟨action, List.mem_cons_self⟩

namespace Session

variable {η κ : Type} {setup : Setup η κ} {s s' : Session η κ} {log : List (η × Action)}
  {actions : List Action}

theorem current_subset (log : List (η × Action)) :
  current log ⊆ log
  := by
  induction log using List.reverseRecOn with
  | nil => exact List.nil_subset []
  | append_singleton log entry ih =>
    rw [current, List.foldl_append, List.foldl_cons, List.foldl_nil]
    split
    · exact List.nil_subset _
    · exact List.append_subset.mpr
        ⟨List.subset_append_of_subset_left _ ih, List.subset_append_right _ _⟩

/-- What is sent to the reader: a response that was queued, or a status in the clear. -/
inductive IsMessage (trace : List Action) : Bytes → Prop
  | response {data : Bytes} (queued : .queue (responseMessage data) ∈ trace) :
      IsMessage trace (responseMessage data)
  | status (status : SessionStatus) : IsMessage trace (statusMessage status)

theorem IsMessage.mono {trace later : List Action} {message : Bytes} (h : IsMessage trace message)
    (subset : trace ⊆ later) :
  IsMessage later message
  := by
  cases h with
  | response queued => exact .response (subset queued)
  | status status => exact .status status

/-- A fragment of a message that was cut as an action found the host. -/
def IsCut (setup : Setup η κ) (log : List (η × Action)) (value : Bytes) : Prop :=
  ∃ host action message, (host, action) ∈ log
    ∧ IsMessage (log.map Prod.snd) message
    ∧ value ∈ Fragment.frame message (setup.block host)

theorem IsCut.mono {later : List (η × Action)} {value : Bytes} (h : IsCut setup log value)
    (subset : log ⊆ later) :
  IsCut setup later value
  := by
  obtain ⟨host, action, message, hentry, hmessage, hvalue⟩ := h
  exact ⟨host, action, message, subset hentry, hmessage.mono (List.map_subset _ subset), hvalue⟩

/-- What waits to be sent of a response that is under way was cut when it was queued. -/
theorem Sending.isCut {rest : List Bytes} {value : Bytes} (h : Sending setup rest (current log))
    (hvalue : value ∈ rest) :
  IsCut setup log value
  := by
  generalize hperiod : current log = period at h
  cases h with
  | @intro before after host message _ begins frame_eq =>
    have queued : (host, Action.queue message) ∈ log := by
      apply current_subset
      rw [hperiod]
      exact List.mem_append_right before List.mem_cons_self
    have queued' : .queue message ∈ log.map Prod.snd := List.mem_map_of_mem queued
    refine ⟨host, _, message, queued, ?_, ?_⟩
    · cases begins with
      | response => exact .response queued'
    · rw [frame_eq]
      exact List.mem_append_right _ hvalue

/-- Whatever a step notifies the reader of is cut as it should be. -/
theorem Utterance.isCut (utterance : Utterance setup s actions s')
    (speaks : Speaks setup s (current log)) {c : Characteristic} {value : Bytes} {accepted : Bool}
    (h : .notify c value accepted ∈ actions) :
  IsCut setup (log ++ setup.host.observe actions s.host) value
  := by
  cases utterance with
  | nothing quiet keeps => exact absurd h quiet.not_notify
  | ready quiet fresh =>
    rcases List.mem_cons.mp h with h | h
    · cases h
    · exact absurd h quiet.not_notify
  | @status before after status sent rest _ silent quiet frame_eq =>
    have told : .notify c value accepted ∈ notices sent rest := by
      rcases List.mem_append.mp h with h | h
      · rcases List.mem_append.mp h with h | h
        · exact absurd (List.mem_append_left after h) quiet.not_notify
        · exact h
      · exact absurd (List.mem_append_right before h) quiet.not_notify
    obtain ⟨action, hentry⟩ := setup.host.exists_mem_observe (List.ne_nil_of_mem told)
      (setup.host.replay before s.host).2
    refine ⟨(setup.host.replay before s.host).2, action, statusMessage status, ?_,
      .status status, ?_⟩
    · rw [List.append_assoc before, Host.observe_append, Host.observe_append]
      exact List.mem_append_right log
        (List.mem_append_right _ (List.mem_append_left _ hentry))
    · rw [frame_eq]
      exact (of_mem_notices told).2
  | @response response _ _ data sent _ silent encrypt_eq frame_eq =>
    have told : .notify c value accepted ∈ notices sent s'.outgoing := by
      rcases List.mem_append.mp h with h | h
      · simp at h
      · exact h
    refine ⟨(setup.host.replay [.statusChanged .userSelected] s.host).2,
      .queue (responseMessage data), responseMessage data, ?_, .response ?_, ?_⟩
    · apply List.mem_append_right log
      rw [Host.observe_append]
      apply List.mem_append_left
      exact List.mem_cons_of_mem _ (List.mem_cons_of_mem _ List.mem_cons_self)
    · rw [List.map_append, Host.map_snd_observe]
      exact List.mem_append_right _ (List.mem_append_left _ (by simp))
    · rw [frame_eq]
      exact (of_mem_notices told).2
  | @more sent _ status_eq outgoing_eq =>
    rw [Speaks, status_eq] at speaks
    apply IsCut.mono _ (List.subset_append_left log _)
    apply Sending.isCut speaks
    rw [outgoing_eq]
    exact (of_mem_notices h).2

/-- All notifications of a run are cut as they should be. -/
theorem Recorded.isCut (h : Recorded setup log s) {c : Characteristic} {value : Bytes}
    {accepted : Bool} (hnotify : .notify c value accepted ∈ log.map Prod.snd) :
  IsCut setup log value
  := by
  induction h with
  | fresh supply host => cases hnotify
  | @apply log s actions event recorded trace_eq ih =>
    obtain ⟨actions', took, utterance⟩ := (apply_step setup event s).utterance
    cases List.append_cancel_left (trace_eq.symm.trans took.trace_eq)
    rw [List.map_append, Host.map_snd_observe] at hnotify
    rcases List.mem_append.mp hnotify with hnotify | hnotify
    · exact (ih hnotify).mono (List.subset_append_left log _)
    · exact utterance.isCut recorded.isVoiced.present hnotify
  | outside host posted _ ih => exact ih hnotify

/-- A fragment of a message to the reader: as long as it is allowed to be, or shorter if it is the
last one, but of two bytes at least. -/
def IsWithin (longest : Nat) (trace : List Action) (value : Bytes) : Prop :=
  ∃ message block before after, IsMessage trace message
    ∧ Fragment.frame message block = before ++ value :: after
    ∧ 2 ≤ value.length
    ∧ value.length ≤ max 2 longest
    ∧ (after ≠ [] → value.length = max 2 longest)

theorem Recorded.isWithin (h : Recorded setup log s) {limit : Nat}
    (steady : ∀ entry ∈ log, setup.host.maxUpdateLength entry.1 = limit) {c : Characteristic}
    {value : Bytes} {accepted : Bool} (hnotify : .notify c value accepted ∈ s.trace) :
  IsWithin (setup.longest limit) s.trace value
  := by
  rw [h.trace_eq] at hnotify ⊢
  obtain ⟨host, action, message, hentry, hmessage, hvalue⟩ := h.isCut hnotify
  obtain ⟨before, after, frame_eq⟩ := List.append_of_mem hvalue
  obtain ⟨header, payload, rfl, pos, fits, -, full⟩ := Fragment.of_mem_frame frame_eq
  have size_eq := setup.block_size_succ host
  rw [steady _ hentry] at size_eq
  refine ⟨message, _, before, after, hmessage, frame_eq, ?_, ?_, ?_⟩
  · exact Nat.succ_le_succ pos
  · rw [← size_eq]
    exact Nat.succ_le_succ fits
  · intro hafter
    rw [← size_eq, List.length_cons, full hafter]

/-- Every notification is a fragment of a response that was queued or of a status, and while the
limit of the radio stays the same, all but the last one of a message are as long as the
configuration and the radio allow.  None is longer, if what they allow has room for a header and
one byte; where it has not, a notification has these two bytes. -/
theorem recorded_isWithin (h : Recorded setup log s) {limit : Nat}
    (steady : ∀ entry ∈ log, setup.host.maxUpdateLength entry.1 = limit) :
  (∀ c value accepted, .notify c value accepted ∈ s.trace →
      IsWithin (setup.longest limit) s.trace value)
    ∧ ((∀ c value accepted, .notify c value accepted ∈ s.trace →
        value.length ≤ setup.longest limit)
      ↔ 2 ≤ setup.longest limit ∨ ∀ c value accepted, .notify c value accepted ∉ s.trace)
  := by
  refine ⟨fun _ _ _ => h.isWithin steady, ?_, ?_⟩
  · intro short
    rw [or_iff_not_imp_right]
    intro notified
    simp only [not_forall, not_not] at notified
    obtain ⟨c, value, accepted, hnotify⟩ := notified
    obtain ⟨-, -, -, -, -, -, long, -⟩ := h.isWithin steady hnotify
    exact Nat.le_trans long (short c value accepted hnotify)
  · rintro (room | silent) c value accepted hnotify
    · obtain ⟨-, -, -, -, -, -, -, short, -⟩ := h.isWithin steady hnotify
      rwa [Nat.max_eq_right room] at short
    · exact absurd hnotify (silent c value accepted)

/-! ### A radio with a constant limit -/

/-- The wallet with the name, in front of a radio with a constant limit. -/
def limitedWallet (maxFragmentSize limit : Nat) : Setup Radio Plain.Encryption :=
  { nameWallet with
    config := { maxFragmentSize }
    host := { Radio.host with maxUpdateLength := fun _ => limit } }

/-- A session that was asked for the name, and got its answer from the user. -/
def limitedAnswered (maxFragmentSize limit : Nat) (accepted : Bool) :
    Session Radio Plain.Encryption :=
  [.setUp, .transportState .ready, .subscribed .state, .subscribed .server2Client,
      .write .state Channel.startMarker,
      .write .client2Server (0x00 :: nameMessage.toOption.getD []),
      .consent ⟨accepted, none, 1⟩].foldl
    (fun s event => (s.apply (limitedWallet maxFragmentSize limit) event).2.2)
    (.fresh ⟨fun _ => default, fun _ => .ofNat 1, 0, 0⟩ {})

theorem exists_recorded_limitedAnswered (maxFragmentSize limit : Nat) (accepted : Bool) :
  ∃ log, Recorded (limitedWallet maxFragmentSize limit) log
      (limitedAnswered maxFragmentSize limit accepted)
    ∧ ∀ entry ∈ log, (limitedWallet maxFragmentSize limit).host.maxUpdateLength entry.1 = limit
  := by
  have reached : Reached (limitedWallet maxFragmentSize limit)
      (limitedAnswered maxFragmentSize limit accepted) := Reached.foldl (.fresh _ _) _
  obtain ⟨log, recorded⟩ := reached.recorded
  exact ⟨log, recorded, fun _ _ => rfl⟩

/-- The radio takes less than the configuration allows: the name is sent in notifications of
a hundred bytes, and one that is shorter. -/
theorem recorded_isWithin_name :
  ∃ log, Recorded (limitedWallet 512 100) log (limitedAnswered 512 100 true)
    ∧ (∀ entry ∈ log, (limitedWallet 512 100).host.maxUpdateLength entry.1 = 100)
    ∧ (accepted (limitedAnswered 512 100 true).trace).map List.length = [100, 100, 47]
    ∧ ∀ c value accepted, .notify c value accepted ∈ (limitedAnswered 512 100 true).trace →
      IsWithin 100 (limitedAnswered 512 100 true).trace value ∧ value.length ≤ 100
  := by
  obtain ⟨log, recorded, steady⟩ := exists_recorded_limitedAnswered 512 100 true
  have lengths : (accepted (limitedAnswered 512 100 true).trace).map List.length
      = [100, 100, 47] := by
    decide +kernel
  obtain ⟨within, short_iff⟩ := recorded_isWithin recorded steady
  have short := short_iff.mpr (.inl (by decide))
  exact ⟨log, recorded, steady, lengths, fun c value accepted hnotify =>
    ⟨within c value accepted hnotify, short c value accepted hnotify⟩⟩

/-- Where one byte is allowed, two bytes are sent. -/
theorem not_recorded_isWithin :
  ∃ log, Recorded (limitedWallet 1 512) log (limitedAnswered 1 512 false)
    ∧ (∀ entry ∈ log, (limitedWallet 1 512).host.maxUpdateLength entry.1 = 512)
    ∧ (limitedWallet 1 512).longest 512 = 1
    ∧ .notify .server2Client [0x01, 0xA1] true ∈ (limitedAnswered 1 512 false).trace
  := by
  obtain ⟨log, recorded, steady⟩ := exists_recorded_limitedAnswered 1 512 false
  have sent : [0x01, 0xA1] ∈ accepted (limitedAnswered 1 512 false).trace := by
    decide +kernel
  exact ⟨log, recorded, steady, rfl, mem_accepted_iff.mp sent⟩

end Session

end Presentment
