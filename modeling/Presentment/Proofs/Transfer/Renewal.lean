import Presentment.Proofs.Transfer.Apply

/-!
# Renewed sessions

A session that has shown requests before goes on like one that has not: only the numbers of the
requests differ, in the prompts and in the decisions of the user.  `Renews` relates the two, and
everything that a session does respects it, when the host of the other one counts from the same
number on.
-/

namespace Presentment

variable {η κ α β : Type}

/-! ### Counting from a later cycle on -/

/-- A decision, counted from cycle `k` on; one that is out of date is never on a request. -/
def Decision.since (k : Nat) (decision : Decision) : Decision :=
  { decision with cycle := decision.cycle - k }

def Event.since (k : Nat) : Event → Event
  | .consent decision => .consent (decision.since k)
  | event => event

/-- What a session that counts from cycle `k` on does, in the count of the host. -/
def Action.after (k : Nat) : Action → Action
  | .prompt p cycle => .prompt p (cycle + k)
  | action => action

def Reply.since (k : Nat) (reply : Reply η α) : Reply η α :=
  { reply with posted := reply.posted.map (Event.since k) }

/-- The host, for a session that counts from cycle `k` on. -/
def Host.since (k : Nat) (host : Host η) : Host η where
  transportState := host.transportState
  maxUpdateLength := host.maxUpdateLength
  startAdvertising service h := (host.startAdvertising service h).since k
  stopAdvertising h := (host.stopAdvertising h).since k
  notify c value h := (host.notify c value h).since k
  statusChanged status h := (host.statusChanged status h).since k
  requestReceived prompt cycle h := (host.requestReceived prompt (cycle + k) h).since k
  finishedWithError e h := (host.finishedWithError e h).since k

def Setup.since (k : Nat) (setup : Setup η κ) : Setup η κ :=
  { setup with host := setup.host.since k }

namespace Session

/-- `s` is `t` after `past`, in which requests up to cycle `k` were shown; what failed last does not
matter. -/
def Renews (k : Nat) (past : List Action) (s t : Session η κ) : Prop :=
  ∃ posted lastError, t.posted = posted.map (Event.since k)
    ∧ s = { t with
        cycle := t.cycle + k
        lastError := lastError
        posted := posted
        trace := past ++ t.trace.map (Action.after k) }

/-- Two outcomes are the same but for what was done before. -/
structure Alike (k : Nat) (past : List Action) (x y : α × Session η κ) : Prop where
  fst_eq : x.1 = y.1
  renews : Renews k past x.2 y.2

section

variable {k : Nat} {past : List Action} {setup : Setup η κ} {s t : Session η κ}

theorem Renews.same (h : Renews k past s t) (f : Session η κ → β)
    (indifferent : ∀ s cycle lastError posted trace,
      f { s with
          cycle := cycle
          lastError := lastError
          posted := posted
          trace := trace } = f s) :
  f s = f t
  := by
  obtain ⟨_, _, -, rfl⟩ := h
  apply indifferent

/-- What does not look at what differs can be done on both sides. -/
theorem Renews.map (h : Renews k past s t) (f : Session η κ → Session η κ)
    (indifferent : ∀ s cycle lastError posted trace,
      f { s with
          cycle := cycle
          lastError := lastError
          posted := posted
          trace := trace }
        = { f s with
          cycle := cycle
          lastError := lastError
          posted := posted
          trace := trace }) :
  Renews k past (f s) (f t)
  := by
  obtain ⟨posted, lastError, posted_eq, rfl⟩ := h
  have same := indifferent t t.cycle t.lastError t.posted t.trace
  have cycle_eq : (f t).cycle = t.cycle := (congrArg Session.cycle same :)
  have posted_eq' : (f t).posted = t.posted := (congrArg Session.posted same :)
  have trace_eq : (f t).trace = t.trace := (congrArg Session.trace same :)
  use posted, lastError
  rw [posted_eq', cycle_eq, trace_eq]
  exact ⟨posted_eq, indifferent t _ _ _ _⟩

theorem Renews.posted_eq (h : Renews k past s t) :
  t.posted = s.posted.map (Event.since k)
  := by
  obtain ⟨_, _, posted_eq, rfl⟩ := h
  exact posted_eq

theorem Renews.cycle_eq (h : Renews k past s t) :
  s.cycle = t.cycle + k
  := by
  obtain ⟨_, _, -, rfl⟩ := h
  rfl

/-- A request gets the next number on both sides. -/
theorem Renews.count (h : Renews k past s t) (pending : Option (List ItemsRequest)) :
  Renews k past
    { s with
      cycle := s.cycle + 1
      pending := pending }
    { t with
      cycle := t.cycle + 1
      pending := pending }
  := by
  obtain ⟨posted, lastError, posted_eq, rfl⟩ := h
  refine ⟨posted, lastError, posted_eq, ?_⟩
  rw [Nat.add_right_comm]

/-- What failed last is of no account. -/
theorem Renews.fail (h : Renews k past s t) (e : Option TransferError) :
  Renews k past { s with lastError := e } { t with lastError := e }
  := by
  obtain ⟨posted, _, posted_eq, rfl⟩ := h
  exact ⟨posted, e, posted_eq, rfl⟩

/-! ### Calls to the host -/

/-- Calls are answered in the same way. -/
theorem Renews.callBoth (h : Renews k past s t) {f f' : η → Reply η α} {action action' : α → Action}
    (reply_eq : ∀ host, f' host = (f host).since k)
    (action_eq : ∀ a, action a = (action' a).after k) :
  Alike k past (s.call f action) (t.call f' action')
  := by
  obtain ⟨posted, lastError, posted_eq, rfl⟩ := h
  constructor
  · change (f t.host).answer = (f' t.host).answer
    rw [reply_eq]
    rfl
  · refine ⟨posted ++ (f t.host).posted, lastError, ?_, ?_⟩
    · rw [List.map_append, ← posted_eq, Session.call, reply_eq]
      rfl
    · simp only [Session.call, reply_eq, action_eq, Reply.since, List.map_append, List.map_cons,
        List.map_nil, List.append_assoc]

/-- Most calls say nothing of cycles. -/
theorem Renews.call (h : Renews k past s t) (f : η → Reply η α) (action : α → Action)
    (plain : ∀ a, action a = (action a).after k) :
  Alike k past (s.call f action) (t.call (fun host => (f host).since k) action)
  := h.callBoth (fun _ => rfl) plain

theorem Renews.record (h : Renews k past s t) {action : Action} (plain : action = action.after k) :
  Renews k past (s.record action) (t.record action)
  := by
  obtain ⟨posted, lastError, posted_eq, rfl⟩ := h
  refine ⟨posted, lastError, posted_eq, ?_⟩
  simp only [Session.record, List.map_append, List.map_cons, List.map_nil, List.append_assoc,
    ← plain]

theorem Renews.enter (h : Renews k past s t) (setup : Setup η κ) (next : TransferStatus) :
  Alike k past (s.enter setup next) (t.enter (setup.since k) next)
  := by
  have entered := (h.map (fun s => { s with status := next }) (fun _ _ _ _ _ => rfl)).call
    (setup.host.statusChanged next) (fun _ => .statusChanged next) (fun _ => rfl)
  rw [Session.enter, Session.enter, h.same Session.status (fun _ _ _ _ _ => rfl)]
  split
  · exact ⟨rfl, h⟩
  · exact ⟨rfl, entered.renews⟩

theorem Renews.block_eq (h : Renews k past s t) (setup : Setup η κ) :
  s.block setup = t.block (setup.since k)
  := h.same (Session.block setup) (fun _ _ _ _ _ => rfl)

theorem Renews.send (h : Renews k past s t) (setup : Setup η κ) (fragments : List Bytes) :
  Alike k past (Session.send setup fragments s) (Session.send (setup.since k) fragments t)
  := by
  induction fragments generalizing s t with
  | nil => exact ⟨rfl, h⟩
  | cons fragment rest ih =>
    have called : Alike k past
        (s.call (setup.host.notify .server2Client fragment)
          (fun accepted => .notify .server2Client fragment accepted))
        (t.call ((setup.since k).host.notify .server2Client fragment)
          (fun accepted => .notify .server2Client fragment accepted)) :=
      h.call (setup.host.notify .server2Client fragment) _ (fun _ => rfl)
    rw [Session.send, Session.send]
    dsimp only
    rw [called.fst_eq]
    split
    · exact ih called.renews
    · exact ⟨rfl, called.renews⟩

theorem Renews.sendStatus (h : Renews k past s t) (setup : Setup η κ) (status : SessionStatus) :
  Renews k past (s.sendStatus setup status) (t.sendStatus (setup.since k) status)
  := by
  rw [Session.sendStatus, Session.sendStatus, h.block_eq setup]
  exact (h.send setup _).renews

theorem Renews.sendNext (h : Renews k past s t) (setup : Setup η κ) :
  Alike k past (s.sendNext setup) (t.sendNext (setup.since k))
  := by
  have sent := h.send setup t.outgoing
  rw [Session.sendNext, Session.sendNext, h.same Session.outgoing (fun _ _ _ _ _ => rfl)]
  constructor
  · dsimp only
    rw [sent.fst_eq]
  · dsimp only
    rw [sent.fst_eq]
    exact sent.renews.map (fun s =>
      { s with outgoing := (Session.send (setup.since k) t.outgoing t).1 }) (fun _ _ _ _ _ => rfl)

theorem Renews.stopAdvertising (h : Renews k past s t) (setup : Setup η κ) :
  Renews k past (s.stopAdvertising setup) (t.stopAdvertising (setup.since k))
  := by
  have called := h.call setup.host.stopAdvertising (fun _ => .stopAdvertising) (fun _ => rfl)
  rw [Session.stopAdvertising, Session.stopAdvertising,
    h.same Session.isAdvertising (fun _ _ _ _ _ => rfl)]
  split
  · exact called.renews.map (fun s => { s with isAdvertising := false }) (fun _ _ _ _ _ => rfl)
  · exact h

theorem Renews.teardown (h : Renews k past s t) (setup : Setup η κ) :
  Renews k past (s.teardown setup) (t.teardown (setup.since k))
  := (h.stopAdvertising setup).map (fun s => { s with
      engagement := none
      tunnel := .closed
      reassembly := []
      outgoing := []
      pending := none
      subscriptions := .empty }) (fun _ _ _ _ _ => rfl)

/-! ### The exchange -/

/-- Steps that go on after steps that are alike are alike. -/
theorem Alike.andThen {x y : Except TransferError α × Session η κ}
    {f g : α → Session η κ → Except TransferError β × Session η κ} (h : Alike k past x y)
    (goesOn : ∀ a s t, Renews k past s t → Alike k past (f a s) (g a t)) :
  Alike k past (Session.andThen x f) (Session.andThen y g)
  := by
  obtain ⟨outcome, s⟩ := x
  obtain ⟨outcome', t⟩ := y
  obtain ⟨rfl, renews⟩ := h
  cases outcome with
  | ok a => exact goesOn a s t renews
  | error e => exact ⟨rfl, renews⟩

theorem Renews.encrypt (h : Renews k past s t) (setup : Setup η κ) (text : Bytes) :
  Alike k past (s.encrypt setup text) (t.encrypt (setup.since k) text)
  := by
  have encrypted := h.map (fun s => { s with tunnel := (t.tunnel.encrypt setup.provider text).2 })
    (fun _ _ _ _ _ => rfl)
  rw [Session.encrypt, Session.encrypt, h.same Session.tunnel (fun _ _ _ _ _ => rfl)]
  exact ⟨rfl, encrypted.record rfl⟩

theorem Renews.decrypt (h : Renews k past s t) (setup : Setup η κ) (ciphertext : Bytes) :
  Alike k past (s.decrypt setup ciphertext) (t.decrypt (setup.since k) ciphertext)
  := by
  have decrypted := h.map
    (fun s => { s with tunnel := (t.tunnel.decrypt setup.provider ciphertext).2 })
    (fun _ _ _ _ _ => rfl)
  rw [Session.decrypt, Session.decrypt, h.same Session.tunnel (fun _ _ _ _ _ => rfl)]
  exact ⟨rfl, decrypted.record rfl⟩

theorem Renews.beginEngagement (h : Renews k past s t) (setup : Setup η κ) :
  Alike k past (s.beginEngagement setup) (t.beginEngagement (setup.since k))
  := by
  have suite_eq : (setup.since k).suite = setup.suite := rfl
  rw [Session.beginEngagement, Session.beginEngagement,
    h.same Session.supply (fun _ _ _ _ _ => rfl), suite_eq]
  rcases Engagement.generate setup.suite t.supply with ⟨outcome, supply⟩
  have drawn := h.map (fun s => { s with
    tunnel := .closed
    supply := supply }) (fun _ _ _ _ _ => rfl)
  cases outcome with
  | ok engagement =>
    exact ⟨rfl, drawn.map (fun s => { s with engagement := some engagement })
      (fun _ _ _ _ _ => rfl)⟩
  | error cause => exact ⟨rfl, drawn⟩

theorem Renews.startAdvertising (h : Renews k past s t) (setup : Setup η κ) :
  Alike k past (s.startAdvertising setup) (t.startAdvertising (setup.since k))
  := by
  rw [Session.startAdvertising, Session.startAdvertising,
    h.same Session.engagement (fun _ _ _ _ _ => rfl)]
  cases t.engagement with
  | none => exact ⟨rfl, h⟩
  | some engagement =>
    have called : Alike k past
        (s.call (setup.host.startAdvertising engagement.service) (.advertise engagement.service ·))
        (t.call ((setup.since k).host.startAdvertising engagement.service)
          (.advertise engagement.service ·)) :=
      h.call (setup.host.startAdvertising engagement.service) _ (fun _ => rfl)
    dsimp only
    rw [called.fst_eq]
    split
    · exact ⟨rfl, called.renews⟩
    · exact ⟨rfl, called.renews.map (fun s => { s with isAdvertising := true })
        (fun _ _ _ _ _ => rfl)⟩

theorem Renews.establish (h : Renews k past s t) (setup : Setup η κ) :
  Alike k past (s.establish setup) (t.establish (setup.since k))
  := by
  have provider_eq : (setup.since k).provider = setup.provider := rfl
  have read_eq : readEstablishment s.reassembly s.engagement
      = readEstablishment t.reassembly t.engagement :=
    h.same (fun s => readEstablishment s.reassembly s.engagement) (fun _ _ _ _ _ => rfl)
  have gathered := h.map (fun s => { s with reassembly := [] }) (fun _ _ _ _ _ => rfl)
  rw [Session.establish, Session.establish, read_eq, provider_eq]
  rcases readEstablishment t.reassembly t.engagement with e | ⟨establishment, engagement⟩
  · exact ⟨rfl, gathered⟩
  · have derived : Renews k past ({ s with reassembly := [] }.record (.derive engagement))
        ({ t with reassembly := [] }.record (.derive engagement)) := gathered.record rfl
    dsimp only
    cases setup.provider.derive establishment engagement .qr with
    | error e => exact ⟨rfl, derived⟩
    | ok state => exact ⟨rfl, derived.map (fun s => { s with tunnel := .established state })
        (fun _ _ _ _ _ => rfl)⟩

theorem Renews.readRequest (h : Renews k past s t) (setup : Setup η κ) (data : Bytes) :
  Alike k past (s.readRequest setup data) (t.readRequest (setup.since k) data)
  := (h.decrypt setup data).andThen (fun _ _ _ renews => ⟨rfl, renews⟩)

/-- The request gets the next number on both sides. -/
theorem Renews.ask (h : Renews k past s t) (setup : Setup η κ) (request : DeviceRequest) :
  Alike k past (s.ask setup request) (t.ask (setup.since k) request)
  := by
  have judge_eq : judgeReader setup s.tunnel request
      = judgeReader (setup.since k) t.tunnel request :=
    h.same (fun s => judgeReader setup s.tunnel request) (fun _ _ _ _ _ => rfl)
  rw [Session.ask, Session.ask, judge_eq]
  cases judgeReader (setup.since k) t.tunnel request with
  | error e => exact ⟨rfl, h⟩
  | ok readerAuth =>
    have number_eq : s.cycle + 1 = t.cycle + 1 + k := by
      rw [h.cycle_eq, Nat.add_right_comm]
    constructor
    · rfl
    · dsimp only
      apply ((h.count (some request.itemsRequests)).callBoth _ _).renews
      · intro host
        rw [number_eq]
        rfl
      · intro _
        rw [number_eq]
        rfl

theorem Renews.processRequest (h : Renews k past s t) (setup : Setup η κ) :
  Alike k past (s.processRequest setup) (t.processRequest (setup.since k))
  := (h.establish setup).andThen fun data _ _ established =>
    (established.readRequest setup data).andThen fun request _ _ read => read.ask setup request

theorem Renews.answerRequest (h : Renews k past s t) (setup : Setup η κ) :
  Alike k past (s.answerRequest setup) (t.answerRequest (setup.since k))
  := by
  have processed := h.processRequest setup
  rw [Session.answerRequest, Session.answerRequest]
  rcases hs : s.processRequest setup with ⟨outcome, s₁⟩
  rcases ht : t.processRequest (setup.since k) with ⟨outcome', t₁⟩
  rw [hs, ht] at processed
  obtain ⟨rfl, renews⟩ := processed
  cases outcome with
  | ok => exact ⟨rfl, renews⟩
  | error e =>
    dsimp only
    cases e.sessionStatus? with
    | none => exact ⟨rfl, renews⟩
    | some status => exact ⟨rfl, renews.sendStatus setup status⟩

theorem Renews.queue (h : Renews k past s t) (setup : Setup η κ) (message : Bytes) :
  Renews k past (s.queue setup message) (t.queue (setup.since k) message)
  := by
  have framed := h.map (fun s =>
    { s with outgoing := Fragment.frame message (t.block (setup.since k)) }) (fun _ _ _ _ _ => rfl)
  rw [Session.queue, Session.queue, h.block_eq setup]
  exact framed.record rfl

theorem Renews.buildResponse (h : Renews k past s t) (setup : Setup η κ)
    (items : Option Selection) :
  Alike k past (s.buildResponse setup items) (t.buildResponse (setup.since k) items)
  := by
  have taken := h.map (fun s => { s with pending := none }) (fun _ _ _ _ _ => rfl)
  have credentials_eq : (setup.since k).credentials = setup.credentials := rfl
  rw [Session.buildResponse, Session.buildResponse, h.same Session.pending (fun _ _ _ _ _ => rfl)]
  cases t.pending with
  | none => exact ⟨rfl, h⟩
  | some requests =>
    dsimp only
    rw [credentials_eq]
    split
    · exact ⟨rfl, taken.sendStatus setup .termination⟩
    · have response_eq : makeResponse setup s.tunnel
            (Disclosure.filter setup.credentials (.verifier requests items))
          = makeResponse (setup.since k) t.tunnel
            (Disclosure.filter setup.credentials (.verifier requests items)) :=
        h.same (fun s => makeResponse setup s.tunnel
          (Disclosure.filter setup.credentials (.verifier requests items))) (fun _ _ _ _ _ => rfl)
      rw [response_eq]
      cases makeResponse (setup.since k) t.tunnel
        (Disclosure.filter setup.credentials (.verifier requests items)) with
      | error e => exact ⟨rfl, taken⟩
      | ok response =>
        exact (taken.encrypt setup (Cbor.encode response)).andThen
          (fun data _ _ encrypted => ⟨rfl, encrypted.queue setup (responseMessage data)⟩)

/-! ### Effects -/

theorem Renews.run (h : Renews k past s t) (setup : Setup η κ) (effect : Effect) :
  Alike k past (s.run setup effect) (t.run (setup.since k) effect)
  := by
  cases effect with
  | validateCredentials =>
    rw [Session.run, Session.run]
    change Alike k past _ (if setup.credentials.isEmpty then _ else _)
    split
    · exact ⟨rfl, h⟩
    · exact ⟨rfl, h⟩
  | probeTransport =>
    rw [Session.run, Session.run, h.same Session.host (fun _ _ _ _ _ => rfl)]
    exact ⟨rfl, h⟩
  | setUpAgain => exact ⟨rfl, h⟩
  | beginEngagement =>
    exact (h.beginEngagement setup).andThen (fun _ _ _ renews => ⟨rfl, renews⟩)
  | startAdvertising =>
    exact (h.startAdvertising setup).andThen (fun _ _ _ renews => ⟨rfl, renews⟩)
  | stopAdvertising => exact ⟨rfl, h.stopAdvertising setup⟩
  | subscribe c =>
    exact ⟨rfl, h.map (fun s => { s with subscriptions := s.subscriptions.set c true })
      (fun _ _ _ _ _ => rfl)⟩
  | unsubscribe c =>
    exact ⟨rfl, h.map (fun s => { s with subscriptions := s.subscriptions.set c false })
      (fun _ _ _ _ _ => rfl)⟩
  | clearReassembly =>
    exact ⟨rfl, h.map (fun s => { s with reassembly := [] }) (fun _ _ _ _ _ => rfl)⟩
  | appendFragment payload =>
    exact ⟨rfl, h.map (fun s => { s with reassembly := s.reassembly ++ payload })
      (fun _ _ _ _ _ => rfl)⟩
  | processRequest =>
    exact (h.answerRequest setup).andThen (fun _ _ _ renews => ⟨rfl, renews⟩)
  | buildResponse items =>
    exact (h.buildResponse setup items).andThen (fun _ _ _ renews => ⟨rfl, renews⟩)
  | sendTermination => exact ⟨rfl, h.sendStatus setup .termination⟩
  | sendNext =>
    have sent := h.sendNext setup
    exact ⟨congrArg Except.ok sent.fst_eq, sent.renews⟩
  | teardown => exact ⟨rfl, h.teardown setup⟩

/-- What follows from an effect has no number. -/
theorem since_of_run {effect : Effect} {event : Event} {s' : Session η κ}
    (h : s.run setup effect = (.ok (some event), s')) (k : Nat) :
  event.since k = event
  := by
  cases effect with
  | validateCredentials =>
    rw [Session.run] at h
    split at h
    · cases h
    · cases h
  | probeTransport | setUpAgain =>
    cases h
    rfl
  | beginEngagement | startAdvertising | processRequest | buildResponse =>
    obtain ⟨_, _, _, h⟩ := andThen_eq_ok h
    cases h
  | sendNext =>
    obtain ⟨_, rest, -, -, event_eq⟩ := sendNext_called setup s
    have sent : (s.sendNext setup).1 = some event := Except.ok.inj (congrArg Prod.fst h)
    rw [event_eq] at sent
    split at sent
    · cases sent
      rfl
    · cases sent
  | _ => cases h

end

/-! ### Events -/

section

variable {k : Nat} {past : List Action} {s t : Session η κ}

/-- Both sides are in the middle of the same event. -/
structure Progress.Renews (k : Nat) (past : List Action) (p q : Progress η κ) : Prop where
  session : Session.Renews k past p.session q.session
  failure_eq : p.failure = q.failure
  followUps_eq : q.followUps = p.followUps.map (Event.since k)

namespace Progress

variable {p q : Progress η κ}

theorem Renews.update (h : p.Renews k past q) (setup : Setup η κ) (effect : Effect) :
  (p.update (p.session.run setup effect)).Renews k past
    (q.update (q.session.run (setup.since k) effect))
  := by
  have ran := h.session.run setup effect
  rcases hs : p.session.run setup effect with ⟨outcome, s⟩
  rcases ht : q.session.run (setup.since k) effect with ⟨outcome', t⟩
  rw [hs, ht] at ran
  obtain ⟨rfl, renews⟩ := ran
  cases outcome with
  | error e =>
    exact ⟨renews, congrArg (· <|> some e) h.failure_eq, h.followUps_eq⟩
  | ok event =>
    refine ⟨renews, h.failure_eq, ?_⟩
    have plain : event.toList.map (Event.since k) = event.toList := by
      cases event with
      | none => rfl
      | some event => rw [Option.toList_some, List.map_singleton, since_of_run hs k]
    change q.followUps ++ event.toList = (p.followUps ++ event.toList).map (Event.since k)
    rw [h.followUps_eq, List.map_append, plain]

theorem Renews.persist (h : p.Renews k past q) (setup : Setup η κ) (effects : List Effect) :
  (Progress.persist setup effects p).Renews k past (Progress.persist (setup.since k) effects q)
  := by
  induction effects generalizing p q with
  | nil => exact h
  | cons effect rest ih => exact ih (h.update setup effect)

theorem Renews.perform (h : p.Renews k past q) (setup : Setup η κ) (effects : List Effect) :
  (Progress.perform setup effects p).Renews k past (Progress.perform (setup.since k) effects q)
  := by
  induction effects generalizing p q with
  | nil => exact h
  | cons effect rest ih =>
    have updated := h.update setup effect
    have outcome_eq := (h.session.run setup effect).fst_eq
    have status_eq := updated.session.same Session.status (fun _ _ _ _ _ => rfl)
    have entered := updated.session.enter setup .error
    rw [Progress.perform, Progress.perform]
    dsimp only
    rw [outcome_eq, status_eq]
    split
    · exact ih updated
    · split
      · exact ih updated
      · rw [entered.fst_eq]
        apply Renews.persist
        exact ⟨entered.renews, updated.failure_eq, updated.followUps_eq⟩

theorem Renews.report (h : p.Renews k past q) (setup : Setup η κ) :
  (p.report setup).Renews k past (q.report (setup.since k))
  := by
  rw [Progress.report, Progress.report, ← h.failure_eq]
  cases p.failure with
  | none => exact h
  | some e =>
    have called := h.session.call (setup.host.finishedWithError e) (fun _ => .finishedWithError e)
      (fun _ => rfl)
    have recover_eq : (setup.since k).config.autoRecover = setup.config.autoRecover := rfl
    refine ⟨called.renews.fail (some e), rfl, ?_⟩
    dsimp only
    rw [recover_eq]
    split
    · rw [h.followUps_eq, List.map_append]
      rfl
    · exact h.followUps_eq

/-- Effects are carried out in the same way. -/
theorem renews_report (h : Session.Renews k past s t) (setup : Setup η κ) (effects : List Effect)
    (failure : Option TransferError) :
  ((Progress.perform setup effects ⟨s, failure, []⟩).report setup).Renews k past
    ((Progress.perform (setup.since k) effects ⟨t, failure, []⟩).report (setup.since k))
  := by
  have start : Renews k past ⟨s, failure, []⟩ ⟨t, failure, []⟩ := ⟨h, rfl, rfl⟩
  exact (start.perform setup effects).report setup

end Progress

/-- The table of transitions sees no difference, because no decision that is out of date is ever on
a request. -/
theorem Renews.transition_eq (h : Session.Renews k past s t)
    (counted : t.status = .requestReceived → 0 < t.cycle) (event : Event) :
  transition s.snapshot event = transition t.snapshot (event.since k)
  := by
  have snapshot_eq : s.snapshot = ⟨t.status, t.subscriptions, t.cycle + k⟩ := by
    rw [snapshot, h.same Session.status (fun _ _ _ _ _ => rfl),
      h.same Session.subscriptions (fun _ _ _ _ _ => rfl), h.cycle_eq]
  rw [snapshot_eq]
  cases event with
  | consent decision =>
    have present : (t.status = .requestReceived ∧ decision.cycle = t.cycle + k)
        ↔ (t.status = .requestReceived ∧ decision.cycle - k = t.cycle) := by
      apply and_congr_right
      intro status_eq
      have := counted status_eq
      omega
    change (if t.status = .requestReceived ∧ decision.cycle = t.cycle + k then _ else _)
      = if t.status = .requestReceived ∧ decision.cycle - k = t.cycle then _ else _
    simp only [present]
    rfl
  | _ => rfl

/-- An event is applied in the same way. -/
theorem Renews.apply (h : Session.Renews k past s t)
    (counted : t.status = .requestReceived → 0 < t.cycle) (setup : Setup η κ) (event : Event) :
  (s.apply setup event).1 = (t.apply (setup.since k) (event.since k)).1
    ∧ (t.apply (setup.since k) (event.since k)).2.1
      = (s.apply setup event).2.1.map (Event.since k)
    ∧ Session.Renews k past (s.apply setup event).2.2
      (t.apply (setup.since k) (event.since k)).2.2
  := by
  rw [Session.apply, Session.apply, h.transition_eq counted event]
  rcases transition t.snapshot (event.since k) with ⟨next, effects, acknowledgement, failure⟩
  cases next with
  | none =>
    have reported := Progress.renews_report h setup (effects ++ []) (failure.map Failure.toError)
    exact ⟨rfl, reported.followUps_eq, reported.session⟩
  | some next =>
    have entered := h.enter setup next
    have reported := Progress.renews_report entered.renews setup
      (effects ++ (t.enter (setup.since k) next).1) (failure.map Failure.toError)
    dsimp only
    rw [entered.fst_eq]
    exact ⟨rfl, reported.followUps_eq, reported.session⟩

end

end Session

end Presentment
