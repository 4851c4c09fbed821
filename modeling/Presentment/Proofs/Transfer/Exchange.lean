import Presentment.Proofs.Except
import Presentment.Proofs.Transfer.Calls

/-!
# What the exchange does

The request is read, decrypted and shown, and the response is made, encrypted and queued, by
steps that may fail.  For each of them it is told what it did if it succeeded; if it failed, why
it did, with which actions, and that it `Keeps` the status, the advertising and the prompts.
-/

namespace Presentment.Session

variable {η κ α β : Type}

/-- The status, the advertising, the cycle and the supply of `s` are kept while `actions` are
done. -/
structure Keeps (setup : Setup η κ) (actions : List Action) (s s' : Session η κ) : Prop where
  status_eq : s'.status = s.status
  isAdvertising_eq : s'.isAdvertising = s.isAdvertising
  cycle_eq : s'.cycle = s.cycle
  supply_eq : s'.supply = s.supply
  took : Took setup actions s s'

section

variable {setup : Setup η κ} {actions : List Action} {s s' : Session η κ}

theorem Called.keeps (h : Called setup actions s s') :
  Keeps setup actions s s'
  := by
  have took := h.took
  obtain ⟨_, _, -, rfl⟩ := h
  exact ⟨rfl, rfl, rfl, rfl, took⟩

theorem Keeps.refl (setup : Setup η κ) (s : Session η κ) :
  Keeps setup [] s s
  := (Called.refl setup s).keeps

theorem Keeps.trans {before after : List Action} {s₁ s₂ s₃ : Session η κ}
    (h : Keeps setup before s₁ s₂) (h' : Keeps setup after s₂ s₃) :
  Keeps setup (before ++ after) s₁ s₃
  := by
  constructor
  · rw [h'.status_eq, h.status_eq]
  · rw [h'.isAdvertising_eq, h.isAdvertising_eq]
  · rw [h'.cycle_eq, h.cycle_eq]
  · rw [h'.supply_eq, h.supply_eq]
  · exact h.took.trans h'.took

theorem Keeps.stops_eq (h : Keeps setup actions s s') :
  s'.stops = s.stops
  := by
  rw [stops, stops, h.isAdvertising_eq]

/-- What changes without calling the host is the session itself. -/
theorem took_of_silent (silent : setup.host.replay actions s.host = ([], s.host))
    (host_eq : s'.host = s.host) (posted_eq : s'.posted = s.posted)
    (trace_eq : s'.trace = s.trace ++ actions) :
  Took setup actions s s'
  := by
  constructor
  case host_eq => rw [silent, host_eq]
  case posted_eq => rw [silent, posted_eq, List.append_nil]
  case trace_eq => exact trace_eq

end

theorem andThen_eq_ok {step : Except TransferError α × Session η κ}
    {f : α → Session η κ → Except TransferError β × Session η κ} {b : β} {s' : Session η κ}
    (h : andThen step f = (.ok b, s')) :
  ∃ a s, step = (.ok a, s) ∧ f a s = (.ok b, s')
  := by
  obtain ⟨outcome, s⟩ := step
  cases outcome with
  | ok a => exact ⟨a, s, rfl, h⟩
  | error e => cases h

theorem andThen_eq_error {step : Except TransferError α × Session η κ}
    {f : α → Session η κ → Except TransferError β × Session η κ} {e : TransferError}
    {s' : Session η κ} (h : andThen step f = (.error e, s')) :
  step = (.error e, s') ∨ ∃ a s, step = (.ok a, s) ∧ f a s = (.error e, s')
  := by
  obtain ⟨outcome, s⟩ := step
  cases outcome with
  | ok a => exact .inr ⟨a, s, rfl, h⟩
  | error e' =>
    cases h
    exact .inl rfl

/-! ### The tunnel -/

theorem decrypt_ok {setup : Setup η κ} {ciphertext text : Bytes} {s s' : Session η κ}
    (h : s.decrypt setup ciphertext = (.ok text, s')) :
  ∃ state state', s.tunnel = .established state
    ∧ setup.provider.decrypt ciphertext state = (.ok text, state')
    ∧ s' = { s with
        tunnel := .established state'
        trace := s.trace ++ [.decrypt ciphertext] }
  := by
  rw [Session.decrypt] at h
  cases htunnel : s.tunnel with
  | closed =>
    rw [htunnel] at h
    cases h
  | established state =>
    rw [htunnel] at h
    rcases hdecrypt : setup.provider.decrypt ciphertext state with ⟨outcome, state'⟩
    simp only [Tunnel.decrypt, hdecrypt] at h
    cases outcome with
    | error e => cases h
    | ok text' =>
      cases h
      exact ⟨state, state', rfl, hdecrypt, rfl⟩

theorem decrypt_error {setup : Setup η κ} {ciphertext : Bytes} {e : TransferError} {state : κ}
    {s s' : Session η κ} (established : s.tunnel = .established state)
    (h : s.decrypt setup ciphertext = (.error e, s')) :
  ∃ cause state', setup.provider.decrypt ciphertext state = (.error cause, state')
    ∧ e = .decryptFailed cause
    ∧ Keeps setup [.decrypt ciphertext] s s'
  := by
  rw [Session.decrypt, established] at h
  rcases hdecrypt : setup.provider.decrypt ciphertext state with ⟨outcome, state'⟩
  simp only [Tunnel.decrypt, hdecrypt] at h
  cases outcome with
  | ok text => cases h
  | error cause =>
    cases h
    exact ⟨cause, state', rfl, rfl, rfl, rfl, rfl, rfl, took_of_silent rfl rfl rfl rfl⟩

theorem encrypt_ok {setup : Setup η κ} {text data : Bytes} {s s' : Session η κ}
    (h : s.encrypt setup text = (.ok data, s')) :
  ∃ state state', s.tunnel = .established state
    ∧ setup.provider.encrypt text state = (.ok data, state')
    ∧ s' = { s with
        tunnel := .established state'
        trace := s.trace ++ [.encrypt text] }
  := by
  rw [Session.encrypt] at h
  cases htunnel : s.tunnel with
  | closed =>
    rw [htunnel] at h
    cases h
  | established state =>
    rw [htunnel] at h
    rcases hencrypt : setup.provider.encrypt text state with ⟨outcome, state'⟩
    simp only [Tunnel.encrypt, hencrypt] at h
    cases outcome with
    | error e => cases h
    | ok text' =>
      cases h
      exact ⟨state, state', rfl, hencrypt, rfl⟩

theorem encrypt_error {setup : Setup η κ} {text : Bytes} {e : TransferError} {state : κ}
    {s s' : Session η κ} (established : s.tunnel = .established state)
    (h : s.encrypt setup text = (.error e, s')) :
  ∃ cause state', setup.provider.encrypt text state = (.error cause, state')
    ∧ e = .encryptFailed cause
    ∧ Keeps setup [.encrypt text] s s'
  := by
  rw [Session.encrypt, established] at h
  rcases hencrypt : setup.provider.encrypt text state with ⟨outcome, state'⟩
  simp only [Tunnel.encrypt, hencrypt] at h
  cases outcome with
  | ok data => cases h
  | error cause =>
    cases h
    exact ⟨cause, state', rfl, rfl, rfl, rfl, rfl, rfl, took_of_silent rfl rfl rfl rfl⟩

/-! ### The engagement -/

theorem beginEngagement_ok {setup : Setup η κ} {s s' : Session η κ}
    (h : s.beginEngagement setup = (.ok (), s')) :
  ∃ engagement supply, Engagement.generate setup.suite s.supply = (.ok engagement, supply)
    ∧ s' = { s with
        engagement := some engagement
        tunnel := .closed
        supply := supply }
  := by
  rcases hgenerate : Engagement.generate setup.suite s.supply with ⟨outcome, supply⟩
  delta beginEngagement at h
  simp only [hgenerate] at h
  cases outcome with
  | error cause => cases h
  | ok engagement =>
    cases h
    exact ⟨engagement, supply, rfl, rfl⟩

theorem beginEngagement_error {setup : Setup η κ} {e : TransferError} {s s' : Session η κ}
    (h : s.beginEngagement setup = (.error e, s')) :
  ∃ cause supply, Engagement.generate setup.suite s.supply = (.error cause, supply)
    ∧ e = .engagement cause
    ∧ s' = { s with
        tunnel := .closed
        supply := supply }
  := by
  rcases hgenerate : Engagement.generate setup.suite s.supply with ⟨outcome, supply⟩
  delta beginEngagement at h
  simp only [hgenerate] at h
  cases outcome with
  | error cause =>
    cases h
    exact ⟨cause, supply, rfl, rfl, rfl⟩
  | ok engagement => cases h

theorem startAdvertising_ok {setup : Setup η κ} {engagement : Engagement} {s s' : Session η κ}
    (held : s.engagement = some engagement) (h : s.startAdvertising setup = (.ok (), s')) :
  (setup.host.startAdvertising engagement.service s.host).answer = none
    ∧ Called setup [.advertise engagement.service none] { s with isAdvertising := true } s'
  := by
  have called := call_called setup (setup.host.startAdvertising engagement.service)
    (.advertise engagement.service ·) s rfl
  rw [startAdvertising, held] at h
  rcases hcall : s.call (setup.host.startAdvertising engagement.service)
    (.advertise engagement.service ·) with ⟨refusal, s₁⟩
  have answer : (setup.host.startAdvertising engagement.service s.host).answer = refusal :=
    congrArg Prod.fst hcall
  rw [hcall, answer] at called
  simp only [hcall] at h
  cases refusal with
  | some reason => cases h
  | none =>
    cases h
    use answer
    exact called.map (fun s => { s with isAdvertising := true }) (fun _ _ _ => rfl)

theorem startAdvertising_error {setup : Setup η κ} {engagement : Engagement} {e : TransferError}
    {s s' : Session η κ} (held : s.engagement = some engagement)
    (h : s.startAdvertising setup = (.error e, s')) :
  ∃ reason, (setup.host.startAdvertising engagement.service s.host).answer = some reason
    ∧ e = .transport engagement.service reason
    ∧ Keeps setup [.advertise engagement.service (some reason)] s s'
  := by
  have called := call_called setup (setup.host.startAdvertising engagement.service)
    (.advertise engagement.service ·) s rfl
  rw [startAdvertising, held] at h
  rcases hcall : s.call (setup.host.startAdvertising engagement.service)
    (.advertise engagement.service ·) with ⟨refusal, s₁⟩
  have answer : (setup.host.startAdvertising engagement.service s.host).answer = refusal :=
    congrArg Prod.fst hcall
  rw [hcall, answer] at called
  simp only [hcall] at h
  cases refusal with
  | some reason =>
    cases h
    exact ⟨reason, answer, rfl, called.keeps⟩
  | none => cases h

/-! ### The request -/

/-- A message opens a session: it has the key of its reader, and answers an engagement that is
held. -/
structure Opening (message : Bytes) (held : Option Engagement)
    (establishment : SessionEstablishment) (engagement : Engagement) : Prop where
  decode_eq : Cbor.decode message = .ok establishment
  keyed : establishment.readerKey.isSome
  held_eq : held = some engagement

section

variable {message : Bytes} {held : Option Engagement}
  {establishment establishment' : SessionEstablishment} {engagement engagement' : Engagement}

theorem Opening.unique (h : Opening message held establishment engagement)
    (h' : Opening message held establishment' engagement') :
  establishment = establishment' ∧ engagement = engagement'
  := by
  constructor
  · exact Except.ok.inj (h.decode_eq.symm.trans h'.decode_eq)
  · exact Option.some.inj (h.held_eq.symm.trans h'.held_eq)

theorem opening_of_readEstablishment
    (h : readEstablishment message held = .ok (establishment, engagement)) :
  Opening message held establishment engagement
  := by
  obtain ⟨decoded, hdecode, h⟩ := Except.bind_eq_ok_iff.mp h
  cases hkey : decoded.readerKey with
  | none =>
    rw [hkey] at h
    cases h
  | some key =>
    rw [hkey] at h
    cases held with
    | none => cases h
    | some engagement =>
      cases h
      exact ⟨Except.mapError_eq_ok_iff.mp hdecode, Option.isSome_iff_exists.mpr ⟨key, hkey⟩, rfl⟩

/-- While an engagement is held, a message does not open a session only if it cannot be decoded
or has no key. -/
theorem readEstablishment_error {e : TransferError} (engaged : held.isSome)
    (h : readEstablishment message held = .error e) :
  (∃ cause, (Cbor.decode message : Except Refusal SessionEstablishment) = .error cause
      ∧ e = .requestDecodeFailed (.ofRefusal cause))
    ∨ (∃ establishment : SessionEstablishment, Cbor.decode message = .ok establishment
      ∧ establishment.readerKey = none ∧ e = .readerKeyMissing)
  := by
  obtain ⟨engagement, rfl⟩ := Option.isSome_iff_exists.mp engaged
  rw [readEstablishment] at h
  cases hdecode : (Cbor.decode message : Except Refusal SessionEstablishment) with
  | error cause =>
    rw [hdecode] at h
    cases h
    exact .inl ⟨cause, rfl, rfl⟩
  | ok establishment =>
    rw [hdecode] at h
    cases hkey : establishment.readerKey with
    | none =>
      simp only [Except.mapError, bind, Except.bind, hkey] at h
      cases h
      exact .inr ⟨establishment, rfl, hkey, rfl⟩
    | some key =>
      simp only [Except.mapError, bind, Except.bind, hkey] at h
      cases h

end

/-- The prompt for items requests. -/
def promptFor (store : CredentialStore) (requests : List ItemsRequest)
    (readerAuth : Option ReaderAuthOutcome) : Prompt :=
  .ofDisclosure (Disclosure.filter store (.verifier requests none)) readerAuth

/-- Why a message is not a request that can be shown, and what was done to find out. -/
inductive Unread (setup : Setup η κ) (message : Bytes) (held : Option Engagement) :
    TransferError → List Action → Prop
  | read {e : TransferError}
      (read_eq : readEstablishment message held = .error e) :
      Unread setup message held e []
  | derive {establishment : SessionEstablishment} {engagement : Engagement} {cause : SecurityError}
      (read_eq : readEstablishment message held = .ok (establishment, engagement))
      (derive_eq : setup.provider.derive establishment engagement .qr = .error cause) :
      Unread setup message held (deriveFailure cause) [.derive engagement]
  | decrypt {establishment : SessionEstablishment} {engagement : Engagement} {state state' : κ}
      {cause : SecurityError}
      (read_eq : readEstablishment message held = .ok (establishment, engagement))
      (derive_eq : setup.provider.derive establishment engagement .qr = .ok state)
      (decrypt_eq : setup.provider.decrypt establishment.data state = (.error cause, state')) :
      Unread setup message held (.decryptFailed cause)
        [.derive engagement, .decrypt establishment.data]
  | decode {establishment : SessionEstablishment} {engagement : Engagement} {state state' : κ}
      {text : Bytes} {cause : Refusal}
      (read_eq : readEstablishment message held = .ok (establishment, engagement))
      (derive_eq : setup.provider.derive establishment engagement .qr = .ok state)
      (decrypt_eq : setup.provider.decrypt establishment.data state = (.ok text, state'))
      (decode_eq : (Cbor.decode text : Except Refusal DeviceRequest) = .error cause) :
      Unread setup message held (.requestDecodeFailed (.ofRefusal cause))
        [.derive engagement, .decrypt establishment.data]

/-- What is told of a status message to the reader, if there is one, by a host that is `h` when
the message is framed. -/
inductive Tells (setup : Setup η κ) (h : η) : Option SessionStatus → List Action → Prop
  | nothing : Tells setup h none []
  | status {status : SessionStatus} {sent rest : List Bytes}
      (frame_eq : Fragment.frame (statusMessage status) (setup.block h) = sent ++ rest) :
      Tells setup h (some status) (notices sent rest)

theorem Unread.toggles_eq {setup : Setup η κ} {message : Bytes} {held : Option Engagement}
    {e : TransferError} {actions : List Action} (h : Unread setup message held e actions) :
  toggles actions = []
  := by
  cases h with
  | read | derive | decrypt | decode => rfl

theorem Unread.gates_eq {setup : Setup η κ} {message : Bytes} {held : Option Engagement}
    {e : TransferError} {actions : List Action} (h : Unread setup message held e actions) :
  gates actions = []
  := by
  cases h with
  | read | derive | decrypt | decode => rfl

theorem Tells.toggles_eq {setup : Setup η κ} {h : η} {status : Option SessionStatus}
    {actions : List Action} (tells : Tells setup h status actions) :
  toggles actions = []
  := by
  cases tells with
  | nothing => rfl
  | status => apply toggles_notices

theorem Tells.gates_eq {setup : Setup η κ} {h : η} {status : Option SessionStatus}
    {actions : List Action} (tells : Tells setup h status actions) :
  gates actions = []
  := by
  cases tells with
  | nothing => rfl
  | status => apply gates_notices

/-- A status is told, and nothing else is done. -/
theorem sendStatus_tells (setup : Setup η κ) (status : SessionStatus) (s : Session η κ) :
  ∃ actions, Tells setup s.host (some status) actions
    ∧ Keeps setup actions s (s.sendStatus setup status)
  := by
  obtain ⟨sent, rest, frame_eq, called⟩ := sendStatus_called setup status s
  exact ⟨_, .status frame_eq, called.keeps⟩

theorem establish_ok {setup : Setup η κ} {data : Bytes} {s s' : Session η κ}
    (h : s.establish setup = (.ok data, s')) :
  ∃ establishment engagement state,
    readEstablishment s.reassembly s.engagement = .ok (establishment, engagement)
    ∧ setup.provider.derive establishment engagement .qr = .ok state
    ∧ data = establishment.data
    ∧ s' = { s with
        reassembly := []
        tunnel := .established state
        trace := s.trace ++ [.derive engagement] }
  := by
  rw [establish] at h
  cases hread : readEstablishment s.reassembly s.engagement with
  | error e =>
    rw [hread] at h
    cases h
  | ok read =>
    obtain ⟨establishment, engagement⟩ := read
    rw [hread] at h
    dsimp only at h
    cases hderive : setup.provider.derive establishment engagement .qr with
    | error e =>
      rw [hderive] at h
      cases h
    | ok state =>
      rw [hderive] at h
      cases h
      exact ⟨establishment, engagement, state, rfl, hderive, rfl, rfl⟩

theorem establish_error {setup : Setup η κ} {e : TransferError} {s s' : Session η κ}
    (h : s.establish setup = (.error e, s')) :
  ∃ actions, Unread setup s.reassembly s.engagement e actions ∧ Keeps setup actions s s'
  := by
  rw [establish] at h
  cases hread : readEstablishment s.reassembly s.engagement with
  | error cause =>
    rw [hread] at h
    cases h
    exact ⟨_, .read hread, rfl, rfl, rfl, rfl,
      took_of_silent rfl rfl rfl (List.append_nil _).symm⟩
  | ok read =>
    obtain ⟨establishment, engagement⟩ := read
    rw [hread] at h
    dsimp only at h
    cases hderive : setup.provider.derive establishment engagement .qr with
    | error cause =>
      rw [hderive] at h
      cases h
      exact ⟨_, .derive hread hderive, rfl, rfl, rfl, rfl, took_of_silent rfl rfl rfl rfl⟩
    | ok state =>
      rw [hderive] at h
      cases h

theorem readRequest_ok {setup : Setup η κ} {data : Bytes} {request : DeviceRequest}
    {s s' : Session η κ} (h : s.readRequest setup data = (.ok request, s')) :
  ∃ state state' text, s.tunnel = .established state
    ∧ setup.provider.decrypt data state = (.ok text, state')
    ∧ Cbor.decode text = .ok request
    ∧ s' = { s with
        tunnel := .established state'
        trace := s.trace ++ [.decrypt data] }
  := by
  obtain ⟨text, s₁, hdecrypt, hdecode⟩ := andThen_eq_ok h
  obtain ⟨state, state', htunnel, hprovider, rfl⟩ := decrypt_ok hdecrypt
  obtain ⟨hdecode, rfl⟩ := Prod.mk.injEq .. ▸ hdecode
  use state, state', text, htunnel, hprovider
  constructor
  · cases hcause : (Cbor.decode text : Except Refusal DeviceRequest) with
    | ok request' =>
      rw [hcause] at hdecode
      cases hdecode
      rfl
    | error cause =>
      rw [hcause] at hdecode
      cases hdecode
  · rfl

theorem readRequest_error {setup : Setup η κ} {data : Bytes} {e : TransferError} {state : κ}
    {s s' : Session η κ} (established : s.tunnel = .established state)
    (h : s.readRequest setup data = (.error e, s')) :
  Keeps setup [.decrypt data] s s'
    ∧ ((∃ cause state', setup.provider.decrypt data state = (.error cause, state')
        ∧ e = .decryptFailed cause)
      ∨ ∃ text state' cause, setup.provider.decrypt data state = (.ok text, state')
        ∧ (Cbor.decode text : Except Refusal DeviceRequest) = .error cause
        ∧ e = .requestDecodeFailed (.ofRefusal cause))
  := by
  rcases andThen_eq_error h with hdecrypt | ⟨text, s₁, hdecrypt, hdecode⟩
  · obtain ⟨cause, state', decrypt_eq, e_eq, keeps⟩ := decrypt_error established hdecrypt
    exact ⟨keeps, .inl ⟨cause, state', decrypt_eq, e_eq⟩⟩
  · obtain ⟨_, state', htunnel, decrypt_eq, rfl⟩ := decrypt_ok hdecrypt
    cases established.symm.trans htunnel
    cases hcause : (Cbor.decode text : Except Refusal DeviceRequest) with
    | ok request =>
      rw [hcause] at hdecode
      cases hdecode
    | error cause =>
      rw [hcause] at hdecode
      cases hdecode
      exact ⟨⟨rfl, rfl, rfl, rfl, took_of_silent rfl rfl rfl rfl⟩,
        .inr ⟨text, state', cause, decrypt_eq, hcause, rfl⟩⟩

/-- Once keys are derived the reader is judged, whatever it is judged to be. -/
theorem judgeReader_established (setup : Setup η κ) (state : κ) (request : DeviceRequest) :
  ∃ readerAuth, judgeReader setup (.established state) request = .ok readerAuth
  := by
  rw [judgeReader]
  split
  · exact ⟨_, rfl⟩
  · exact ⟨_, rfl⟩

theorem ask_ok {setup : Setup η κ} {request : DeviceRequest} {s s' : Session η κ}
    (h : s.ask setup request = (.ok (), s')) :
  ∃ readerAuth, judgeReader setup s.tunnel request = .ok readerAuth
    ∧ Called setup
        [.prompt (promptFor setup.credentials request.itemsRequests readerAuth) (s.cycle + 1)]
        { s with
          cycle := s.cycle + 1
          pending := some request.itemsRequests } s'
  := by
  rw [ask] at h
  cases hjudge : judgeReader setup s.tunnel request with
  | error e =>
    rw [hjudge] at h
    cases h
  | ok readerAuth =>
    rw [hjudge] at h
    cases h
    use readerAuth, rfl
    exact call_called setup (setup.host.requestReceived _ _) (fun _ => .prompt _ _) _ rfl

theorem ask_not_error {setup : Setup η κ} {request : DeviceRequest} {e : TransferError} {state : κ}
    {s s' : Session η κ} (established : s.tunnel = .established state) :
  s.ask setup request ≠ (.error e, s')
  := by
  obtain ⟨readerAuth, hjudge⟩ := judgeReader_established setup state request
  intro h
  rw [ask, established, hjudge] at h
  cases h

/-- A request that is read is shown to the user. -/
theorem processRequest_ok {setup : Setup η κ} {s s' : Session η κ}
    (h : s.processRequest setup = (.ok (), s')) :
  ∃ establishment engagement state state' text request readerAuth,
    readEstablishment s.reassembly s.engagement = .ok (establishment, engagement)
    ∧ setup.provider.derive establishment engagement .qr = .ok state
    ∧ setup.provider.decrypt establishment.data state = (.ok text, state')
    ∧ Cbor.decode text = .ok request
    ∧ judgeReader setup (.established state') request = .ok readerAuth
    ∧ Called setup [.derive engagement, .decrypt establishment.data,
          .prompt (promptFor setup.credentials request.itemsRequests readerAuth) (s.cycle + 1)]
        { s with
          reassembly := []
          tunnel := .established state'
          cycle := s.cycle + 1
          pending := some request.itemsRequests } s'
  := by
  obtain ⟨data, s₁, hestablish, h⟩ := andThen_eq_ok h
  obtain ⟨request, s₂, hread, hask⟩ := andThen_eq_ok h
  obtain ⟨establishment, engagement, state, hreadable, hderive, rfl, rfl⟩ := establish_ok hestablish
  obtain ⟨_, state', text, htunnel, hdecrypt, hdecode, rfl⟩ := readRequest_ok hread
  cases htunnel
  obtain ⟨readerAuth, hjudge, hasked⟩ := ask_ok hask
  use establishment, engagement, state, state', text, request, readerAuth, hreadable, hderive,
    hdecrypt, hdecode, hjudge
  have read : Called setup [.derive engagement, .decrypt establishment.data]
      { s with
        reassembly := []
        tunnel := .established state'
        cycle := s.cycle + 1
        pending := some request.itemsRequests }
      { s with
        reassembly := []
        tunnel := .established state'
        cycle := s.cycle + 1
        pending := some request.itemsRequests
        trace := s.trace ++ [.derive engagement, .decrypt establishment.data] } :=
    record_called rfl
  apply read.trans
  rw [List.append_assoc] at hasked
  exact hasked

theorem processRequest_error {setup : Setup η κ} {e : TransferError} {s s' : Session η κ}
    (h : s.processRequest setup = (.error e, s')) :
  ∃ actions, Unread setup s.reassembly s.engagement e actions ∧ Keeps setup actions s s'
  := by
  rcases andThen_eq_error h with h | ⟨data, s₁, hestablish, h⟩
  · exact establish_error h
  · obtain ⟨establishment, engagement, state, read_eq, derive_eq, rfl, rfl⟩ :=
      establish_ok hestablish
    have derived : Keeps setup [.derive engagement] s { s with
        reassembly := []
        tunnel := .established state
        trace := s.trace ++ [.derive engagement] } :=
      ⟨rfl, rfl, rfl, rfl, took_of_silent rfl rfl rfl rfl⟩
    rcases andThen_eq_error h with hread | ⟨request, s₂, hread, hask⟩
    · obtain ⟨keeps, ⟨cause, state', decrypt_eq, rfl⟩
        | ⟨text, state', cause, decrypt_eq, decode_eq, rfl⟩⟩ := readRequest_error rfl hread
      · exact ⟨_, .decrypt read_eq derive_eq decrypt_eq, derived.trans keeps⟩
      · exact ⟨_, .decode read_eq derive_eq decrypt_eq decode_eq, derived.trans keeps⟩
    · obtain ⟨_, state', _, -, -, -, rfl⟩ := readRequest_ok hread
      exact (ask_not_error rfl hask).elim

theorem answerRequest_ok {setup : Setup η κ} {s s' : Session η κ}
    (h : s.answerRequest setup = (.ok (), s')) :
  s.processRequest setup = (.ok (), s')
  := by
  rw [answerRequest] at h
  split at h
  · rename_i hprocess
    rw [hprocess, h]
  · split at h
    · cases h
    · cases h

/-- The reader is told that its request cannot be read, where there is a status for it. -/
theorem answerRequest_error {setup : Setup η κ} {e : TransferError} {s s' : Session η κ}
    (h : s.answerRequest setup = (.error e, s')) :
  ∃ done told, Unread setup s.reassembly s.engagement e done
    ∧ Tells setup (setup.host.replay done s.host).2 e.sessionStatus? told
    ∧ Keeps setup (done ++ told) s s'
  := by
  rw [answerRequest] at h
  split at h
  · cases h
  · rename_i hprocess
    obtain ⟨done, unread, keeps⟩ := processRequest_error hprocess
    split at h
    · rename_i s₁ _ status hstatus
      cases h
      obtain ⟨told, tells, keeps'⟩ := sendStatus_tells setup status s₁
      rw [keeps.took.host_eq] at tells
      rw [hstatus]
      exact ⟨done, told, unread, tells, keeps.trans keeps'⟩
    · rename_i hstatus
      cases h
      use done, [], unread
      rw [hstatus, List.append_nil]
      exact ⟨.nothing, keeps⟩

/-! ### The response -/

/-- Why no response is made of the items that the user chose, what was done to find out, and
which status the reader is told then. -/
inductive Unanswered (setup : Setup η κ) (s : Session η κ) (items : Option Selection) :
    TransferError → List Action → Option SessionStatus → Prop
  | unasked
      (pending_eq : s.pending = none) :
      Unanswered setup s items .sessionNotEstablished [] none
  | empty {requests : List ItemsRequest}
      (pending_eq : s.pending = some requests)
      (empty : (Disclosure.filter setup.credentials (.verifier requests items)).isEmpty) :
      Unanswered setup s items .noDisclosableDocument [] (some .termination)
  | make {requests : List ItemsRequest} {e : TransferError}
      (pending_eq : s.pending = some requests)
      (nonempty : (Disclosure.filter setup.credentials (.verifier requests items)).isEmpty = false)
      (response_eq : makeResponse setup s.tunnel
          (Disclosure.filter setup.credentials (.verifier requests items))
        = .error e) :
      Unanswered setup s items e [] none
  | encrypt {requests : List ItemsRequest} {response : DeviceResponse} {state state' : κ}
      {cause : SecurityError}
      (pending_eq : s.pending = some requests)
      (nonempty : (Disclosure.filter setup.credentials (.verifier requests items)).isEmpty = false)
      (response_eq : makeResponse setup s.tunnel
          (Disclosure.filter setup.credentials (.verifier requests items))
        = .ok response)
      (tunnel_eq : s.tunnel = .established state)
      (encrypt_eq : setup.provider.encrypt (Cbor.encode response) state = (.error cause, state')) :
      Unanswered setup s items (.encryptFailed cause) [.encrypt (Cbor.encode response)] none

theorem Unanswered.toggles_eq {setup : Setup η κ} {s : Session η κ} {items : Option Selection}
    {e : TransferError} {actions : List Action} {status : Option SessionStatus}
    (h : Unanswered setup s items e actions status) :
  toggles actions = []
  := by
  cases h with
  | unasked | empty | make | encrypt => rfl

theorem Unanswered.gates_eq {setup : Setup η κ} {s : Session η κ} {items : Option Selection}
    {e : TransferError} {actions : List Action} {status : Option SessionStatus}
    (h : Unanswered setup s items e actions status) :
  gates actions = []
  := by
  cases h with
  | unasked | empty | make | encrypt => rfl

/-- Whether a response can be made depends on the request and on the tunnel. -/
theorem Unanswered.same {setup : Setup η κ} {s s₁ : Session η κ} {items : Option Selection}
    {e : TransferError} {actions : List Action} {status : Option SessionStatus}
    (h : Unanswered setup s₁ items e actions status) (pending_eq : s₁.pending = s.pending)
    (tunnel_eq : s₁.tunnel = s.tunnel) :
  Unanswered setup s items e actions status
  := by
  cases h with
  | unasked pending => exact .unasked (pending_eq ▸ pending)
  | empty pending empty => exact .empty (pending_eq ▸ pending) empty
  | make pending nonempty response =>
    exact .make (pending_eq ▸ pending) nonempty (tunnel_eq ▸ response)
  | encrypt pending nonempty response tunnel encrypt =>
    exact .encrypt (pending_eq ▸ pending) nonempty (tunnel_eq ▸ response) (tunnel_eq ▸ tunnel)
      encrypt

/-- The session in which device keys are proven once the tunnel is established. -/
def authContext (setup : Setup η κ) (state : κ) : DeviceAuthContext where
  transcript := setup.provider.transcript state
  readerKey := setup.provider.readerKey state
  method := setup.config.deviceAuthMethod

/-- In an established tunnel only the device keys and the writing of the response count. -/
theorem makeResponse_established (setup : Setup η κ) (state : κ) (d : Disclosure) :
  makeResponse setup (.established state) d
    = (do
      let response ←
        d.response setup.provider setup.credentials (some (authContext setup state))
      if response.isWritable then return response else throw (.codec .repeatedLabel))
  := rfl

/-- A response is made in an established tunnel only, and it can be written. -/
theorem makeResponse_eq_ok_iff {setup : Setup η κ} {tunnel : Tunnel κ} {d : Disclosure}
    {response : DeviceResponse} :
  makeResponse setup tunnel d = .ok response
    ↔ ∃ state, tunnel = .established state
      ∧ d.response setup.provider setup.credentials (some (authContext setup state)) = .ok response
      ∧ response.isWritable
  := by
  cases tunnel with
  | closed =>
    constructor
    · intro h
      cases h
    · rintro ⟨_, h, -⟩
      cases h
  | established state =>
    rw [makeResponse_established, Except.bind_eq_ok_iff]
    constructor
    · rintro ⟨made, hmade, h⟩
      split at h
      · rename_i writable
        cases h
        exact ⟨state, rfl, hmade, writable⟩
      · cases h
    · rintro ⟨_, h, hmade, writable⟩
      cases h
      use response, hmade
      rw [if_pos writable]
      rfl

/-- In an established tunnel it is a proof or the writing that fails. -/
theorem makeResponse_eq_error_iff {setup : Setup η κ} {state : κ} {d : Disclosure}
    {e : TransferError} :
  makeResponse setup (.established state) d = .error e
    ↔ d.response setup.provider setup.credentials (some (authContext setup state)) = .error e
      ∨ ∃ response,
        d.response setup.provider setup.credentials (some (authContext setup state)) = .ok response
        ∧ response.isWritable = false ∧ .codec .repeatedLabel = e
  := by
  rw [makeResponse_established, Except.bind_eq_error_iff]
  apply or_congr_right
  apply exists_congr
  intro response
  apply and_congr_right
  intro made
  cases response.isWritable with
  | true =>
    constructor
    · intro h
      cases h
    · rintro ⟨h, -⟩
      cases h
  | false =>
    constructor
    · intro h
      cases h
      exact ⟨rfl, rfl⟩
    · rintro ⟨-, rfl⟩
      rfl

/-- A response that is made is encrypted and queued. -/
theorem buildResponse_ok {setup : Setup η κ} {items : Option Selection} {s s' : Session η κ}
    (h : s.buildResponse setup items = (.ok (), s')) :
  ∃ requests response state state' data, s.pending = some requests
    ∧ (Disclosure.filter setup.credentials (.verifier requests items)).isEmpty = false
    ∧ makeResponse setup s.tunnel (Disclosure.filter setup.credentials (.verifier requests items))
        = .ok response
    ∧ s.tunnel = .established state
    ∧ setup.provider.encrypt (Cbor.encode response) state = (.ok data, state')
    ∧ s' = { s with
        pending := none
        tunnel := .established state'
        outgoing := Fragment.frame (responseMessage data) (s.block setup)
        trace := s.trace ++ [.encrypt (Cbor.encode response), .queue (responseMessage data)] }
  := by
  rw [buildResponse] at h
  cases hpending : s.pending with
  | none =>
    rw [hpending] at h
    cases h
  | some requests =>
    rw [hpending] at h
    dsimp only at h
    split at h
    · cases h
    · rename_i hempty
      split at h
      · cases h
      · rename_i response hresponse
        obtain ⟨data, s₁, hencrypt, h⟩ := andThen_eq_ok h
        obtain ⟨state, state', htunnel, hprovider, rfl⟩ := encrypt_ok hencrypt
        cases h
        use requests, response, state, state', data, rfl, by simpa using hempty, hresponse, htunnel,
          hprovider
        exact congrArg (fun trace => { s with
          pending := none
          tunnel := .established state'
          outgoing := Fragment.frame (responseMessage data) (s.block setup)
          trace := trace }) (List.append_assoc s.trace [.encrypt (Cbor.encode response)] _)

theorem buildResponse_error {setup : Setup η κ} {items : Option Selection} {e : TransferError}
    {s s' : Session η κ} (h : s.buildResponse setup items = (.error e, s')) :
  ∃ done status told, Unanswered setup s items e done status
    ∧ Tells setup s.host status told
    ∧ Keeps setup (done ++ told) s s'
  := by
  rw [buildResponse] at h
  cases hpending : s.pending with
  | none =>
    rw [hpending] at h
    cases h
    exact ⟨[], none, [], .unasked hpending, .nothing, Keeps.refl setup s⟩
  | some requests =>
    rw [hpending] at h
    dsimp only at h
    have taken : Keeps setup [] s { s with pending := none } :=
      ⟨rfl, rfl, rfl, rfl, took_of_silent rfl rfl rfl (List.append_nil _).symm⟩
    split at h
    · rename_i hempty
      cases h
      obtain ⟨told, tells, keeps⟩ := sendStatus_tells setup .termination { s with pending := none }
      exact ⟨[], _, told, .empty hpending hempty, tells, taken.trans keeps⟩
    · rename_i hempty
      split at h
      · rename_i hmake
        cases h
        exact ⟨[], none, [], .make hpending (by simpa using hempty) hmake, .nothing, taken⟩
      · rename_i response hmake
        obtain ⟨state, established, -⟩ := makeResponse_eq_ok_iff.mp hmake
        rcases andThen_eq_error h with hencrypt | ⟨data, s₁, -, h⟩
        · obtain ⟨cause, state', encrypt_eq, rfl, keeps⟩ :=
            encrypt_error (s := { s with pending := none }) established hencrypt
          exact ⟨_, none, [],
            .encrypt hpending (by simpa using hempty) hmake established encrypt_eq, .nothing,
            taken.trans keeps⟩
        · cases h

end Presentment.Session
