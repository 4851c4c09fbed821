import Presentment.Proofs.Crypto.Suite
import Presentment.Proofs.Disclosure.Response
import Presentment.Proofs.Transfer.Runs
import Presentment.Security.Plain
import Presentment.Transfer.Radio

/-!
# Consent

A response is queued only when the user accepts the request that was shown last, at most once
for each prompt, and it returns only what the prompt listed and the user chose.  The invariant
is that a request which waits is the one of the last prompt, and that no response was queued
since: then whatever the user is asked is what is answered.
-/

namespace Presentment.Session

variable {η κ : Type}

/-! ### Prompts and responses -/

/-- What a step does about the user: nothing, or it shows a request, or it queues a response. -/
inductive Gate (setup : Setup η κ) (s : Session η κ) (event : Event) (added : List Action)
    (s' : Session η κ) : Prop
  | pass
      (gates_eq : gates added = [])
      (pending : ∀ requests ∈ s'.pending, requests ∈ s.pending ∧ s'.cycle = s.cycle)
      (outgoing : s'.outgoing ⊆ s.outgoing)
  | ask {requests : List ItemsRequest} {readerAuth : Option ReaderAuthOutcome}
      (gates_eq : gates added
        = [.prompt (promptFor setup.credentials requests readerAuth) s'.cycle])
      (pending_eq : s'.pending = some requests)
      (outgoing : s'.outgoing ⊆ s.outgoing)
      (cycle_eq : s'.cycle = s.cycle + 1)
  | respond {decision : Decision} {requests : List ItemsRequest} {response : DeviceResponse}
      {state state' : κ} {data : Bytes} {block : BlockSize}
      (event_eq : event = .consent decision)
      (accepted : decision.accepted)
      (status_eq : s.status = .requestReceived)
      (cycle_eq : decision.cycle = s.cycle)
      (pending_eq : s.pending = some requests)
      (response_eq : makeResponse setup s.tunnel
          (Disclosure.filter setup.credentials (.verifier requests decision.items))
        = .ok response)
      (tunnel_eq : s.tunnel = .established state)
      (encrypt_eq : setup.provider.encrypt (Cbor.encode response) state = (.ok data, state'))
      (gates_eq : gates added = [.queue (responseMessage data)])
      (pending : s'.pending = none)
      (outgoing : s'.outgoing ⊆ Fragment.frame (responseMessage data) block)

theorem Step.gate {setup : Setup η κ} {s s' : Session η κ} {event : Event}
    {followUps : List Event} (step : Step setup s event followUps s') :
  ∃ added, s'.trace = s.trace ++ added ∧ Gate setup s event added s'
  := by
  have kept : ∀ requests ∈ s.pending, requests ∈ s.pending ∧ s.cycle = s.cycle :=
    fun requests h => ⟨h, rfl⟩
  have given : ∀ requests ∈ (none : Option (List ItemsRequest)),
      requests ∈ s.pending ∧ s.cycle = s.cycle := by
    intro requests h
    cases h
  cases step with
  | stay | subscribe | unsubscribe | gather =>
    exact ⟨[], (List.append_nil _).symm, .pass rfl kept (List.Subset.refl _)⟩
  | fail fault called =>
    obtain ⟨_, _, -, rfl⟩ := called
    exact ⟨_, rfl, .pass fault.gates_eq given (List.nil_subset _)⟩
  | leave engaged called =>
    obtain ⟨_, _, -, rfl⟩ := called
    exact ⟨_, rfl, .pass (by simp [Action.isGate]) given (List.nil_subset _)⟩
  | setUp _ _ called | advertise _ _ _ called | connect _ _ called | start _ called | finish _ called
  | recover _ called =>
    obtain ⟨_, _, -, rfl⟩ := called
    exact ⟨_, rfl, .pass rfl kept (List.Subset.refl _)⟩
  | @ask _ _ _ _ _ _ _ _ readerAuth _ status_eq parse_eq read_eq derive_eq decrypt_eq decode_eq
      judge_eq called =>
    obtain ⟨_, _, -, rfl⟩ := called
    refine ⟨_, rfl, @Gate.ask _ _ _ _ _ _ _ _ readerAuth ?_ rfl (List.Subset.refl _) rfl⟩
    simp [Action.isGate]
  | @respond _ _ _ _ _ data _ rest _ status_eq accepted cycle_eq pending_eq nonempty response_eq
      tunnel_eq encrypt_eq frame_eq called =>
    obtain ⟨_, _, -, rfl⟩ := called
    have outgoing : rest ⊆ Fragment.frame (responseMessage data)
        (setup.block (setup.host.replay [.statusChanged .userSelected] s.host).2) := by
      rw [frame_eq]
      exact List.subset_append_right _ _
    exact ⟨_, rfl, .respond rfl accepted status_eq cycle_eq pending_eq response_eq tunnel_eq
      encrypt_eq (by simp [Action.isGate]) rfl outgoing⟩
  | sendMore status_eq outgoing_eq called =>
    obtain ⟨_, _, -, rfl⟩ := called
    refine ⟨_, rfl, .pass (gates_notices _ _) kept ?_⟩
    rw [outgoing_eq]
    exact List.subset_append_right _ _

/-- The request that waits is the one of the last prompt, and no response was queued since. -/
def IsPrompted (store : CredentialStore) (s : Session η κ) : Prop :=
  ∀ requests ∈ s.pending, ∃ readerAuth,
    (gates s.trace).getLast? = some (.prompt (promptFor store requests readerAuth) s.cycle)

/-- Every response that was queued came right after a prompt. -/
def IsAnswering (s : Session η κ) : Prop :=
  ∀ i message, (gates s.trace)[i]? = some (.queue message) →
    ∃ j prompt cycle, i = j + 1 ∧ (gates s.trace)[j]? = some (.prompt prompt cycle)

theorem Gate.isPrompted {setup : Setup η κ} {s s' : Session η κ} {event : Event}
    {added : List Action} (trace_eq : s'.trace = s.trace ++ added)
    (gate : Gate setup s event added s') (h : IsPrompted setup.credentials s) :
  IsPrompted setup.credentials s'
  := by
  intro requests hrequests
  rw [trace_eq, gates_append]
  cases gate with
  | pass gates_eq pending outgoing =>
    obtain ⟨hpending, hcycle⟩ := pending requests hrequests
    obtain ⟨readerAuth, hlast⟩ := h requests hpending
    use readerAuth
    rw [gates_eq, List.append_nil, hcycle, hlast]
  | @ask requests' readerAuth gates_eq pending_eq outgoing =>
    rw [pending_eq] at hrequests
    cases hrequests
    use readerAuth
    rw [gates_eq, List.getLast?_concat]
  | respond _ _ _ _ _ _ _ _ _ pending =>
    rw [pending] at hrequests
    cases hrequests

theorem Gate.isAnswering {setup : Setup η κ} {s s' : Session η κ} {event : Event}
    {added : List Action} (trace_eq : s'.trace = s.trace ++ added)
    (gate : Gate setup s event added s') (prompted : IsPrompted setup.credentials s)
    (h : IsAnswering s) :
  IsAnswering s'
  := by
  intro i message hqueue
  rw [trace_eq, gates_append] at hqueue ⊢
  by_cases hi : i < (gates s.trace).length
  · rw [List.getElem?_append_left hi] at hqueue
    obtain ⟨j, prompt, cycle, rfl, hprompt⟩ := h i message hqueue
    use j, prompt, cycle, rfl
    rw [List.getElem?_append_left (Nat.lt_of_succ_lt hi), hprompt]
  · have hi : (gates s.trace).length ≤ i := Nat.not_lt.mp hi
    rw [List.getElem?_append_right hi] at hqueue
    cases gate with
    | pass gates_eq pending outgoing =>
      rw [gates_eq] at hqueue
      cases hqueue
    | ask gates_eq pending_eq outgoing =>
      rw [gates_eq, List.getElem?_singleton] at hqueue
      split at hqueue
      · cases hqueue
      · cases hqueue
    | @respond decision requests _ _ _ _ _ _ _ _ _ pending_eq _ _ _ gates_eq pending outgoing =>
      obtain ⟨readerAuth, hlast⟩ := prompted requests pending_eq
      rw [gates_eq, List.getElem?_singleton] at hqueue
      split at hqueue
      · rename_i hzero
        have hi : i = (gates s.trace).length := by omega
        have hpos : 0 < (gates s.trace).length := by
          cases hgates : gates s.trace with
          | nil =>
            rw [hgates] at hlast
            cases hlast
          | cons action rest => exact Nat.zero_lt_succ _
        use (gates s.trace).length - 1, promptFor setup.credentials requests readerAuth, s.cycle
        constructor
        · omega
        · rw [List.getElem?_append_left (by omega), ← List.getLast?_eq_getElem?, hlast]
      · cases hqueue

/-! ### The consent gate -/

/-- Why a message with data was queued while an event was applied to `s`. -/
structure IsConsented (setup : Setup η κ) (s : Session η κ) (event : Event)
    (added : List Action) (message : Bytes) (decision : Decision) (prompt : Prompt)
    (response : DeviceResponse) : Prop where
  /-- The user accepts a request in time. -/
  event_eq : event = .consent decision
  accepted : decision.accepted
  status_eq : s.status = .requestReceived
  /-- It is the one of the last prompt, for which nothing was queued before. -/
  prompt_last : (gates s.trace).getLast? = some (.prompt prompt decision.cycle)
  only : gates added = [.queue message]
  /-- The message carries the encrypted response. -/
  encrypted : ∃ state state' data, s.tunnel = .established state
    ∧ setup.provider.encrypt (Cbor.encode response) state = (.ok data, state')
    ∧ message = responseMessage data
  /-- What is returned was shown and chosen. -/
  returned : ∀ docType ns identifier, response.Returns docType ns identifier →
    prompt.validItems.Lists docType ns identifier
      ∧ ∀ items ∈ decision.items, identifier ∈ items.chosen docType ns

/-- Nothing is sent without consent, as far as one event goes. -/
structure IsGuarded (setup : Setup η κ) (s : Session η κ) (event : Event) (added : List Action) :
    Prop where
  trace_eq : (s.apply setup event).2.2.trace = s.trace ++ added
  /-- What is to be sent has been so already, or is part of a message that is queued now. -/
  outgoing : ∀ fragment ∈ (s.apply setup event).2.2.outgoing, fragment ∈ s.outgoing
    ∨ ∃ message block, .queue message ∈ added ∧ fragment ∈ Fragment.frame message block
  consented : ∀ message, .queue message ∈ added → ∃ decision prompt response,
    IsConsented setup s event added message decision prompt response

theorem mem_gates_iff {action : Action} {trace : List Action} :
  action ∈ gates trace ↔ action ∈ trace ∧ action.isGate
  := List.mem_filter

theorem Gate.isConsented {setup : Setup η κ} {s s' : Session η κ} {event : Event}
    {added : List Action} {message : Bytes} (gate : Gate setup s event added s')
    (prompted : IsPrompted setup.credentials s) (hqueue : .queue message ∈ added) :
  ∃ decision prompt response, IsConsented setup s event added message decision prompt response
  := by
  have hgate : .queue message ∈ gates added := mem_gates_iff.mpr ⟨hqueue, rfl⟩
  cases gate with
  | pass gates_eq pending outgoing =>
    rw [gates_eq] at hgate
    cases hgate
  | ask gates_eq pending_eq outgoing =>
    rw [gates_eq, List.mem_singleton] at hgate
    cases hgate
  | @respond decision requests response state state' data _ event_eq accepted status_eq cycle_eq
      pending_eq response_eq tunnel_eq encrypt_eq gates_eq pending outgoing =>
    rw [gates_eq, List.mem_singleton] at hgate
    cases hgate
    obtain ⟨readerAuth, hlast⟩ := prompted requests pending_eq
    use decision, promptFor setup.credentials requests readerAuth, response
    constructor
    case event_eq => exact event_eq
    case accepted => exact accepted
    case status_eq => exact status_eq
    case prompt_last => rw [cycle_eq, hlast]
    case only => exact gates_eq
    case encrypted => exact ⟨state, state', data, tunnel_eq, encrypt_eq, rfl⟩
    case returned =>
      intro docType ns identifier hreturns
      obtain ⟨_, -, hresponse, -⟩ := makeResponse_eq_ok_iff.mp response_eq
      obtain ⟨document, hdocument, rfl, item, hitem, rfl⟩ := hreturns.disclosed hresponse
      exact Disclosure.listed_of_mem_filter hdocument hitem

theorem Gate.outgoing_subset {setup : Setup η κ} {s s' : Session η κ} {event : Event}
    {added : List Action} (gate : Gate setup s event added s') :
  ∀ fragment ∈ s'.outgoing, fragment ∈ s.outgoing
    ∨ ∃ message block, .queue message ∈ added ∧ fragment ∈ Fragment.frame message block
  := by
  intro fragment hfragment
  cases gate with
  | pass gates_eq pending outgoing => exact .inl (outgoing hfragment)
  | ask gates_eq pending_eq outgoing => exact .inl (outgoing hfragment)
  | @respond _ _ _ _ _ data block _ _ _ _ _ _ _ _ gates_eq pending outgoing =>
    refine .inr ⟨responseMessage data, block, ?_, outgoing hfragment⟩
    have hgate : .queue (responseMessage data) ∈ gates added := by
      rw [gates_eq]
      exact List.mem_singleton_self _
    exact (mem_gates_iff.mp hgate).1

/-- A session that has been applying events has shown every request that it holds, and has
answered each of those that it showed at most once. -/
theorem Reached.gates_inv {setup : Setup η κ} {s : Session η κ} (h : Reached setup s) :
  IsPrompted setup.credentials s ∧ IsAnswering s
  := by
  induction h with
  | fresh supply host =>
    constructor
    · intro requests h
      cases h
    · intro i message h
      cases h
  | @apply s event _ ih =>
    obtain ⟨prompted, answering⟩ := ih
    obtain ⟨added, trace_eq, gate⟩ := (apply_step setup event s).gate
    exact ⟨gate.isPrompted trace_eq prompted, gate.isAnswering trace_eq prompted answering⟩
  | outside host posted _ ih => exact ih

/-- No data is queued for the reader without consent: at most one response is queued for each
prompt, and only when the user accepts what the last prompt showed. -/
theorem reached_isGuarded {setup : Setup η κ} {s : Session η κ} (h : Reached setup s) :
  IsAnswering s ∧ ∀ event, ∃ added, IsGuarded setup s event added
  := by
  obtain ⟨prompted, answering⟩ := h.gates_inv
  use answering
  intro event
  obtain ⟨added, trace_eq, gate⟩ := (apply_step setup event s).gate
  use added
  constructor
  case trace_eq => exact trace_eq
  case outgoing => exact gate.outgoing_subset
  case consented => exact fun message hqueue => gate.isConsented prompted hqueue

/-! ### A presentation -/

/-- An item with a name. -/
def nameItem : Embedded IssuerSignedItem where
  bytes := Cbor.encode (⟨0, [1], "name", .text "A"⟩ : IssuerSignedItem)
  content := ⟨0, [1], "name", .text "A"⟩
  decode_bytes := rfl

/-- A document with a name. -/
def nameDocument : IssuerSigned where
  namespaces := some ⟨.ofList [("ns", .singleton nameItem)], rfl⟩
  issuerAuth := ⟨⟨[], .empty⟩, .empty, none, []⟩

/-- The request for the name. -/
def nameRequest : ItemsRequest where
  docType := "doc"
  namespaces := ⟨.ofList [("ns", ⟨.ofList [("name", false)], rfl⟩)], rfl⟩
  requestInfo := none

/-- A radio that is ready, in front of a wallet with a document with a name. -/
def nameWallet : Setup Radio Plain.Encryption where
  credentials := .ofList [{
    id := "id"
    docType := "doc"
    issuerSigned := nameDocument
    privateKey := default }]
  anchors := ⟨[]⟩
  config := {}
  suite := .transparent
  provider := Plain.provider {}
  host := Radio.host

/-- The request as the first message of a reader. -/
def nameMessage : Except Refusal Bytes := do
  let itemsRequest ← Embedded.ofContent nameRequest
  let readerKey ← Embedded.ofContent (CipherSuite.transparent.publicKey default)
  let request : DeviceRequest := ⟨DeviceRequest.currentVersion, .singleton ⟨itemsRequest, none⟩⟩
  return Cbor.encode (⟨some readerKey, 0xD0 :: 0x01 :: Cbor.encode request⟩ : SessionEstablishment)

/-- A session to which the reader has sent the request. -/
def nameAsked : Session Radio Plain.Encryption :=
  [.setUp, .transportState .ready, .subscribed .state, .subscribed .server2Client,
      .write .state Channel.startMarker,
      .write .client2Server (0x00 :: nameMessage.toOption.getD [])].foldl
    (fun s event => (s.apply nameWallet event).2.2)
    (.fresh ⟨fun _ => default, fun _ => .ofNat 1, 0, 0⟩ {})

/-- The request is shown, and once the user accepts it, a response is queued. -/
theorem reached_isGuarded_nameAsked :
  nameAsked.status = .requestReceived
    ∧ (nameAsked.apply nameWallet (.consent ⟨true, none, 1⟩)).2.2.status = .userSelected
    ∧ Reached nameWallet nameAsked
    ∧ IsAnswering nameAsked
    ∧ ∀ event, ∃ added, IsGuarded nameWallet nameAsked event added
  := by
  have reached : Reached nameWallet nameAsked := Reached.foldl (.fresh _ _) _
  have outcome : nameAsked.status = .requestReceived
      ∧ (nameAsked.apply nameWallet (.consent ⟨true, none, 1⟩)).2.2.status = .userSelected := by
    decide +kernel
  exact ⟨outcome.1, outcome.2, reached, reached_isGuarded reached⟩

end Presentment.Session
