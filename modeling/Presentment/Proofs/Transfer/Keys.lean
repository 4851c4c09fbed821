import Presentment.Proofs.Security.SessionKey
import Presentment.Proofs.Transfer.Resources
import Presentment.Proofs.Verifier.Delivery

/-!
# The use of keys

A session draws a key for every engagement.  `Accounts` says that everything the session has
done with its keys is accounted for, drawn key by drawn key: of each at most one session
encryption was derived, under which one message was decrypted and at most one encrypted.
-/

namespace Presentment

open SessionKey (Call)

namespace Action

/-- Whether an action tells that an engagement is made, or uses a key. -/
def isKeyed : Action → Bool
  | .statusChanged .engagementReady | .derive _ | .encrypt _ | .decrypt _ => true
  | _ => false

end Action

/-- What was done with the key of an engagement: the message of the reader from which session
keys were derived, the ciphertext that was decrypted with them, and the text that was
encrypted. -/
structure KeyUse where
  engagement : Engagement
  establishment : SessionEstablishment
  ciphertext : Option Bytes
  text : Option Bytes

/-- A key that was drawn for an engagement, and what was done with it. -/
structure DrawnKey where
  secret : PrivateKey
  use : Option KeyUse

namespace KeyUse

variable {suite : CipherSuite}

/-- The actions that use the key. -/
def actions (u : KeyUse) : List Action :=
  [Action.derive u.engagement] ++ u.ciphertext.toList.map .decrypt ++ u.text.toList.map .encrypt

/-- The session encryption after this: the text went through the device side, and the ciphertext
through the reader side. -/
def state? (suite : CipherSuite) (u : KeyUse) : Option Iso.Encryption :=
  (Iso.derive suite u.establishment u.engagement .qr).toOption.map (fun e => { e with
    deviceSide := e.deviceSide.after suite (u.text.toList.map Call.encrypt)
    readerSide := e.readerSide.after suite (u.ciphertext.toList.map Call.decrypt) })

/-- What was done with the key is what it is good for: if session keys come of it, the data of
the message was decrypted with them, and otherwise nothing was done. -/
inductive IsProper (suite : CipherSuite) (u : KeyUse) : Prop
  | refused {cause : SecurityError}
      (derive_eq : Iso.derive suite u.establishment u.engagement .qr = .error cause)
      (ciphertext_eq : u.ciphertext = none)
      (text_eq : u.text = none)
  | derived {readerKey : Embedded Cose.Key}
      (derive_eq : Iso.derive suite u.establishment u.engagement .qr
        = .ok ⟨⟨u.engagement.deviceEngagement, readerKey, .qr⟩, readerKey.content,
          .derive suite (suite.agree u.engagement.secret readerKey.content)
            ⟨u.engagement.deviceEngagement, readerKey, .qr⟩ .device,
          .derive suite (suite.agree u.engagement.secret readerKey.content)
            ⟨u.engagement.deviceEngagement, readerKey, .qr⟩ .reader⟩)
      (ciphertext_eq : u.ciphertext = some u.establishment.data)

/-- Session keys come of the key of the reader and the secret of the engagement. -/
theorem Iso.derive_eq_ok {establishment : SessionEstablishment} {e : Engagement}
    {handover : Handover} {state : Iso.Encryption}
    (h : Iso.derive suite establishment e handover = .ok state) :
  ∃ readerKey, state = ⟨⟨e.deviceEngagement, readerKey, handover⟩, readerKey.content,
    .derive suite (suite.agree e.secret readerKey.content)
      ⟨e.deviceEngagement, readerKey, handover⟩ .device,
    .derive suite (suite.agree e.secret readerKey.content)
      ⟨e.deviceEngagement, readerKey, handover⟩ .reader⟩
  := by
  cases hkey : establishment.readerKey with
  | none =>
    rw [Iso.derive, hkey] at h
    cases h
  | some readerKey =>
    rw [Iso.derive, hkey] at h
    dsimp only at h
    split at h
    · cases h
    · cases h
      exact ⟨readerKey, rfl⟩

section

variable {establishment : SessionEstablishment} {e : Engagement} {state state' : Iso.Encryption}

theorem isProper_of_derive (derive_eq : Iso.derive suite establishment e .qr = .ok state) :
  IsProper suite ⟨e, establishment, some establishment.data, none⟩
  := by
  obtain ⟨readerKey, rfl⟩ := Iso.derive_eq_ok derive_eq
  exact .derived derive_eq rfl

theorem state?_of_decrypt {outcome : Except SecurityError Bytes}
    (derive_eq : Iso.derive suite establishment e .qr = .ok state)
    (decrypt_eq : Iso.decrypt suite establishment.data state = (outcome, state')) :
  state? suite ⟨e, establishment, some establishment.data, none⟩ = some state'
  := by
  rw [state?, derive_eq]
  exact congrArg some (congrArg Prod.snd decrypt_eq)

theorem state?_of_encrypt {u : KeyUse} {text : Bytes} {outcome : Except SecurityError Bytes}
    (text_eq : u.text = none) (state_eq : u.state? suite = some state)
    (encrypt_eq : Iso.encrypt suite text state = (outcome, state')) :
  state? suite { u with text := some text } = some state'
  := by
  obtain ⟨derived, hderived, rfl⟩ := Option.map_eq_some_iff.mp state_eq
  rw [text_eq] at encrypt_eq
  rw [state?, hderived]
  exact congrArg some (congrArg Prod.snd encrypt_eq)

end

end KeyUse

namespace DrawnKey

/-- The actions from which the key was drawn on. -/
def actions (key : DrawnKey) : List Action :=
  [Action.statusChanged .engagementReady] ++ (key.use.map KeyUse.actions).getD []

end DrawnKey

namespace Session

variable {η : Type}

/-- The actions that make engagements and use keys. -/
def keyed (trace : List Action) : List Action :=
  trace.filter Action.isKeyed

@[simp]
theorem keyed_nil :
  keyed [] = []
  := rfl

@[simp]
theorem keyed_cons (action : Action) (trace : List Action) :
  keyed (action :: trace) = if action.isKeyed then action :: keyed trace else keyed trace
  := List.filter_cons

@[simp]
theorem keyed_append (before after : List Action) :
  keyed (before ++ after) = keyed before ++ keyed after
  := List.filter_append ..

@[simp]
theorem keyed_stops {κ : Type} (s : Session η κ) :
  keyed s.stops = []
  := by
  rw [stops]
  split
  · rfl
  · rfl

@[simp]
theorem keyed_notices (sent rest : List Bytes) :
  keyed (notices sent rest) = []
  := by
  apply List.filter_eq_nil_iff.mpr
  intro action h
  rcases List.mem_append.mp h with h | h
  · obtain ⟨fragment, -, rfl⟩ := List.mem_map.mp h
    exact Bool.noConfusion
  · obtain ⟨fragment, -, rfl⟩ := List.mem_map.mp h
    exact Bool.noConfusion

@[simp]
theorem keyed_giveUp {κ : Type} (e : TransferError) (s : Session η κ) :
  keyed (s.giveUp e) = []
  := by
  simp [giveUp, Action.isKeyed]

theorem Tells.keyed_eq {κ : Type} {setup : Setup η κ} {h : η} {status : Option SessionStatus}
    {actions : List Action} (tells : Tells setup h status actions) :
  keyed actions = []
  := by
  cases tells with
  | nothing => rfl
  | status => apply keyed_notices

/-! ### The last key -/

/-- What the key that was drawn last has to do with what the session holds: as long as the
session is offered it has not been used, and from the request on the tunnel is what came of
it. -/
def Stands (suite : CipherSuite) (s : Session η Iso.Encryption) (last : Option DrawnKey) : Prop :=
  match s.status with
  | .engagementReady | .connected | .started =>
    ∃ secret service e, last = some ⟨secret, none⟩ ∧ s.engagement = some e
      ∧ Engagement.of suite secret service = .ok e
  | .requestReceived => ∃ secret u state, last = some ⟨secret, some u⟩ ∧ u.text = none
      ∧ s.tunnel = .established state ∧ u.state? suite = some state
  | .userSelected | .responseSent => ∃ secret u state, last = some ⟨secret, some u⟩
      ∧ s.tunnel = .established state ∧ u.state? suite = some state
  | _ => True

/-- What an event does with the keys. -/
inductive Expense (setup : Setup η Iso.Encryption) (s : Session η Iso.Encryption) :
    List Action → Session η Iso.Encryption → Prop
  | nothing {added : List Action} {s' : Session η Iso.Encryption}
      (keyed_eq : keyed added = [])
      (supply_eq : s'.supply = s.supply)
      (keeps : ∀ last, Stands setup.suite s last → Stands setup.suite s' last) :
      Expense setup s added s'
  /-- A key is drawn for an engagement. -/
  | draw {added : List Action} {s' : Session η Iso.Encryption}
      (keyed_eq : keyed added = [Action.statusChanged .engagementReady])
      (supply_eq : s'.supply = (Engagement.generate setup.suite s.supply).2)
      (stands : Stands setup.suite s' (some ⟨s.supply.drawKey.1, none⟩)) :
      Expense setup s added s'
  /-- The key of the engagement is used. -/
  | use {added : List Action} {s' : Session η Iso.Encryption} {u : KeyUse}
      (status_eq : s.status = .started)
      (engagement_eq : s.engagement = some u.engagement)
      (proper : u.IsProper setup.suite)
      (keyed_eq : keyed added = u.actions)
      (supply_eq : s'.supply = s.supply)
      (stands : ∀ secret, Stands setup.suite s' (some ⟨secret, some u⟩)) :
      Expense setup s added s'
  /-- The response is encrypted. -/
  | encrypt {added : List Action} {s' : Session η Iso.Encryption} {text : Bytes}
      (status_eq : s.status = .requestReceived)
      (keyed_eq : keyed added = [Action.encrypt text])
      (supply_eq : s'.supply = s.supply)
      (stands : ∀ secret (u : KeyUse) state, s.tunnel = .established state → u.text = none →
        u.state? setup.suite = some state →
          Stands setup.suite s' (some ⟨secret, some { u with text := some text }⟩)) :
      Expense setup s added s'

theorem stands_of_terminal {suite : CipherSuite} {s : Session η Iso.Encryption}
    (terminal : s.status.isTerminal) (last : Option DrawnKey) :
  Stands suite s last
  := by
  rw [Stands]
  cases hs : s.status with
  | disconnected | error => trivial
  | _ =>
    rw [hs] at terminal
    cases terminal

section

variable {setup : Setup η Iso.Encryption} {s s' : Session η Iso.Encryption} {now : Nat}

/-- A message that cannot be shown has its keys used as far as it went. -/
theorem Unread.expense {message : Bytes} {e : TransferError} {done added : List Action}
    (standard : setup.provider = Iso.provider setup.suite now) (status_eq : s.status = .started)
    (unread : Unread setup message s.engagement e done) (keyed_eq : keyed added = done)
    (supply_eq : s'.supply = s.supply) (terminal : s'.status.isTerminal) :
  Expense setup s added s'
  := by
  have stands : ∀ last, Stands setup.suite s' last := stands_of_terminal terminal
  cases unread with
  | read => exact .nothing keyed_eq supply_eq (fun last _ => stands last)
  | @derive establishment engagement _ read_eq derive_eq =>
    have held := (opening_of_readEstablishment read_eq).held_eq
    rw [standard] at derive_eq
    exact .use (u := ⟨engagement, establishment, none, none⟩) status_eq held
      (.refused derive_eq rfl rfl) keyed_eq supply_eq (fun _ => stands _)
  | @decrypt establishment engagement _ _ _ read_eq derive_eq
  | @decode establishment engagement _ _ _ _ read_eq derive_eq =>
    have held := (opening_of_readEstablishment read_eq).held_eq
    rw [standard] at derive_eq
    exact .use (u := ⟨engagement, establishment, some establishment.data, none⟩) status_eq held
      (KeyUse.isProper_of_derive derive_eq) keyed_eq supply_eq (fun _ => stands _)

/-- A failure spends keys only as far as the event went. -/
theorem Fault.expense {event : Event} {e : TransferError} {supply : Supply} {added : List Action}
    (standard : setup.provider = Iso.provider setup.suite now)
    (fault : Fault setup s event e supply added) (supply_eq : s'.supply = supply)
    (terminal : s'.status.isTerminal) :
  Expense setup s added s'
  := by
  have stands : ∀ last, Stands setup.suite s' last := stands_of_terminal terminal
  cases fault with
  | credentials | radio =>
    exact .nothing (by simp [Action.isKeyed]) supply_eq (fun last _ => stands last)
  | engagement _ generate_eq | refusal _ generate_eq =>
    exact .draw (by simp [Action.isKeyed]) (by rw [supply_eq, generate_eq]) (stands _)
  | @request _ _ _ done _ status_eq _ unread tells =>
    apply unread.expense standard status_eq _ supply_eq terminal
    have used : keyed done = done := by
      cases unread with
      | read | derive | decrypt | decode => rfl
    simp [tells.keyed_eq, used, Action.isKeyed]
  | @response _ _ _ told _ status_eq _ _ unanswered tells =>
    cases unanswered with
    | unasked | empty | make =>
      exact .nothing (by simp [tells.keyed_eq, Action.isKeyed]) supply_eq
        (fun last _ => stands last)
    | @encrypt _ response _ _ cause =>
      have keyed_eq : keyed ([Action.statusChanged .userSelected]
          ++ ([Action.encrypt (Cbor.encode response)] ++ told) ++ s.giveUp (.encryptFailed cause))
          = [Action.encrypt (Cbor.encode response)] := by
        simp [tells.keyed_eq, Action.isKeyed]
      exact .encrypt status_eq keyed_eq supply_eq (fun _ _ _ _ _ _ => stands _)
  | rejection _ _ _ tells =>
    exact .nothing (by simp [tells.keyed_eq, Action.isKeyed]) supply_eq (fun last _ => stands last)

/-- Every step spends keys in one of these ways. -/
theorem Step.expense {event : Event} {followUps : List Event}
    (standard : setup.provider = Iso.provider setup.suite now)
    (step : Step setup s event followUps s') :
  ∃ added, Took setup added s s' ∧ Expense setup s added s'
  := by
  cases step with
  | stay | subscribe | unsubscribe | gather =>
    use [], ⟨rfl, (List.append_nil _).symm, (List.append_nil _).symm⟩
    exact .nothing rfl rfl (fun _ stands => stands)
  | fail fault called =>
    refine ⟨_, called.tookFrom rfl rfl rfl, fault.expense standard ?_ ?_⟩
    · exact called.same Session.supply (fun _ _ _ => rfl)
    · rw [called.status_eq]
      rfl
  | leave _ called =>
    refine ⟨_, called.tookFrom rfl rfl rfl, .nothing (by simp [Action.isKeyed]) ?_ ?_⟩
    · exact called.same Session.supply (fun _ _ _ => rfl)
    · intro last _
      apply stands_of_terminal
      rw [called.status_eq]
      rfl
  | setUp status_eq _ called | recover status_eq called =>
    have took : Took setup _ s s' := called.tookFrom rfl rfl rfl
    obtain ⟨_, _, -, rfl⟩ := called
    exact ⟨_, took, .nothing rfl rfl (fun _ _ => trivial)⟩
  | connect status_eq _ called | start status_eq called =>
    have took : Took setup _ s s' := called.tookFrom rfl rfl rfl
    obtain ⟨_, _, -, rfl⟩ := called
    refine ⟨_, took, .nothing rfl rfl ?_⟩
    intro last stands
    rw [Stands, status_eq] at stands
    exact stands
  | finish status_eq called =>
    have took : Took setup _ s s' := called.tookFrom rfl rfl rfl
    obtain ⟨_, _, -, rfl⟩ := called
    refine ⟨_, took, .nothing rfl rfl ?_⟩
    intro last stands
    rw [Stands, status_eq] at stands
    exact stands
  | sendMore _ _ called =>
    have took : Took setup _ s s' := called.tookFrom rfl rfl rfl
    obtain ⟨_, _, -, rfl⟩ := called
    exact ⟨_, took, .nothing (keyed_notices _ _) rfl (fun _ stands => stands)⟩
  | advertise _ generate_eq _ called =>
    have took : Took setup _ s s' := called.tookFrom rfl rfl rfl
    obtain ⟨_, _, -, rfl⟩ := called
    refine ⟨_, took, .draw rfl (congrArg Prod.snd generate_eq).symm ?_⟩
    exact ⟨_, _, _, rfl, rfl, congrArg Prod.fst generate_eq⟩
  | @ask _ _ _ establishment engagement _ _ _ _ _ status_eq _ read_eq derive_eq decrypt_eq _ _
      called =>
    have took : Took setup _ s s' := called.tookFrom rfl rfl rfl
    have held := (opening_of_readEstablishment read_eq).held_eq
    rw [standard] at derive_eq decrypt_eq
    obtain ⟨_, _, -, rfl⟩ := called
    refine ⟨_, took, .use (u := ⟨engagement, establishment, some establishment.data, none⟩)
      status_eq held (KeyUse.isProper_of_derive derive_eq) ?_ rfl ?_⟩
    · simp [Action.isKeyed, KeyUse.actions]
    · intro secret
      exact ⟨secret, _, _, rfl, rfl, rfl, KeyUse.state?_of_decrypt derive_eq decrypt_eq⟩
  | @respond _ _ response _ _ data sent rest _ status_eq _ _ _ _ _ tunnel_eq encrypt_eq _
      called =>
    have took : Took setup _ s s' := called.tookFrom rfl rfl rfl
    have keyed_eq : keyed ([Action.statusChanged .userSelected,
        Action.encrypt (Cbor.encode response), Action.queue (responseMessage data)]
        ++ notices sent rest) = [Action.encrypt (Cbor.encode response)] := by
      simp [Action.isKeyed]
    rw [standard] at encrypt_eq
    obtain ⟨_, _, -, rfl⟩ := called
    refine ⟨_, took, .encrypt status_eq keyed_eq rfl ?_⟩
    · intro secret u state tunnel_eq' text_eq state_eq
      cases tunnel_eq.symm.trans tunnel_eq'
      exact ⟨secret, _, _, rfl, rfl, KeyUse.state?_of_encrypt text_eq state_eq encrypt_eq⟩

end

/-! ### Whole runs -/

/-- The keys that were drawn account for everything that a session has done with its keys. -/
structure Accounts (suite : CipherSuite) (drawn : List DrawnKey) (s : Session η Iso.Encryption) :
    Prop where
  /-- Engagements were made and keys used in the order in which the keys were drawn. -/
  keyed_eq : keyed s.trace = drawn.flatMap DrawnKey.actions
  /-- The keys came from the supply, one after the other. -/
  secrets : ∃ first, first + drawn.length = s.supply.keysDrawn
    ∧ drawn.map DrawnKey.secret = (List.range' first drawn.length).map s.supply.key
  /-- A key was used for its own engagement. -/
  proper : ∀ key ∈ drawn, ∀ u ∈ key.use, u.IsProper suite
    ∧ ∃ service, Engagement.of suite key.secret service = .ok u.engagement
  stands : Stands suite s drawn.getLast?

section

variable {suite : CipherSuite} {drawn : List DrawnKey} {s s' : Session η Iso.Encryption}

theorem accounts_fresh (suite : CipherSuite) (supply : Supply) (host : η) :
  Accounts suite [] (Session.fresh supply host)
  := by
  constructor
  case keyed_eq => rfl
  case secrets => exact ⟨supply.keysDrawn, rfl, rfl⟩
  case proper => exact fun key hkey => absurd hkey List.not_mem_nil
  case stands => trivial

/-- What is done with the key that was drawn last is added to its account. -/
theorem Accounts.spend {earlier : List DrawnKey} {secret : PrivateKey} {use : Option KeyUse}
    {u : KeyUse} {added : List Action} (h : Accounts suite (earlier ++ [⟨secret, use⟩]) s)
    (trace_eq : s'.trace = s.trace ++ added) (supply_eq : s'.supply = s.supply)
    (actions_eq : (use.map KeyUse.actions).getD [] ++ keyed added = u.actions)
    (proper : u.IsProper suite ∧ ∃ service, Engagement.of suite secret service = .ok u.engagement)
    (stands : Stands suite s' (some ⟨secret, some u⟩)) :
  Accounts suite (earlier ++ [⟨secret, some u⟩]) s'
  := by
  constructor
  case keyed_eq =>
    rw [trace_eq, keyed_append, h.keyed_eq]
    simp only [List.flatMap_append, List.flatMap_cons, List.flatMap_nil, List.append_nil,
      DrawnKey.actions, List.append_assoc, actions_eq, Option.map_some, Option.getD_some]
  case secrets =>
    rw [supply_eq]
    simpa using h.secrets
  case proper =>
    intro key hkey
    rcases List.mem_append.mp hkey with hkey | hkey
    · exact h.proper key (List.mem_append_left _ hkey)
    · rw [List.mem_singleton.mp hkey]
      rintro _ ⟨⟩
      exact proper
  case stands =>
    rw [List.getLast?_concat]
    exact stands

/-- A key that is drawn is a new account. -/
theorem Accounts.draw {added : List Action} (h : Accounts suite drawn s)
    (trace_eq : s'.trace = s.trace ++ added)
    (keyed_eq : keyed added = [Action.statusChanged .engagementReady])
    (supply_eq : s'.supply = (Engagement.generate suite s.supply).2)
    (stands : Stands suite s' (some ⟨s.supply.drawKey.1, none⟩)) :
  Accounts suite (drawn ++ [⟨s.supply.drawKey.1, none⟩]) s'
  := by
  constructor
  case keyed_eq =>
    rw [trace_eq, keyed_append, h.keyed_eq, keyed_eq]
    simp [DrawnKey.actions]
  case secrets =>
    obtain ⟨first, count, secrets⟩ := h.secrets
    use first
    have drawn_next : s'.supply.keysDrawn = s.supply.keysDrawn + 1
        ∧ s'.supply.key = s.supply.key := by
      rw [supply_eq]
      exact ⟨rfl, rfl⟩
    rw [drawn_next.1, drawn_next.2, List.map_append, secrets, List.length_append,
      List.length_singleton, List.range'_concat, List.map_append, Nat.one_mul, count]
    exact ⟨by omega, rfl⟩
  case proper =>
    intro key hkey
    rcases List.mem_append.mp hkey with hkey | hkey
    · exact h.proper key hkey
    · rw [List.mem_singleton.mp hkey]
      rintro _ ⟨⟩
  case stands =>
    rw [List.getLast?_concat]
    exact stands

/-- Every step can be accounted for. -/
theorem Accounts.step {setup : Setup η Iso.Encryption} {added : List Action}
    (h : Accounts setup.suite drawn s) (took : Took setup added s s')
    (expense : Expense setup s added s') :
  ∃ drawn', Accounts setup.suite drawn' s'
  := by
  have stood := h.stands
  cases expense with
  | nothing keyed_eq supply_eq keeps =>
    use drawn
    constructor
    case keyed_eq => rw [took.trace_eq, keyed_append, keyed_eq, List.append_nil, h.keyed_eq]
    case secrets =>
      rw [supply_eq]
      exact h.secrets
    case proper => exact h.proper
    case stands => exact keeps _ stood
  | draw keyed_eq supply_eq stands => exact ⟨_, h.draw took.trace_eq keyed_eq supply_eq stands⟩
  | use status_eq engagement_eq proper keyed_eq supply_eq stands =>
    rw [Stands, status_eq] at stood
    obtain ⟨secret, service, e, last, held, made⟩ := stood
    obtain ⟨earlier, rfl⟩ := List.getLast?_eq_some_iff.mp last
    cases held.symm.trans engagement_eq
    exact ⟨_, h.spend took.trace_eq supply_eq keyed_eq ⟨proper, service, made⟩ (stands secret)⟩
  | @encrypt text status_eq keyed_eq supply_eq stands =>
    rw [Stands, status_eq] at stood
    obtain ⟨secret, u, state, last, text_eq, tunnel_eq, state_eq⟩ := stood
    obtain ⟨earlier, rfl⟩ := List.getLast?_eq_some_iff.mp last
    obtain ⟨proper, made⟩ := h.proper ⟨secret, some u⟩ (List.mem_append_right _ List.mem_cons_self)
      u rfl
    have proper' : KeyUse.IsProper setup.suite { u with text := some text } := by
      cases proper with
      | refused derive_eq =>
        rw [KeyUse.state?, derive_eq] at state_eq
        cases state_eq
      | derived derive_eq ciphertext_eq => exact .derived derive_eq ciphertext_eq
    refine ⟨_, h.spend took.trace_eq supply_eq ?_ ⟨proper', made⟩
      (stands secret u state tunnel_eq text_eq state_eq)⟩
    rw [keyed_eq]
    simp [KeyUse.actions, text_eq]

/-- Wherever a session is reached, what it has done with its keys can be accounted for. -/
theorem Reached.accounts {setup : Setup η Iso.Encryption} {now : Nat}
    (standard : setup.provider = Iso.provider setup.suite now) (h : Reached setup s) :
  ∃ drawn, Accounts setup.suite drawn s
  := by
  induction h with
  | fresh supply host => exact ⟨[], accounts_fresh setup.suite supply host⟩
  | @apply s event _ ih =>
    obtain ⟨drawn, accounts⟩ := ih
    obtain ⟨added, took, expense⟩ := (apply_step setup event s).expense standard
    exact accounts.step took expense
  | outside host posted _ ih =>
    obtain ⟨drawn, accounts⟩ := ih
    exact ⟨drawn, accounts.keyed_eq, accounts.secrets, accounts.proper, accounts.stands⟩

/-- No key is used twice, and no nonce under a session key.  What a session has done with its
keys can be accounted for, and the keys of an established tunnel are those that came of the last
key that was drawn, with one message decrypted by the key of the reader and at most one encrypted
by the key of the device. -/
theorem Reached.keys_usedOnce {setup : Setup η Iso.Encryption} {now : Nat}
    (standard : setup.provider = Iso.provider setup.suite now) (h : Reached setup s) :
  (∃ drawn, Accounts setup.suite drawn s
      ∧ ∀ state, s.tunnel = .established state → ∃ secret u,
        drawn.getLast? = some ⟨secret, some u⟩ ∧ u.state? setup.suite = some state)
    ∧ ∀ secret transcript party,
      SessionKey.IsNumbered setup.suite (.derive setup.suite secret transcript party)
  := by
  constructor
  · obtain ⟨drawn, accounts⟩ := h.accounts standard
    use drawn, accounts
    intro state tunnel_eq
    have secured : s.status.isSecured := by
      rw [← h.settles.tunnel, tunnel_eq]
      rfl
    have stood := accounts.stands
    rw [Stands] at stood
    cases hs : s.status with
    | requestReceived =>
      rw [hs] at stood
      obtain ⟨secret, u, state', last, -, tunnel_eq', state_eq⟩ := stood
      cases tunnel_eq.symm.trans tunnel_eq'
      exact ⟨secret, u, last, state_eq⟩
    | userSelected | responseSent =>
      rw [hs] at stood
      obtain ⟨secret, u, state', last, tunnel_eq', state_eq⟩ := stood
      cases tunnel_eq.symm.trans tunnel_eq'
      exact ⟨secret, u, last, state_eq⟩
    | _ =>
      rw [hs] at secured
      cases secured
  · intro secret transcript party
    exact SessionKey.isNumbered setup.suite rfl

end

/-! ### The keys of a presentation -/

open Presentation (nameReader? nameSetup nameStarted reached_nameStarted)

/-- The session in which the name is requested and given. -/
def nameGiven : Session Radio Iso.Encryption :=
  [.write .client2Server (0x00 :: ((nameReader? nameStarted.engagement).map (·.1)).getD []),
      .consent ⟨true, none, 1⟩].foldl
    (fun s event => (s.apply nameSetup event).2.2) nameStarted

/-- When the name is given, one key was drawn, and its session has encrypted one message. -/
theorem keys_usedOnce_nameGiven :
  nameSetup.provider = Iso.provider nameSetup.suite 0
    ∧ Reached nameSetup nameGiven
    ∧ nameGiven.status = .userSelected
    ∧ (∃ drawn, Accounts nameSetup.suite drawn nameGiven
      ∧ ∀ state, nameGiven.tunnel = .established state → ∃ secret u,
        drawn.getLast? = some ⟨secret, some u⟩ ∧ u.state? nameSetup.suite = some state)
    ∧ ∀ secret transcript party,
      SessionKey.IsNumbered nameSetup.suite (.derive nameSetup.suite secret transcript party)
  := by
  have standard : nameSetup.provider = Iso.provider nameSetup.suite 0 := rfl
  have reached : Reached nameSetup nameGiven := reached_nameStarted.foldl _
  have status_eq : nameGiven.status = .userSelected := by
    decide +kernel
  exact ⟨standard, reached, status_eq, reached.keys_usedOnce standard⟩

end Session

end Presentment
