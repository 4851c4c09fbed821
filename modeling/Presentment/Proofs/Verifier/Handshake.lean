import Presentment.Proofs.Fragment
import Presentment.Proofs.Transfer.Apply
import Presentment.Proofs.Verifier.Agreement

/-!
# Handshake

The reader takes the engagement of the holder, directly or from its address, and sends its
request in the first message.  The holder puts the message together from fragments, derives its
keys from it, and decrypts the request.  After that both sides have the same transcript, byte for
byte, and in both directions the same key and the same number of messages.
-/

namespace Presentment

variable {suite : CipherSuite}

/-! ### The reader's side -/

/-- A key that is not used up encrypts short texts. -/
theorem SessionKey.exists_encrypt (available : suite.IsAvailable) {k : SessionKey} {text : Bytes}
    (left : k.counter < SessionKey.maxCounter) (short : text.length ≤ Gcm.maxText) :
  ∃ ciphertext k', k.encrypt suite text = (.ok ciphertext, k')
  := by
  have next : k.next = .ok (SessionKey.nonce k.party (k.counter + 1),
      { k with counter := k.counter + 1 }) := if_pos left
  have encrypted : (suite.encrypt? k.key (SessionKey.nonce k.party (k.counter + 1)) text).isSome :=
    available.isSome_encrypt short
  obtain ⟨ciphertext, encrypt_eq⟩ := Option.isSome_iff_exists.mp encrypted
  use ciphertext, { k with counter := k.counter + 1 }
  rw [SessionKey.encrypt, next]
  dsimp only
  rw [encrypt_eq]

/-- Encrypting does not change the key itself. -/
theorem SessionKey.key_of_encrypt {k k' : SessionKey} {text ciphertext : Bytes}
    (h : k.encrypt suite text = (.ok ciphertext, k')) :
  k'.key = k.key
  := by
  obtain ⟨nonce, next_eq, -⟩ := SessionKey.encrypt_eq_ok h
  rw [SessionKey.next] at next_eq
  split at next_eq
  · cases next_eq
    rfl
  · cases next_eq

namespace ReaderSession

/-- The reader can use the engagement of a holder. -/
theorem exists_of (sound : suite.IsSound) (available : suite.IsAvailable) {e : Engagement}
    (genuine : e.IsGenuine suite) (privateKey : PrivateKey) :
  ∃ r, ReaderSession.of suite privateKey e.deviceEngagement = .ok r
  := by
  have length := Cose.Key.length_encode_le (sound.isWide_publicKey privateKey)
  obtain ⟨readerKey, hkey⟩ := Embedded.exists_ofContent
    (Cose.Key.survives (suite.publicKey privateKey)) (Nat.lt_of_le_of_lt length (by decide))
  have usable : suite.isUsable e.deviceEngagement.content.security.key.content := by
    rw [genuine]
    exact available.isUsable_publicKey e.secret
  rcases hr : ReaderSession.of suite privateKey e.deviceEngagement with cause | r
  · rw [ReaderSession.of, hkey] at hr
    dsimp only [Except.mapError, bind, Except.bind] at hr
    rw [usable] at hr
    cases hr
  · exact ⟨r, rfl⟩

/-- A reader that has not sent anything can send a short request. -/
theorem exists_establishment (sound : suite.IsSound) (available : suite.IsAvailable)
    {privateKey : PrivateKey} {engagement : Embedded DeviceEngagement} {r₀ : ReaderSession}
    {request : Bytes} (hr : ReaderSession.of suite privateKey engagement = .ok r₀)
    (short : request.length ≤ Gcm.maxText) :
  ∃ message r, r₀.establishment suite request = (.ok message, r)
  := by
  obtain ⟨readerKey, -, -, -, keys⟩ := ReaderSession.of_eq_ok sound hr
  have left : r₀.readerSide.counter < SessionKey.maxCounter := by
    rw [(keys _ rfl).1]
    exact (by decide : 0 < SessionKey.maxCounter)
  obtain ⟨data, k, encrypt_eq⟩ := SessionKey.exists_encrypt available left short
  use Cbor.encode (⟨some r₀.transcript.readerKey, data⟩ : SessionEstablishment)
  use { r₀ with readerSide := k }
  rw [establishment, encrypt, encrypt_eq]
  rfl

/-- What comes of the first message. -/
theorem establish_eq_ok {supply : Supply} {engagement : Embedded DeviceEngagement}
    {request message : Bytes} {r : ReaderSession} :
  (establish suite supply engagement request).1 = .ok (message, r)
    ↔ ∃ r₀, ReaderSession.of suite supply.drawKey.1 engagement = .ok r₀
      ∧ r₀.establishment suite request = (.ok message, r)
  := by
  change (ReaderSession.of suite supply.drawKey.1 engagement >>= _) = _ ↔ _
  rw [Except.bind_eq_ok_iff]
  apply exists_congr
  intro r₀
  apply and_congr_right
  intro _
  rcases r₀.establishment suite request with ⟨outcome, r₁⟩
  cases outcome with
  | error e => simp [bind, Except.bind]
  | ok message => simp [bind, Except.bind, pure, Except.pure]

/-- The address of the engagement is as good as the engagement. -/
theorem establishFromUri_uri (supply : Supply) (e : Engagement) (request : Bytes) :
  establishFromUri suite supply e.uri request = establish suite supply e.deviceEngagement request
  := by
  rw [establishFromUri, Engagement.uri, DeviceEngagement.ofUri_toUri]

end ReaderSession

/-! ### The holder's side -/

/-- The holder can use the key of the reader. -/
theorem Iso.exists_derive (available : suite.IsAvailable) (establishment : SessionEstablishment)
    {readerKey : Embedded Cose.Key} {d : PrivateKey} (e : Engagement)
    (key_eq : establishment.readerKey = some readerKey)
    (content_eq : readerKey.content = suite.publicKey d) :
  ∃ state, Iso.derive suite establishment e .qr = .ok state
  := by
  have usable : suite.isUsable readerKey.content := by
    rw [content_eq]
    exact available.isUsable_publicKey d
  rcases hstate : Iso.derive suite establishment e .qr with cause | state
  · rw [Iso.derive, key_eq] at hstate
    dsimp only at hstate
    rw [usable] at hstate
    cases hstate
  · exact ⟨state, rfl⟩

namespace Session

variable {η κ : Type}

/-- When its last fragment comes, a session has gathered what else the fragments carry. -/
theorem exists_gathered (setup : Setup η κ) {fragments : List Bytes} {data : Bytes}
    (carries : Fragment.Carries fragments data) {s : Session η κ} (h : s.status = .started) :
  ∃ before last payload gathered, fragments = before ++ [last]
    ∧ Fragment.parse last = .ok (.last, payload)
    ∧ gathered ++ payload = s.reassembly ++ data
    ∧ before.foldl (fun s fragment => (s.apply setup (.write .client2Server fragment)).2.2) s
      = { s with reassembly := gathered }
  := by
  induction carries generalizing s with
  | last payload =>
    exact ⟨[], _, payload, s.reassembly, rfl, Fragment.parse_byte .last payload, rfl, rfl⟩
  | more payload _ ih =>
    have applied := apply_more setup h (Fragment.parse_byte .more payload)
    have started : { s with reassembly := s.reassembly ++ payload }.status = .started := h
    obtain ⟨before, last, payload', gathered, rfl, parse_eq, whole, folded⟩ := ih started
    refine ⟨_ :: before, last, payload', gathered, rfl, parse_eq, ?_, ?_⟩
    · rw [whole, List.append_assoc]
    · rw [List.foldl_cons, applied, folded]

end Session

/-! ### Both sides -/

/-- What the holder of an engagement makes of `message`, the first one of a reader that sends
`request` in it and goes on as `r`. -/
structure IsHandshake (suite : CipherSuite) (e : Engagement) (request message : Bytes)
    (r : ReaderSession) : Prop where
  /-- However the message is cut, it is put together again. -/
  reassembles : ∀ block, Fragment.reassemble? (Fragment.frame message block) = .ok (some message)
  /-- The session of the holder gathers it up to the last fragment. -/
  gathers : ∀ {η κ : Type} (setup : Setup η κ) (s : Session η κ) (block : BlockSize),
    s.status = .started → s.reassembly = [] →
      ∃ before last payload gathered, Fragment.frame message block = before ++ [last]
        ∧ Fragment.parse last = .ok (.last, payload)
        ∧ gathered ++ payload = message
        ∧ before.foldl (fun s fragment => (s.apply setup (.write .client2Server fragment)).2.2) s
          = { s with reassembly := gathered }
  agrees : ∃ establishment state state', Cbor.decode message = .ok establishment
    ∧ Iso.derive suite establishment e .qr = .ok state
    ∧ taggedBytes state.transcript = taggedBytes r.transcript
    ∧ state.readerSide.key = r.readerSide.key
    ∧ state.deviceSide.key = r.deviceSide.key
    ∧ Iso.decrypt suite establishment.data state = (.ok request, state')
    ∧ state'.transcript = state.transcript
    ∧ state'.readerSide = r.readerSide
    ∧ state'.deviceSide = r.deviceSide

/-- The holder takes the first message of a reader apart, and goes on together with it. -/
theorem ReaderSession.exists_opened (sound : suite.IsSound) (available : suite.IsAvailable)
    {e : Engagement} (genuine : e.IsGenuine suite) {privateKey : PrivateKey}
    {r₀ r : ReaderSession} {request message : Bytes}
    (hr : ReaderSession.of suite privateKey e.deviceEngagement = .ok r₀)
    (h : r₀.establishment suite request = (.ok message, r)) :
  ∃ data state state',
    Cbor.decode message = .ok (⟨some r₀.transcript.readerKey, data⟩ : SessionEstablishment)
    ∧ Iso.derive suite ⟨some r₀.transcript.readerKey, data⟩ e .qr = .ok state
    ∧ Mirrors state r₀
    ∧ Iso.decrypt suite data state = (.ok request, state')
    ∧ Mirrors state' r
    ∧ r₀.readerSide.encrypt suite request = (.ok data, r.readerSide)
    ∧ r = { r₀ with readerSide := r.readerSide }
  := by
  obtain ⟨readerKey, content_eq, -, transcript_eq, -⟩ := ReaderSession.of_eq_ok sound hr
  obtain ⟨data, decode_eq, encrypt_eq, r_eq⟩ := decode_establishment sound hr h
  have key_content_eq : r₀.transcript.readerKey.content = suite.publicKey privateKey := by
    rw [transcript_eq]
    exact content_eq
  obtain ⟨state, derive_eq⟩ := Iso.exists_derive available
    ⟨some r₀.transcript.readerKey, data⟩ e rfl key_content_eq
  have mirrors := derive_mirrors sound genuine hr rfl derive_eq
  obtain ⟨state', decrypt_eq, mirrors'⟩ := mirrors.decrypt sound encrypt_eq r_eq
  exact ⟨data, state, state', decode_eq, derive_eq, mirrors, decrypt_eq, mirrors', encrypt_eq,
    r_eq⟩

theorem ReaderSession.isHandshake (sound : suite.IsSound) (available : suite.IsAvailable)
    {e : Engagement} (genuine : e.IsGenuine suite) {privateKey : PrivateKey}
    {r₀ r : ReaderSession} {request message : Bytes}
    (hr : ReaderSession.of suite privateKey e.deviceEngagement = .ok r₀)
    (h : r₀.establishment suite request = (.ok message, r)) :
  IsHandshake suite e request message r
  := by
  have nonempty := establishment_ne_nil h
  constructor
  case reassembles => exact Fragment.reassemble?_frame nonempty
  case gathers =>
    intro η κ setup s block status_eq reassembly_eq
    have gathered := Session.exists_gathered setup
      (Fragment.carries_frame message block nonempty) status_eq
    rw [reassembly_eq] at gathered
    exact gathered
  case agrees =>
    obtain ⟨data, state, state', decode_eq, derive_eq, mirrors, decrypt_eq, mirrors', encrypt_eq,
      r_eq⟩ := exists_opened sound available genuine hr h
    have same : r.transcript = r₀.transcript ∧ r.deviceSide = r₀.deviceSide := by
      rw [r_eq]
      exact ⟨rfl, rfl⟩
    refine ⟨_, state, state', decode_eq, derive_eq, ?_, ?_, ?_, decrypt_eq, ?_,
      mirrors'.readerSide_eq, mirrors'.deviceSide_eq⟩
    · rw [mirrors.transcript_eq, same.1]
    · rw [mirrors.readerSide_eq, SessionKey.key_of_encrypt encrypt_eq]
    · rw [mirrors.deviceSide_eq, same.2]
    · rw [mirrors'.transcript_eq, same.1, mirrors.transcript_eq]

/-- A holder and a reader that has scanned its engagement. -/
def ReaderSession.meeting? (suite : CipherSuite) (secret privateKey : PrivateKey)
    (service : Uuid) : Option (Engagement × ReaderSession) := do
  let e ← (Engagement.of suite secret service).toOption
  let r ← (ReaderSession.of suite privateKey e.deviceEngagement).toOption
  return (e, r)

theorem ReaderSession.of_meeting? {secret privateKey : PrivateKey} {service : Uuid}
    {e : Engagement} {r : ReaderSession}
    (h : ReaderSession.meeting? suite secret privateKey service = some (e, r)) :
  Engagement.of suite secret service = .ok e
    ∧ ReaderSession.of suite privateKey e.deviceEngagement = .ok r
  := by
  obtain ⟨e', he, h⟩ := Option.bind_eq_some_iff.mp h
  obtain ⟨r', hr, h⟩ := Option.bind_eq_some_iff.mp h
  cases h
  exact ⟨Except.toOption_eq_some_iff.mp he, Except.toOption_eq_some_iff.mp hr⟩

/-- Both sides of a session agree: for every engagement that a holder makes and every key that a
reader draws, however the reader comes by the engagement. -/
theorem establish_isHandshake (sound : suite.IsSound) (available : suite.IsAvailable)
    (secret : PrivateKey) (service : Uuid) :
  ∃ e, Engagement.of suite secret service = .ok e
    ∧ ∀ supply request,
      ReaderSession.establishFromUri suite supply e.uri request
          = ReaderSession.establish suite supply e.deviceEngagement request
        ∧ (request.length ≤ Gcm.maxText → ∃ message r,
          (ReaderSession.establish suite supply e.deviceEngagement request).1 = .ok (message, r))
        ∧ ∀ message r,
          (ReaderSession.establish suite supply e.deviceEngagement request).1 = .ok (message, r) →
            IsHandshake suite e request message r
  := by
  obtain ⟨e, of_eq⟩ := Engagement.exists_of sound.isWide_publicKey secret service
  have genuine := Engagement.isGenuine_of_of sound of_eq
  refine ⟨e, of_eq, fun supply request =>
    ⟨ReaderSession.establishFromUri_uri supply e request, ?_, ?_⟩⟩
  · intro short
    obtain ⟨r₀, hr⟩ := ReaderSession.exists_of sound available genuine supply.drawKey.1
    obtain ⟨message, r, h⟩ := ReaderSession.exists_establishment sound available hr short
    exact ⟨message, r, ReaderSession.establish_eq_ok.mpr ⟨r₀, hr, h⟩⟩
  · intro message r h
    obtain ⟨r₀, hr, h⟩ := ReaderSession.establish_eq_ok.mp h
    exact ReaderSession.isHandshake sound available genuine hr h

/-- The suite that hides nothing is enough for a handshake. -/
theorem establish_isHandshake_transparent :
  ∃ e message r, Engagement.of .transparent default (.ofNat 1) = .ok e
    ∧ (ReaderSession.establishFromUri .transparent ⟨fun _ => default, fun _ => .ofNat 2, 0, 0⟩ e.uri
        [0x01, 0x02, 0x03]).1 = .ok (message, r)
    ∧ IsHandshake .transparent e [0x01, 0x02, 0x03] message r
  := by
  obtain ⟨e, of_eq, agree⟩ := establish_isHandshake CipherSuite.isSound_transparent
    CipherSuite.isAvailable_transparent default (.ofNat 1)
  obtain ⟨address, succeeds, handshake⟩ := agree ⟨fun _ => default, fun _ => .ofNat 2, 0, 0⟩
    [0x01, 0x02, 0x03]
  obtain ⟨message, r, h⟩ := succeeds (by decide)
  rw [← address] at h
  exact ⟨e, message, r, of_eq, h, handshake message r (by rw [← address]; exact h)⟩

end Presentment
