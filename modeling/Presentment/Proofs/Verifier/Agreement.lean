import Presentment.Proofs.Crypto.Suite
import Presentment.Proofs.Message.Engagement
import Presentment.Proofs.Message.Response
import Presentment.Proofs.Message.Session
import Presentment.Proofs.Verifier.Request
import Presentment.Transfer.Exchange

/-!
# Agreement

The reader derives its keys from the engagement of the holder, and the holder derives its own
from the first message of the reader.  They come out the same, and as both count the messages
of each direction, what one side encrypts next the other side decrypts next.
-/

namespace Presentment

variable {suite : CipherSuite}

/-! ### Keys -/

namespace SessionKey

variable {k k' : SessionKey} {text ciphertext : Bytes}

theorem encrypt_eq_ok (h : k.encrypt suite text = (.ok ciphertext, k')) :
  ∃ nonce, k.next = .ok (nonce, k') ∧ suite.encrypt? k'.key nonce text = some ciphertext
  := by
  rw [encrypt] at h
  rcases hnext : k.next with e | ⟨nonce, next⟩
  · rw [hnext] at h
    cases h
  · rw [hnext] at h
    dsimp only at h
    cases hencrypt : suite.encrypt? next.key nonce text with
    | none =>
      rw [hencrypt] at h
      cases h
    | some ciphertext' =>
      rw [hencrypt] at h
      cases h
      exact ⟨nonce, rfl, hencrypt⟩

/-- The other side counts messages in the same way, and so it gets the text back. -/
theorem decrypt_of_encrypt (sound : suite.IsSound)
    (h : k.encrypt suite text = (.ok ciphertext, k')) :
  k.decrypt suite ciphertext = (.ok text, k')
  := by
  obtain ⟨nonce, hnext, hencrypt⟩ := encrypt_eq_ok h
  rw [decrypt, hnext]
  dsimp only
  rw [sound.decrypt_encrypt hencrypt]

theorem length_of_encrypt (sound : suite.IsSound)
    (h : k.encrypt suite text = (.ok ciphertext, k')) :
  text.length ≤ Gcm.maxText ∧ ciphertext.length ≤ Gcm.maxText + Gcm.blockSize
  := by
  obtain ⟨nonce, -, hencrypt⟩ := encrypt_eq_ok h
  have text := sound.length_text hencrypt
  exact ⟨text, Nat.le_trans (sound.length_ciphertext hencrypt) (Nat.add_le_add_right text _)⟩

end SessionKey

/-- An embedded public key is the key itself, in a few bytes. -/
theorem content_of_publicKey (sound : suite.IsSound) {d : PrivateKey} {key : Embedded Cose.Key}
    (h : Embedded.ofContent (suite.publicKey d) = .ok key) :
  key.content = suite.publicKey d ∧ key.bytes.length ≤ 100
  := by
  have length := Cose.Key.length_encode_le (sound.isWide_publicKey d)
  constructor
  · exact Embedded.content_of_ofContent h (Cose.Key.survives _)
      (Nat.lt_of_le_of_lt length (by decide))
  · rw [Embedded.bytes_of_ofBytes h]
    exact length

/-! ### The engagement -/

/-- The key of the engagement is the one that the holder has the secret of. -/
def Engagement.IsGenuine (suite : CipherSuite) (e : Engagement) : Prop :=
  e.deviceEngagement.content.security.key.content = suite.publicKey e.secret

theorem Engagement.isGenuine_of_of (sound : suite.IsSound) {secret : PrivateKey} {service : Uuid}
    {e : Engagement} (h : Engagement.of suite secret service = .ok e) :
  e.IsGenuine suite
  := by
  obtain ⟨key, hkey, h⟩ := Except.bind_eq_ok_iff.mp h
  obtain ⟨deviceEngagement, hengagement, h⟩ := Except.bind_eq_ok_iff.mp h
  cases h
  obtain ⟨content_eq, short⟩ := content_of_publicKey sound (Except.mapError_eq_ok_iff.mp hkey)
  have length := DeviceEngagement.length_encode_peripheral_le key service
  have same : deviceEngagement.content = .peripheral key service := by
    apply Embedded.content_of_ofContent (Except.mapError_eq_ok_iff.mp hengagement)
    · exact DeviceEngagement.survives _
    · rw [Cbor.headCapacity]
      omega
  rw [Engagement.IsGenuine, same]
  exact content_eq

/-- An engagement can always be made. -/
theorem Engagement.exists_of (wide : ∀ d, (suite.publicKey d).IsWide) (secret : PrivateKey)
    (service : Uuid) :
  ∃ e, Engagement.of suite secret service = .ok e
  := by
  have length := Cose.Key.length_encode_le (wide secret)
  obtain ⟨key, hkey⟩ := Embedded.exists_ofContent (Cose.Key.survives (suite.publicKey secret))
    (Nat.lt_of_le_of_lt length (by decide))
  have short : key.bytes.length ≤ 100 := by
    rw [Embedded.bytes_of_ofBytes hkey]
    exact length
  have length' := DeviceEngagement.length_encode_peripheral_le key service
  obtain ⟨deviceEngagement, hengagement⟩ := Embedded.exists_ofContent
    (DeviceEngagement.survives (DeviceEngagement.peripheral key service))
    (by rw [Cbor.headCapacity]; omega)
  use ⟨secret, deviceEngagement, service⟩
  rw [Engagement.of, hkey]
  change ((Embedded.ofContent (DeviceEngagement.peripheral key service)).mapError _ >>= _) = _
  rw [hengagement]
  rfl

namespace ReaderSession

theorem of_eq_ok (sound : suite.IsSound) {privateKey : PrivateKey}
    {engagement : Embedded DeviceEngagement} {r : ReaderSession}
    (h : ReaderSession.of suite privateKey engagement = .ok r) :
  ∃ readerKey : Embedded Cose.Key, readerKey.content = suite.publicKey privateKey
    ∧ readerKey.bytes.length ≤ 100
    ∧ r.transcript = ⟨engagement, readerKey, .qr⟩
    ∧ ∀ secret, secret = suite.agree privateKey engagement.content.security.key.content →
      r.readerSide = .derive suite secret r.transcript .reader
        ∧ r.deviceSide = .derive suite secret r.transcript .device
  := by
  obtain ⟨readerKey, hkey, h⟩ := Except.bind_eq_ok_iff.mp h
  obtain ⟨content_eq, short⟩ := content_of_publicKey sound (Except.mapError_eq_ok_iff.mp hkey)
  dsimp only at h
  split at h
  · cases h
  · cases h
    use readerKey, content_eq, short, rfl
    rintro _ rfl
    exact ⟨rfl, rfl⟩

end ReaderSession

/-! ### Both sides -/

/-- The session encryption of the holder and the session of the reader go together. -/
structure Mirrors (state : Iso.Encryption) (r : ReaderSession) : Prop where
  transcript_eq : state.transcript = r.transcript
  readerKey_eq : state.readerKey = r.transcript.readerKey.content
  readerSide_eq : state.readerSide = r.readerSide
  deviceSide_eq : state.deviceSide = r.deviceSide

/-- Both sides derive the same keys. -/
theorem derive_mirrors (sound : suite.IsSound) {privateKey : PrivateKey} {e : Engagement}
    {r : ReaderSession} {establishment : SessionEstablishment} {state : Iso.Encryption}
    (genuine : e.IsGenuine suite)
    (hr : ReaderSession.of suite privateKey e.deviceEngagement = .ok r)
    (key_eq : establishment.readerKey = some r.transcript.readerKey)
    (h : Iso.derive suite establishment e .qr = .ok state) :
  Mirrors state r
  := by
  obtain ⟨readerKey, content_eq, -, transcript_eq, keys⟩ := ReaderSession.of_eq_ok sound hr
  have secret_eq : suite.agree e.secret readerKey.content
      = suite.agree privateKey e.deviceEngagement.content.security.key.content := by
    rw [genuine, content_eq, sound.agree_comm]
  obtain ⟨readerSide_eq, deviceSide_eq⟩ := keys _ secret_eq
  rw [transcript_eq] at key_eq
  rw [Iso.derive, key_eq] at h
  dsimp only at h
  split at h
  · cases h
  · cases h
    constructor
    case transcript_eq => exact transcript_eq.symm
    case readerKey_eq => rw [transcript_eq]
    case readerSide_eq => rw [readerSide_eq, transcript_eq]
    case deviceSide_eq => rw [deviceSide_eq, transcript_eq]

/-! ### The first message -/

theorem ReaderSession.establishment_eq_ok {r r' : ReaderSession} {request message : Bytes}
    (h : r.establishment suite request = (.ok message, r')) :
  ∃ data, message = Cbor.encode (⟨some r.transcript.readerKey, data⟩ : SessionEstablishment)
    ∧ r.readerSide.encrypt suite request = (.ok data, r'.readerSide)
    ∧ r' = { r with readerSide := r'.readerSide }
  := by
  rcases hencrypt : r.readerSide.encrypt suite request with ⟨outcome, key⟩
  simp only [establishment, encrypt, hencrypt] at h
  cases outcome with
  | error e => cases h
  | ok data =>
    cases h
    exact ⟨data, rfl, rfl, rfl⟩

theorem ReaderSession.establishment_ne_nil {r r' : ReaderSession} {request message : Bytes}
    (h : r.establishment suite request = (.ok message, r')) :
  message ≠ []
  := by
  obtain ⟨_, rfl, -⟩ := ReaderSession.establishment_eq_ok h
  apply Cbor.Value.encode_ne_nil

theorem SessionEstablishment.length_encode_le (key : Embedded Cose.Key) (data : Bytes) :
  (Cbor.encode (⟨some key, data⟩ : SessionEstablishment)).length
    ≤ key.bytes.length + data.length + 100
  := by
  have keyItem := (Cbor.Value.length_encode_tag 24 (.bytes key.bytes)).2
  have keyBytes := (Cbor.Value.length_encode_bytes key.bytes).2
  have dataBytes := (Cbor.Value.length_encode_bytes data).2
  have names : (Cbor.Value.text "eReaderKey").encode.length = 11
    ∧ (Cbor.Value.text "data").encode.length = 5 := ⟨rfl, rfl⟩
  have whole := Cbor.Value.length_encode_map_le [(.text "eReaderKey", .tag 24 (.bytes key.bytes)),
    (.text "data", .bytes data)]
  simp only [List.map_cons, List.map_nil, List.sum_cons, List.sum_nil] at whole
  apply Nat.le_trans whole
  omega

/-- The holder reads the first message as the reader wrote it. -/
theorem decode_establishment (sound : suite.IsSound) {privateKey : PrivateKey}
    {engagement : Embedded DeviceEngagement} {r r' : ReaderSession} {request message : Bytes}
    (hr : ReaderSession.of suite privateKey engagement = .ok r)
    (h : r.establishment suite request = (.ok message, r')) :
  ∃ data, Cbor.decode message
      = .ok (⟨some r.transcript.readerKey, data⟩ : SessionEstablishment)
    ∧ r.readerSide.encrypt suite request = (.ok data, r'.readerSide)
    ∧ r' = { r with readerSide := r'.readerSide }
  := by
  obtain ⟨readerKey, -, short, transcript_eq, -⟩ := ReaderSession.of_eq_ok sound hr
  obtain ⟨data, rfl, hencrypt, r'_eq⟩ := ReaderSession.establishment_eq_ok h
  refine ⟨data, ?_, hencrypt, r'_eq⟩
  apply (SessionEstablishment.survives _).decode_encode
  have data_short := (SessionKey.length_of_encrypt sound hencrypt).2
  have length := SessionEstablishment.length_encode_le r.transcript.readerKey data
  rw [transcript_eq] at length ⊢
  dsimp only at length ⊢
  rw [Gcm.maxText, Gcm.blockSize] at data_short
  rw [Cbor.headCapacity]
  omega

/-- The holder decrypts the next message of the reader. -/
theorem Mirrors.decrypt (sound : suite.IsSound) {state : Iso.Encryption} {r r' : ReaderSession}
    {text data : Bytes} (h : Mirrors state r)
    (encrypt_eq : r.readerSide.encrypt suite text = (.ok data, r'.readerSide))
    (r'_eq : r' = { r with readerSide := r'.readerSide }) :
  ∃ state', Iso.decrypt suite data state = (.ok text, state') ∧ Mirrors state' r'
  := by
  have decrypted := SessionKey.decrypt_of_encrypt sound encrypt_eq
  use { state with readerSide := r'.readerSide }
  constructor
  · rw [Iso.decrypt, h.readerSide_eq, decrypted]
    rfl
  · rw [r'_eq]
    exact ⟨h.transcript_eq, h.readerKey_eq, rfl, h.deviceSide_eq⟩

/-- `message` is the first message of a reader to the holder of an engagement; the reader asks
for `requests` in it, and goes on as `r`. -/
def Opens (suite : CipherSuite) (engagement : Embedded DeviceEngagement)
    (requests : List ItemsRequest) (message : Bytes) (r : ReaderSession) : Prop :=
  ∃ privateKey r₀ key request, ReaderSession.of suite privateKey engagement = .ok r₀
    ∧ r₀.deviceRequest suite requests key = .ok request
    ∧ r₀.establishment suite request = (.ok message, r)

theorem Opens.message_ne_nil {engagement : Embedded DeviceEngagement}
    {requests : List ItemsRequest} {message : Bytes} {r : ReaderSession}
    (h : Opens suite engagement requests message r) :
  message ≠ []
  := by
  obtain ⟨privateKey, r₀, key, request, -, -, hmessage⟩ := h
  exact ReaderSession.establishment_ne_nil hmessage

/-- A holder that reads the first message finds what the reader asks for. -/
theorem Opens.read (sound : suite.IsSound) {e engagement : Engagement}
    {requests : List ItemsRequest} {message text : Bytes} {r : ReaderSession}
    {establishment : SessionEstablishment} {state state' : Iso.Encryption} {request : DeviceRequest}
    (h : Opens suite e.deviceEngagement requests message r) (genuine : e.IsGenuine suite)
    (readable : ∀ request ∈ requests, request.IsReadable 253)
    (read_eq : Session.readEstablishment message (some e) = .ok (establishment, engagement))
    (derive_eq : Iso.derive suite establishment engagement .qr = .ok state)
    (decrypt_eq : Iso.decrypt suite establishment.data state = (.ok text, state'))
    (decode_eq : Cbor.decode text = .ok request) :
  request.itemsRequests = requests ∧ Mirrors state' r
  := by
  obtain ⟨privateKey, r₀, key, bytes, hr, hrequest, hmessage⟩ := h
  obtain ⟨data, hdecode, hencrypt, r_eq⟩ := decode_establishment sound hr hmessage
  rw [Session.readEstablishment, hdecode] at read_eq
  cases read_eq
  have mirrors := derive_mirrors sound genuine hr rfl derive_eq
  obtain ⟨state₁, hdecrypt, mirrors'⟩ := mirrors.decrypt sound hencrypt r_eq
  rw [hdecrypt] at decrypt_eq
  cases decrypt_eq
  have short : text.length < Cbor.headCapacity := by
    have length := (SessionKey.length_of_encrypt sound hencrypt).1
    rw [Gcm.maxText] at length
    rw [Cbor.headCapacity]
    omega
  obtain ⟨request', hrequest', items_eq⟩ :=
    ReaderSession.decode_deviceRequest hrequest readable short
  rw [hrequest'] at decode_eq
  cases decode_eq
  exact ⟨items_eq, mirrors'⟩

/-! ### The response -/

theorem length_encode_responseMessage_le (data : Bytes) :
  (Session.responseMessage data).length ≤ data.length + 100
  := by
  have dataBytes := (Cbor.Value.length_encode_bytes data).2
  have small : (Cbor.Value.text "data").encode.length = 5
    ∧ (Cbor.Value.text "status").encode.length = 7
    ∧ (Cbor.Value.int 20).encode.length = 1 := ⟨rfl, rfl, rfl⟩
  have whole := Cbor.Value.length_encode_map_le [(.text "data", .bytes data),
    (.text "status", .int 20)]
  simp only [List.map_cons, List.map_nil, List.sum_cons, List.sum_nil] at whole
  apply Nat.le_trans whole
  omega

/-- The reader reads the response of the holder as it was written. -/
theorem Mirrors.handleResponse (sound : suite.IsSound) {state state' : Iso.Encryption}
    {r : ReaderSession} {response : DeviceResponse} {data : Bytes} (h : Mirrors state r)
    (readable : response.IsReadable 249)
    (encrypt_eq : Iso.encrypt suite (Cbor.encode response) state = (.ok data, state')) :
  ∃ r', r.handleResponse suite (Session.responseMessage data) = (.ok response, r')
  := by
  rcases hkey : state.deviceSide.encrypt suite (Cbor.encode response) with ⟨outcome, key⟩
  rw [Iso.encrypt, hkey] at encrypt_eq
  cases outcome with
  | error e => cases encrypt_eq
  | ok ciphertext =>
    cases encrypt_eq
    have decrypted := SessionKey.decrypt_of_encrypt sound hkey
    obtain ⟨text_short, data_short⟩ := SessionKey.length_of_encrypt sound hkey
    have length := length_encode_responseMessage_le data
    rw [Gcm.maxText] at text_short data_short
    rw [Gcm.blockSize] at data_short
    have message : Cbor.decode (Session.responseMessage data)
        = .ok (⟨some data, some .termination⟩ : SessionData) := by
      apply (SessionData.survives _).decode_encode
      change (Session.responseMessage data).length < _
      rw [Cbor.headCapacity]
      omega
    have decoded : Cbor.decode (Cbor.encode response) = .ok response := by
      apply (DeviceResponse.survives readable).decode_encode
      rw [Cbor.headCapacity]
      omega
    use { r with deviceSide := key }
    rw [ReaderSession.handleResponse, message]
    dsimp only
    rw [ReaderSession.decrypt, ← h.deviceSide_eq, decrypted]
    change ((Cbor.decode (Cbor.encode response)).mapError _, _) = _
    rw [decoded]
    rfl

end Presentment
