import Presentment.Proofs.Crypto.Suite
import Presentment.Proofs.Security.SessionKey

/-!
# Messages in line

If nothing decrypts but what was encrypted with the same key and nonce, a receiver decrypts a
message only if it is the one that the sender made with the same number.  A message that was
repeated, reordered, made up or sent in the other direction fails, and takes a number all the
same.
-/

namespace Presentment

/-- A text with what it was encrypted with and what came out. -/
structure Sealed where
  key : Bytes
  nonce : Bytes
  text : Bytes
  ciphertext : Bytes

/-- Just what was made is decrypted, with the key and the nonce that it was made with. -/
def CipherSuite.IsIdeal (suite : CipherSuite) (made : List Sealed) : Prop :=
  ∀ key nonce text ciphertext,
    suite.decrypt? key nonce ciphertext = some text ↔ ⟨key, nonce, text, ciphertext⟩ ∈ made

namespace SessionKey

variable {suite : CipherSuite}

/-- What a call makes under a nonce. -/
def Call.seal? (suite : CipherSuite) (key nonce : Bytes) : Call → Option Sealed
  | .encrypt text => (suite.encrypt? key nonce text).map (⟨key, nonce, text, ·⟩)
  | .decrypt _ => none

/-- What calls make, in order. -/
def made (suite : CipherSuite) : List Call → SessionKey → List Sealed
  | [], _ => []
  | call :: calls, k =>
    (k.next.toOption.bind (fun next => call.seal? suite k.key next.1)).toList
      ++ made suite calls (call.run suite k).2

/-- What is made with several session keys. -/
def madeWith (suite : CipherSuite) (keys : List (SessionKey × List Call)) : List Sealed :=
  keys.flatMap (fun k => made suite k.2 k.1)

/-- What calls come to, in order. -/
def outcomes (suite : CipherSuite) : List Call → SessionKey → List (Except SessionError Bytes)
  | [], _ => []
  | call :: calls, k => (call.run suite k).1 :: outcomes suite calls (call.run suite k).2

/-- Input `j` of a receiver is what the sender made of its text `j`. -/
def IsInLine (suite : CipherSuite) (sender : SessionKey) (texts : List Bytes) (j : Nat)
    (input text : Bytes) : Prop :=
  texts[j]? = some text ∧ (outcomes suite (texts.map .encrypt) sender)[j]? = some (.ok input)

/-- A receiver decrypts just the inputs that are in line. -/
structure DecryptsInLine (suite : CipherSuite) (sender receiver : SessionKey)
    (texts inputs : List Bytes) : Prop where
  ok_iff : ∀ j < maxCounter, ∀ input ∈ inputs[j]?, ∀ text,
    (outcomes suite (inputs.map .decrypt) receiver)[j]? = some (.ok text)
      ↔ IsInLine suite sender texts j input text
  error_iff : ∀ j < maxCounter, ∀ input ∈ inputs[j]?,
    (outcomes suite (inputs.map .decrypt) receiver)[j]? = some (.error .decryption)
      ↔ ∀ text, ¬ IsInLine suite sender texts j input text
  /-- When the numbers are used up, nothing is decrypted. -/
  exhausted : ∀ j, maxCounter ≤ j → j < inputs.length →
    (outcomes suite (inputs.map .decrypt) receiver)[j]? = some (.error .counterExhausted)
  /-- Every input takes a number, whether it is decrypted or not. -/
  counter_eq : ∀ j ≤ inputs.length,
    (after suite ((inputs.take j).map .decrypt) receiver).counter = min j maxCounter

/-! ### Calls by number -/

theorem getElem?_outcomes (calls : List Call) (k : SessionKey) (j : Nat) :
  (outcomes suite calls k)[j]?
    = calls[j]?.map (fun call =>
        if k.counter + j < maxCounter then
          call.outcome suite k.key (nonce k.party (k.counter + j + 1))
        else .error .counterExhausted)
  := by
  induction calls generalizing k j with
  | nil => rfl
  | cons call calls ih =>
    rw [outcomes]
    rcases Nat.lt_or_ge k.counter maxCounter with left | exhausted
    · rw [call.run_of_lt suite left]
      cases j with
      | zero => simp [left]
      | succ j =>
        rw [List.getElem?_cons_succ, List.getElem?_cons_succ, ih]
        simp only [Nat.add_assoc, Nat.add_comm 1]
    · rw [call.run_of_le suite exhausted]
      cases j with
      | zero => simp [Nat.not_lt.mpr exhausted]
      | succ j =>
        have beyond : ¬ k.counter + j < maxCounter := by omega
        have beyond' : ¬ k.counter + (j + 1) < maxCounter := by omega
        rw [List.getElem?_cons_succ, List.getElem?_cons_succ, ih]
        simp only [beyond, beyond', if_false]

theorem mem_made_iff {calls : List Call} {k : SessionKey} {s : Sealed} :
  s ∈ made suite calls k
    ↔ ∃ j, k.counter + j < maxCounter ∧ ∃ call ∈ calls[j]?,
      call.seal? suite k.key (nonce k.party (k.counter + j + 1)) = some s
  := by
  induction calls generalizing k with
  | nil => simp [made]
  | cons call calls ih =>
    rw [made, List.mem_append, ih]
    rcases Nat.lt_or_ge k.counter maxCounter with left | exhausted
    · rw [next_of_lt left, call.run_of_lt suite left]
      have shift (j : Nat) : k.counter + 1 + j = k.counter + (j + 1) := by omega
      simp only [Except.toOption, Option.bind_some, Option.mem_toList, shift]
      constructor
      · rintro (first | ⟨j, bounded, later⟩)
        · exact ⟨0, left, call, rfl, first⟩
        · exact ⟨j + 1, bounded, later⟩
      · rintro ⟨_ | j, bounded, other, hother, sealed_eq⟩
        · cases hother
          exact .inl sealed_eq
        · exact .inr ⟨j, bounded, other, hother, sealed_eq⟩
    · rw [next_of_le exhausted, call.run_of_le suite exhausted]
      constructor
      · rintro (nothing | ⟨j, bounded, -⟩)
        · cases nothing
        · exact absurd bounded (Nat.not_lt.mpr (Nat.le_trans exhausted (Nat.le_add_right _ j)))
      · rintro ⟨j, bounded, -⟩
        exact absurd bounded (Nat.not_lt.mpr (Nat.le_trans exhausted (Nat.le_add_right _ j)))

/-! ### What decrypts -/

theorem party_eq_of_nonce_eq {party party' : Party} {m n : Nat}
    (h : nonce party m = nonce party' n) :
  party = party'
  := by
  have length_identifier (party : Party) : party.identifier.length = 8 := by
    cases party with
    | reader => rfl
    | device => rfl
  have identifier_eq : party.identifier = party'.identifier :=
    List.append_inj_left h ((length_identifier party).trans (length_identifier party').symm)
  cases party with
  | reader => cases party' with
    | reader => rfl
    | device => cases identifier_eq
  | device => cases party' with
    | reader => cases identifier_eq
    | device => rfl

theorem Call.seal?_eq_some_iff {call : Call} {key nonce : Bytes} {s : Sealed} :
  call.seal? suite key nonce = some s
    ↔ call = .encrypt s.text ∧ s.key = key ∧ s.nonce = nonce
      ∧ suite.encrypt? key nonce s.text = some s.ciphertext
  := by
  cases call with
  | decrypt ciphertext =>
    constructor
    · rintro ⟨⟩
    · rintro ⟨⟨⟩, -⟩
  | encrypt text =>
    rw [seal?, Option.map_eq_some_iff]
    constructor
    · rintro ⟨ciphertext, encrypted, rfl⟩
      exact ⟨rfl, rfl, rfl, encrypted⟩
    · rintro ⟨call_eq, rfl, rfl, encrypted⟩
      cases call_eq
      exact ⟨s.ciphertext, encrypted, rfl⟩

theorem Call.outcome_encrypt_eq_ok_iff {key nonce text ciphertext : Bytes} :
  outcome suite key nonce (.encrypt text) = .ok ciphertext
    ↔ suite.encrypt? key nonce text = some ciphertext
  := by
  rw [outcome]
  cases suite.encrypt? key nonce text with
  | none => simp
  | some made => simp

theorem Call.outcome_decrypt_eq_ok_iff {key nonce text ciphertext : Bytes} :
  outcome suite key nonce (.decrypt ciphertext) = .ok text
    ↔ suite.decrypt? key nonce ciphertext = some text
  := by
  rw [outcome]
  cases suite.decrypt? key nonce ciphertext with
  | none => simp
  | some text' => simp

theorem Call.outcome_decrypt_eq_error_iff {key nonce ciphertext : Bytes} :
  outcome suite key nonce (.decrypt ciphertext) = .error .decryption
    ↔ suite.decrypt? key nonce ciphertext = none
  := by
  rw [outcome]
  cases suite.decrypt? key nonce ciphertext with
  | none => simp
  | some text => simp

theorem getElem?_outcomes_of_lt {k : SessionKey} (unused : k.counter = 0) {calls : List Call}
    {call : Call} {j : Nat} (left : j < maxCounter) (h : calls[j]? = some call) :
  (outcomes suite calls k)[j]? = some (call.outcome suite k.key (nonce k.party (j + 1)))
  := by
  rw [getElem?_outcomes, h, Option.map_some, unused, Nat.zero_add, if_pos left]

section

variable {sender : SessionKey} (unused : sender.counter = 0) {texts inputs : List Bytes}
  {others : List (SessionKey × List Call)}
  (ideal : suite.IsIdeal (madeWith suite ((sender, texts.map .encrypt) :: others)))
  (apart : ∀ other ∈ others, other.1.party ≠ sender.party ∨ other.1.key ≠ sender.key)
include unused ideal apart

/-- What decrypts with number `j` was made with number `j`. -/
theorem decrypt?_eq_some_iff {j : Nat} (left : j < maxCounter) {input text : Bytes} :
  suite.decrypt? sender.key (nonce sender.party (j + 1)) input = some text
    ↔ texts[j]? = some text
      ∧ suite.encrypt? sender.key (nonce sender.party (j + 1)) text = some input
  := by
  rw [ideal, madeWith, List.flatMap_cons, List.mem_append, mem_made_iff]
  simp only [unused, Nat.zero_add, List.getElem?_map, Option.mem_def, Option.map_eq_some_iff]
  constructor
  · rintro (⟨i, bounded, _, ⟨_, htext, rfl⟩, sealed_eq⟩ | foreign)
    · obtain ⟨call_eq, -, nonce_eq, encrypted⟩ := Call.seal?_eq_some_iff.mp sealed_eq
      cases call_eq
      -- the sender used this nonce for one text only
      cases nonce_injective left bounded nonce_eq
      exact ⟨htext, encrypted⟩
    · obtain ⟨other, hother, hmade⟩ := List.mem_flatMap.mp foreign
      obtain ⟨i, -, call, -, sealed_eq⟩ := mem_made_iff.mp hmade
      obtain ⟨-, key_eq, nonce_eq, -⟩ := Call.seal?_eq_some_iff.mp sealed_eq
      -- no other key was used with this nonce
      rcases apart other hother with party_ne | key_ne
      · exact absurd (party_eq_of_nonce_eq nonce_eq).symm party_ne
      · exact absurd key_eq.symm key_ne
  · rintro ⟨htext, encrypted⟩
    exact .inl ⟨j, left, .encrypt text, ⟨text, htext, rfl⟩,
      Call.seal?_eq_some_iff.mpr ⟨rfl, rfl, rfl, encrypted⟩⟩

theorem decrypt?_eq_some_iff_isInLine {j : Nat} (left : j < maxCounter) {input text : Bytes} :
  suite.decrypt? sender.key (nonce sender.party (j + 1)) input = some text
    ↔ IsInLine suite sender texts j input text
  := by
  rw [decrypt?_eq_some_iff unused ideal apart left, IsInLine]
  apply and_congr_right
  intro htext
  have hcall : (texts.map Call.encrypt)[j]? = some (.encrypt text) := by
    rw [List.getElem?_map, htext, Option.map_some]
  rw [getElem?_outcomes_of_lt unused left hcall, Option.some.injEq,
    Call.outcome_encrypt_eq_ok_iff]

end

/-- Of two session keys that are derived alike, one decrypts just what the other one made with the
same number, whatever other keys are used meanwhile. -/
theorem derive_decryptsInLine (suite : CipherSuite) (secret : Bytes)
    (transcript : SessionTranscript) (party : Party) (texts inputs : List Bytes)
    (others : List (SessionKey × List Call))
    (ideal : suite.IsIdeal
      (madeWith suite ((derive suite secret transcript party, texts.map .encrypt) :: others)))
    (apart : ∀ other ∈ others,
      other.1.party ≠ party ∨ other.1.key ≠ (derive suite secret transcript party).key) :
  DecryptsInLine suite (derive suite secret transcript party)
    (derive suite secret transcript party) texts inputs
  := by
  have unused : (derive suite secret transcript party).counter = 0 := rfl
  have numbered {j : Nat} (left : j < maxCounter) {input : Bytes}
      (hinput : inputs[j]? = some input) :
      (outcomes suite (inputs.map .decrypt) (derive suite secret transcript party))[j]?
        = some (Call.outcome suite (derive suite secret transcript party).key
          (nonce party (j + 1)) (.decrypt input)) := by
    apply getElem?_outcomes_of_lt unused left
    rw [List.getElem?_map, hinput, Option.map_some]
  constructor
  case ok_iff =>
    intro j left input hinput text
    rw [numbered left hinput, Option.some.injEq, Call.outcome_decrypt_eq_ok_iff]
    exact decrypt?_eq_some_iff_isInLine unused ideal apart left
  case error_iff =>
    intro j left input hinput
    rw [numbered left hinput, Option.some.injEq, Call.outcome_decrypt_eq_error_iff,
      Option.eq_none_iff_forall_ne_some]
    apply forall_congr'
    intro text
    exact not_congr (decrypt?_eq_some_iff_isInLine unused ideal apart left)
  case exhausted =>
    intro j exhausted hj
    rw [getElem?_outcomes, List.getElem?_map, List.getElem?_eq_getElem hj, unused, Nat.zero_add]
    simp [Nat.not_lt.mpr exhausted]
  case counter_eq =>
    intro j hj
    rw [after_eq suite _ (unused ▸ Nat.zero_le _), List.length_map, List.length_take_of_le hj,
      unused, Nat.zero_add]

end SessionKey

/-! ### A suite that remembers -/

namespace CipherSuite

/-- What is found in a log of ciphertexts for one of them. -/
def retrieve? (log : List Sealed) (key nonce ciphertext : Bytes) : Option Sealed :=
  log.find? (fun s => s.key == key && s.nonce == nonce && s.ciphertext == ciphertext)

/-- A suite that decrypts just what is in a log. -/
def remember (suite : CipherSuite) (log : List Sealed) : CipherSuite :=
  { suite with
    decrypt? := fun key nonce ciphertext => (retrieve? log key nonce ciphertext).map (·.text) }

theorem of_retrieve?_eq_some {log : List Sealed} {key nonce ciphertext : Bytes} {s : Sealed}
    (h : retrieve? log key nonce ciphertext = some s) :
  s ∈ log ∧ s = ⟨key, nonce, s.text, ciphertext⟩
  := by
  use List.mem_of_find?_eq_some h
  have same := List.find?_some h
  simp only [Bool.and_eq_true, beq_iff_eq] at same
  obtain ⟨⟨rfl, rfl⟩, rfl⟩ := same
  rfl

theorem isIdeal_remember {suite : CipherSuite} (sound : suite.IsSound) {log : List Sealed}
    (genuine : ∀ s ∈ log, suite.encrypt? s.key s.nonce s.text = some s.ciphertext) :
  (suite.remember log).IsIdeal log
  := by
  intro key nonce text ciphertext
  rw [remember]
  constructor
  · intro h
    obtain ⟨s, found, rfl⟩ := Option.map_eq_some_iff.mp h
    obtain ⟨hmem, s_eq⟩ := of_retrieve?_eq_some found
    rw [← s_eq]
    exact hmem
  · intro hmem
    have retrieved : (retrieve? log key nonce ciphertext).isSome := by
      rw [retrieve?, List.find?_isSome]
      exact ⟨_, hmem, by simp⟩
    obtain ⟨s, found⟩ := Option.isSome_iff_exists.mp retrieved
    obtain ⟨hs, s_eq⟩ := of_retrieve?_eq_some found
    have encrypted := genuine s hs
    rw [s_eq] at encrypted
    dsimp only
    rw [found, Option.map_some, ← sound.decrypt_encrypt encrypted,
      sound.decrypt_encrypt (genuine _ hmem)]

end CipherSuite

namespace SessionKey

variable {suite : CipherSuite}

theorem encrypt?_of_mem_madeWith {keys : List (SessionKey × List Call)} {s : Sealed}
    (h : s ∈ madeWith suite keys) :
  suite.encrypt? s.key s.nonce s.text = some s.ciphertext
  := by
  obtain ⟨⟨k, calls⟩, -, hmade⟩ := List.mem_flatMap.mp h
  obtain ⟨j, -, call, -, sealed_eq⟩ := mem_made_iff.mp hmade
  obtain ⟨-, key_eq, nonce_eq, encrypted⟩ := Call.seal?_eq_some_iff.mp sealed_eq
  rw [key_eq, nonce_eq, encrypted]

theorem made_remember (log : List Sealed) (calls : List Call) (k : SessionKey) :
  made (suite.remember log) calls k = made suite calls k
  := by
  induction calls generalizing k with
  | nil => rfl
  | cons call calls ih =>
    have next_eq : (call.run (suite.remember log) k).2 = (call.run suite k).2 := by
      rcases Nat.lt_or_ge k.counter maxCounter with left | exhausted
      · rw [call.run_of_lt _ left, call.run_of_lt _ left]
      · rw [call.run_of_le _ exhausted, call.run_of_le _ exhausted]
    rw [made, made, ih, next_eq]
    cases call with
    | encrypt text => rfl
    | decrypt ciphertext => rfl

/-- A sound suite becomes ideal, whatever it is used for. -/
theorem isIdeal_remember_madeWith (sound : suite.IsSound) (keys : List (SessionKey × List Call)) :
  (suite.remember (madeWith suite keys)).IsIdeal
    (madeWith (suite.remember (madeWith suite keys)) keys)
  := by
  have made_eq : madeWith (suite.remember (madeWith suite keys)) keys = madeWith suite keys := by
    simp only [madeWith, made_remember]
  rw [made_eq]
  apply CipherSuite.isIdeal_remember sound
  intro s
  exact encrypt?_of_mem_madeWith

/-! ### A reordered session -/

/-- A key as short as it can be. -/
def emptyKey : Embedded Cose.Key where
  bytes := Cbor.encode (⟨[], []⟩ : Cose.Key)
  content := ⟨[], []⟩
  decode_bytes := rfl

/-- The engagement for this key. -/
def leastEngagement : Embedded DeviceEngagement where
  bytes := Cbor.encode (DeviceEngagement.peripheral emptyKey (.ofNat 0))
  content := .peripheral emptyKey (.ofNat 0)
  decode_bytes := rfl

/-- A transcript in which nothing is told. -/
def leastTranscript : SessionTranscript := ⟨leastEngagement, emptyKey, .qr⟩

/-- What the device sends. -/
def sentTexts : List Bytes := [[1], [2], [3], [4]]

/-- The key of the device, with which it sends them. -/
def deviceUse : SessionKey × List Call :=
  (derive .transparent [] leastTranscript .device, sentTexts.map .encrypt)

/-- The key of the reader, with what it sends meanwhile. -/
def readerUse : SessionKey × List Call :=
  (derive .transparent [] leastTranscript .reader, [.encrypt [5]])

/-- A suite that is ideal for these messages. -/
def recordingSuite : CipherSuite :=
  .remember .transparent (madeWith .transparent [deviceUse, readerUse])

/-- The message that the transparent suite makes of a single byte. -/
def shortMessage (party : Party) (b : UInt8) : Bytes :=
  party.keyInfo ++ party.identifier ++ [b]

/-- What comes in: the second message is dropped, and after the third one, which comes twice, there
is the message of the reader. -/
def reorderedInputs : List Bytes :=
  [shortMessage .device 1, shortMessage .device 3, shortMessage .device 3, shortMessage .reader 5]

/-- A message that comes too early fails, and so does one of the other direction. -/
theorem derive_decryptsInLine_reordered :
  recordingSuite.IsIdeal (madeWith recordingSuite [deviceUse, readerUse])
    ∧ DecryptsInLine recordingSuite (derive recordingSuite [] leastTranscript .device)
      (derive recordingSuite [] leastTranscript .device) sentTexts reorderedInputs
    ∧ (outcomes recordingSuite (reorderedInputs.map .decrypt)
        (derive recordingSuite [] leastTranscript .device)).map (·.toOption)
      = [some [1], none, some [3], none]
  := by
  have ideal : recordingSuite.IsIdeal (madeWith recordingSuite [deviceUse, readerUse]) :=
    isIdeal_remember_madeWith CipherSuite.isSound_transparent [deviceUse, readerUse]
  refine ⟨ideal, ?_, by decide +kernel⟩
  apply derive_decryptsInLine recordingSuite [] leastTranscript .device sentTexts reorderedInputs
    [readerUse] ideal
  intro other hother
  rw [List.mem_singleton.mp hother]
  left
  decide

end SessionKey

end Presentment
