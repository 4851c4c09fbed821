import Presentment.Crypto.Suite
import Presentment.Message.Transcript

/-!
# Session keys

Each side of a session encrypts with a key of its own, derived from the shared secret and
the transcript.  Messages are counted, and the nonce of a message is the identifier of its
sender followed by its number, so no nonce is used twice; when the numbers are used up, no
further message is encrypted or decrypted.
-/

namespace Presentment

/-- Why session cryptography fails. -/
inductive SessionError where
  | unknownStatus (code : Nat)
  | keyDerivation
  | counterExhausted
  | encryption
  | decryption
  deriving DecidableEq, Repr

def SessionError.message : SessionError → String
  | .unknownStatus code => "unrecognised session status code: " ++ toString code
  | .keyDerivation => "key derivation produced an invalid length"
  | .counterExhausted => "message counter exhausted"
  | .encryption => "AES-GCM encryption failed"
  | .decryption => "AES-GCM decryption failed"

/-- Which side sent a message. -/
inductive Party where
  | reader
  | device
  deriving DecidableEq, Repr

/-- What the nonces of a party start with. -/
def Party.identifier : Party → Bytes
  | .reader => [0, 0, 0, 0, 0, 0, 0, 0]
  | .device => [0, 0, 0, 0, 0, 0, 0, 1]

/-- The purpose of the key of a party. -/
def Party.keyInfo : Party → Bytes
  | .reader => Bytes.ofText "SKReader"
  | .device => Bytes.ofText "SKDevice"

/-- The key of one direction, with the number of the last message. -/
structure SessionKey where
  key : Bytes
  party : Party
  counter : Nat

namespace SessionKey

/-- The highest number of a message. -/
def maxCounter : Nat := 0xFFFFFFFF

/-- The nonce of message `counter` of a party. -/
def nonce (party : Party) (counter : Nat) : Bytes :=
  party.identifier ++ Bytes.ofNat 4 counter

/-- Counts a message: its nonce, and the key after it. -/
def next (k : SessionKey) : Except SessionError (Bytes × SessionKey) :=
  if k.counter < maxCounter then
    .ok (nonce k.party (k.counter + 1), { k with counter := k.counter + 1 })
  else .error .counterExhausted

/-- Encrypts the next message of the party. -/
def encrypt (suite : CipherSuite) (text : Bytes) (k : SessionKey) :
    Except SessionError Bytes × SessionKey :=
  match k.next with
  | .error e => (.error e, k)
  | .ok (nonce, k) => match suite.encrypt? k.key nonce text with
    | some ciphertext => (.ok ciphertext, k)
    | none => (.error .encryption, k)

/-- Decrypts the next message of the party; a message that does not decrypt counts too. -/
def decrypt (suite : CipherSuite) (ciphertext : Bytes) (k : SessionKey) :
    Except SessionError Bytes × SessionKey :=
  match k.next with
  | .error e => (.error e, k)
  | .ok (nonce, k) => match suite.decrypt? k.key nonce ciphertext with
    | some text => (.ok text, k)
    | none => (.error .decryption, k)

/-- The bytes of a session key. -/
def length : Nat := 32

/-- The salt of the keys of a session. -/
def salt (suite : CipherSuite) (transcript : SessionTranscript) : Bytes :=
  suite.hash (taggedBytes transcript)

/-- The key of a party, before its first message. -/
def derive (suite : CipherSuite) (secret : Bytes) (transcript : SessionTranscript)
    (party : Party) : SessionKey :=
  ⟨suite.derive secret (salt suite transcript) party.keyInfo length, party, 0⟩

end SessionKey

/-- The key under which a device key and the key of a reader authenticate documents. -/
def macKey (suite : CipherSuite) (d : PrivateKey) (key : Cose.Key)
    (transcript : SessionTranscript) : Bytes :=
  suite.derive (suite.agree d key) (SessionKey.salt suite transcript) (Bytes.ofText "EMacKey")
    SessionKey.length

/-- The value by which the reader recognises the holder, derived from the bytes of the
holder's ephemeral key. -/
def bleIdent (suite : CipherSuite) (deviceKey : Embedded Cose.Key) : Bytes :=
  suite.derive deviceKey.taggedBytes [] (Bytes.ofText "BLEIdent") 16

end Presentment
