import Presentment.Transfer.Error

/-!
# The tunnel

Once the first message of the reader has come, all further messages pass through an
encrypted tunnel.  Before that, and after it is closed, nothing can be encrypted or
decrypted.
-/

namespace Presentment

/-- The session encryption, of state `κ`, of a session that may not have one yet. -/
inductive Tunnel (κ : Type) where
  | closed
  | established (state : κ)

namespace Tunnel

variable {κ : Type}

def isEstablished : Tunnel κ → Bool
  | closed => false
  | established _ => true

/-- Encrypts the next message to the reader. -/
def encrypt (provider : SecurityProvider κ) (text : Bytes) :
    Tunnel κ → Except TransferError Bytes × Tunnel κ
  | closed => (.error .sessionNotEstablished, closed)
  | established state =>
    let (ciphertext, state) := provider.encrypt text state
    (ciphertext.mapError .encryptFailed, established state)

/-- Decrypts the next message of the reader. -/
def decrypt (provider : SecurityProvider κ) (ciphertext : Bytes) :
    Tunnel κ → Except TransferError Bytes × Tunnel κ
  | closed => (.error .sessionNotEstablished, closed)
  | established state =>
    let (text, state) := provider.decrypt ciphertext state
    (text.mapError .decryptFailed, established state)

/-- The transcript of the session. -/
def transcript (provider : SecurityProvider κ) : Tunnel κ → Except TransferError SessionTranscript
  | closed => .error .sessionNotEstablished
  | established state => .ok (provider.transcript state)

/-- The ephemeral key of the reader. -/
def readerKey (provider : SecurityProvider κ) : Tunnel κ → Except TransferError Cose.Key
  | closed => .error .sessionNotEstablished
  | established state => .ok (provider.readerKey state)

end Tunnel

end Presentment
