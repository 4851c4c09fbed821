import Presentment.Crypto.Ecdsa
import Presentment.Crypto.Gcm
import Presentment.Crypto.PrivateKey

/-!
# Cipher suites

A presentation needs a key agreement, signatures, authentication tags, key derivation and
encryption.  What is built from them does not depend on how they work, so they are gathered
in a `CipherSuite`; the suite in use is `CipherSuite.p256`.
-/

namespace Presentment

/-- The primitives of a presentation. -/
structure CipherSuite where
  /-- The public key that belongs to a private key. -/
  publicKey : PrivateKey → Cose.Key
  /-- Whether keys can be agreed and signatures verified with a public key. -/
  isUsable : Cose.Key → Bool
  /-- The public key in an encoded point. -/
  ofPoint? : (point : Bytes) → Option Cose.Key
  /-- The secret that a private key shares with a public key. -/
  agree : PrivateKey → Cose.Key → Bytes
  /-- The digest of a message. -/
  hash : (message : Bytes) → Bytes
  /-- Bytes derived from a secret for a purpose. -/
  derive : (secret salt info : Bytes) → (length : Nat) → Bytes
  /-- The authentication tag of a message. -/
  mac : (key message : Bytes) → Bytes
  /-- The ciphertext of a text, unless the text is too long. -/
  encrypt? : (key nonce text : Bytes) → Option Bytes
  /-- The text of a ciphertext, if it was made with this key and nonce. -/
  decrypt? : (key nonce ciphertext : Bytes) → Option Bytes
  /-- The signature of a message. -/
  sign : PrivateKey → (message : Bytes) → Bytes
  /-- Whether a signature of a message was made with the private key of a public key. -/
  verify : Cose.Key → (message signature : Bytes) → Bool

namespace CipherSuite

/-- The first coordinate of the product of a private key and a public key. -/
def sharedCoordinate (d : PrivateKey) (key : Cose.Key) : Bytes :=
  let point := Curve.Point.ofCoordinates (Bytes.toNat key.x) (Bytes.toNat key.y)
  Bytes.ofNat 32 (((point.multiply d.scalar).coordinates?.map (·.1)).getD 0)

/-- Whether sixty-four bytes are a signature of a message. -/
def verifySignature (key : Cose.Key) (message signature : Bytes) : Bool :=
  match Ecdsa.Signature.ofBytes? signature with
  | some signature => Ecdsa.verify (Bytes.toNat key.x) (Bytes.toNat key.y) message signature
  | none => false

/-- Key agreement and signatures on P-256, SHA-256, and AES-256 in Galois counter mode. -/
def p256 : CipherSuite where
  publicKey := PrivateKey.publicKey
  isUsable := Cose.Key.isOnCurve
  ofPoint? := Cose.Key.ofPoint?
  agree := sharedCoordinate
  hash := Sha256.hash
  derive := Hkdf.derive
  mac := hmac
  encrypt? := Gcm.encrypt?
  decrypt? := Gcm.decrypt?
  sign d := Ecdsa.sign d.scalar
  verify := verifySignature

end CipherSuite

end Presentment
