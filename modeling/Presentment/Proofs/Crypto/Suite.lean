import Presentment.Crypto.Suite
import Presentment.Proofs.Cose.Message

/-!
# Sound cipher suites

What the two sides of a session rely on: they agree on a secret, what one encrypts the other
decrypts, and what one signs the other verifies.  `CipherSuite.transparent` hides nothing, but it
is sound, and small enough to work out whole runs.  `CipherSuite.certified` is like it, and its
keys and signatures have room in certificates.
-/

namespace Presentment

namespace CipherSuite

/-- The laws of the primitives. -/
structure IsSound (suite : CipherSuite) : Prop where
  isWide_publicKey : ∀ d, (suite.publicKey d).IsWide
  /-- Key agreement is symmetric. -/
  agree_comm : ∀ d d', suite.agree d (suite.publicKey d') = suite.agree d' (suite.publicKey d)
  decrypt_encrypt : ∀ {key nonce text ciphertext},
    suite.encrypt? key nonce text = some ciphertext →
      suite.decrypt? key nonce ciphertext = some text
  /-- Long texts are not encrypted. -/
  length_text : ∀ {key nonce text ciphertext},
    suite.encrypt? key nonce text = some ciphertext → text.length ≤ Gcm.maxText
  length_ciphertext : ∀ {key nonce text ciphertext},
    suite.encrypt? key nonce text = some ciphertext →
      ciphertext.length ≤ text.length + Gcm.blockSize

/-- What the primitives do not refuse. -/
structure IsAvailable (suite : CipherSuite) : Prop where
  /-- The public key of a private key can be used. -/
  isUsable_publicKey : ∀ d, suite.isUsable (suite.publicKey d)
  /-- Short texts are encrypted. -/
  isSome_encrypt : ∀ {key nonce text},
    text.length ≤ Gcm.maxText → (suite.encrypt? key nonce text).isSome

/-- Key agreement is symmetric. -/
def IsSymmetric (suite : CipherSuite) : Prop :=
  ∀ d d', suite.agree d (suite.publicKey d') = suite.agree d' (suite.publicKey d)

/-- What signs a message also verifies it. -/
def IsAuthentic (suite : CipherSuite) : Prop :=
  ∀ d message, suite.verify (suite.publicKey d) message (suite.sign d message)

/-- The stamp of a message: its key and nonce, as far as there is room. -/
def stamp (key nonce : Bytes) : Bytes :=
  (key ++ nonce ++ List.replicate Gcm.blockSize 0).take Gcm.blockSize

theorem length_stamp (key nonce : Bytes) :
  (stamp key nonce).length = Gcm.blockSize
  := by
  rw [stamp, List.length_take, List.length_append, List.length_replicate]
  exact Nat.min_eq_left (Nat.le_add_left _ _)

/-- A suite that hides nothing. -/
def transparent : CipherSuite where
  publicKey d := .ofCoordinates d.scalar d.scalar
  isUsable _ := true
  ofPoint? _ := none
  agree d key := Bytes.ofNat 32 (d.scalar * Bytes.toNat key.x)
  hash message := message
  derive secret _ info _ := secret ++ info
  mac key message := key ++ message
  encrypt? key nonce text :=
    if text.length > Gcm.maxText then none else some (stamp key nonce ++ text)
  decrypt? key nonce ciphertext :=
    if ciphertext.take Gcm.blockSize = stamp key nonce then some (ciphertext.drop Gcm.blockSize)
    else none
  sign _ message := message
  verify _ message signature := message == signature

theorem toNat_scalar (d : PrivateKey) :
  Bytes.toNat (Bytes.ofNat 32 d.scalar) = d.scalar
  := by
  rw [Bytes.toNat_ofNat]
  exact Nat.mod_eq_of_lt (Nat.lt_trans d.scalar_lt (by decide))

theorem isSound_transparent :
  transparent.IsSound
  := by
  constructor
  case isWide_publicKey =>
    intro d
    exact ⟨Bytes.length_ofNat 32 _, Bytes.length_ofNat 32 _⟩
  case agree_comm =>
    intro d d'
    simp only [transparent, Cose.Key.ofCoordinates, toNat_scalar, Nat.mul_comm]
  case decrypt_encrypt =>
    intro key nonce text ciphertext h
    simp only [transparent, Option.ite_none_left_eq_some, Option.some.injEq] at h ⊢
    obtain ⟨-, rfl⟩ := h
    simp [← length_stamp key nonce]
  case length_text =>
    intro key nonce text ciphertext h
    simp only [transparent, Option.ite_none_left_eq_some] at h
    exact Nat.not_lt.mp h.1
  case length_ciphertext =>
    intro key nonce text ciphertext h
    simp only [transparent, Option.ite_none_left_eq_some, Option.some.injEq] at h
    obtain ⟨-, rfl⟩ := h
    exact Nat.le_of_eq (by rw [List.length_append, length_stamp, Nat.add_comm])

theorem isAvailable_transparent :
  transparent.IsAvailable
  := by
  constructor
  case isUsable_publicKey =>
    intro d
    rfl
  case isSome_encrypt =>
    intro key nonce text short
    have encrypted : transparent.encrypt? key nonce text = some (stamp key nonce ++ text) :=
      if_neg (Nat.not_lt.mpr short)
    rw [encrypted]
    rfl

theorem isAuthentic_transparent :
  transparent.IsAuthentic
  := fun _ message => beq_self_eq_true message

/-- A suite that hides nothing.  A point is the number of its private key, and a signature
consists of that number and the end of the message. -/
def certified : CipherSuite :=
  { transparent with
    ofPoint? := fun point => some (.ofCoordinates (Bytes.toNat point) (Bytes.toNat point))
    sign := fun d message => Bytes.ofNat 32 d.scalar ++ Bytes.ofNat 32 (Bytes.toNat message)
    verify := fun key message signature =>
      signature == key.x ++ Bytes.ofNat 32 (Bytes.toNat message) }

theorem isSound_certified :
  certified.IsSound
  := by
  constructor
  case isWide_publicKey => exact isSound_transparent.isWide_publicKey
  case agree_comm => exact isSound_transparent.agree_comm
  case decrypt_encrypt => exact isSound_transparent.decrypt_encrypt
  case length_text => exact isSound_transparent.length_text
  case length_ciphertext => exact isSound_transparent.length_ciphertext

theorem isAvailable_certified :
  certified.IsAvailable
  := ⟨isAvailable_transparent.isUsable_publicKey, isAvailable_transparent.isSome_encrypt⟩

theorem isAuthentic_certified :
  certified.IsAuthentic
  := fun d message => beq_self_eq_true (certified.sign d message)

end CipherSuite

end Presentment
