import Presentment.Crypto.Sha256

/-!
# Message authentication and key derivation

`hmac` authenticates a message under a key.  Key derivation first extracts a uniform key
from a secret and then expands it for a purpose, named by its `info`.
-/

namespace Presentment

/-- The bytes of a hash block. -/
def hmacBlock : Nat := 64

/-- The authentication tag of a message, thirty-two bytes. -/
def hmac (key message : Bytes) : Bytes :=
  let key := if key.length > hmacBlock then Sha256.hash key else key
  let key := key ++ List.replicate (hmacBlock - key.length) 0
  let masked (mask : UInt8) : Bytes := key.map (· ^^^ mask)
  Sha256.hash (masked 0x5C ++ Sha256.hash (masked 0x36 ++ message))

namespace Hkdf

/-- A uniform key made from a secret. -/
def extract (salt secret : Bytes) : Bytes :=
  hmac salt secret

/-- Blocks of key material: block `index + 1` depends on the block before it. -/
def blocks (key info last : Bytes) (index : Nat) : (count : Nat) → Bytes
  | 0 => []
  | count + 1 =>
    let block := hmac key (last ++ info ++ [UInt8.ofNat (index + 1)])
    block ++ blocks key info block (index + 1) count

/-- `length` bytes of key material for the purpose `info`. -/
def expand (key info : Bytes) (length : Nat) : Bytes :=
  (blocks key info [] 0 ((length + 31) / 32)).take length

/-- `length` bytes derived from a secret. -/
def derive (secret salt info : Bytes) (length : Nat) : Bytes :=
  expand (extract salt secret) info length

end Hkdf

end Presentment
