import Presentment.Crypto.Aes

/-!
# Authenticated encryption

AES-256 in Galois counter mode, with nonces of twelve bytes and no associated data.  The
tag is a polynomial of the blocks of the ciphertext over the field of 128-bit numbers,
whose highest bit is the constant coefficient.
-/

namespace Presentment.Gcm

/-- The bytes of a block, and of a tag. -/
def blockSize : Nat := 16

/-- The product of `v` and the lowest `bits` coefficients of `x`. -/
def multiplyBits (x v : Nat) : (bits : Nat) → Nat
  | 0 => 0
  | bits + 1 =>
    let next := if v % 2 = 0 then v / 2 else (v / 2) ^^^ (0xE1 * 2 ^ 120)
    let rest := multiplyBits x next bits
    if x.testBit bits then rest ^^^ v else rest

/-- The product of two field elements. -/
def multiply (x y : Nat) : Nat :=
  multiplyBits x y 128

/-- The first `count` blocks of a byte string, the last one filled up with zeros, hashed
into `acc` with key `h`. -/
def hashBlocks (h acc : Nat) : (count : Nat) → Bytes → Nat
  | 0, _ => acc
  | count + 1, rest =>
    let block := rest.take blockSize
    let block := block ++ List.replicate (blockSize - block.length) 0
    hashBlocks h (multiply (acc ^^^ Bytes.toNat block) h) count (rest.drop blockSize)

/-- The hash of a ciphertext and its length. -/
def hash (h : Nat) (ciphertext : Bytes) : Nat :=
  let acc := hashBlocks h 0 ((ciphertext.length + 15) / blockSize) ciphertext
  multiply (acc ^^^ (8 * ciphertext.length)) h

/-- The block that is encrypted into part `index` of the key stream. -/
def counterBlock (nonce : Bytes) (index : Nat) : Bytes :=
  nonce ++ Bytes.ofNat 4 index

/-- `count` blocks of the key stream. -/
def keyStream (keys : List Aes.State) (nonce : Bytes) (index : Nat) : (count : Nat) → Bytes
  | 0 => []
  | count + 1 =>
    Aes.encryptBlock keys (counterBlock nonce index) ++ keyStream keys nonce (index + 1) count

/-- A text combined with the key stream; doing so again gives back the text. -/
def applyKeyStream (keys : List Aes.State) (nonce text : Bytes) : Bytes :=
  Bytes.xor text (keyStream keys nonce 2 ((text.length + 15) / blockSize))

/-- The tag of a ciphertext. -/
def tag (keys : List Aes.State) (nonce ciphertext : Bytes) : Bytes :=
  let h := Bytes.toNat (Aes.encryptBlock keys (List.replicate blockSize 0))
  Bytes.xor (Bytes.ofNat 16 (hash h ciphertext)) (Aes.encryptBlock keys (counterBlock nonce 1))

/-- The longest text that may be encrypted. -/
def maxText : Nat := 0x1000000000

/-- The ciphertext of a text, followed by its tag, unless the text is too long. -/
def encrypt? (key nonce text : Bytes) : Option Bytes :=
  if text.length > maxText then none
  else
    let keys := Aes.schedule key
    let ciphertext := applyKeyStream keys nonce text
    some (ciphertext ++ tag keys nonce ciphertext)

/-- The text of a ciphertext with its tag, if the tag is right. -/
def decrypt? (key nonce message : Bytes) : Option Bytes :=
  let keys := Aes.schedule key
  if message.length < blockSize ∨ message.length > maxText + 2 * blockSize then none
  else
    let ciphertext := message.take (message.length - blockSize)
    if tag keys nonce ciphertext = message.drop (message.length - blockSize) then
      some (applyKeyStream keys nonce ciphertext)
    else none

end Presentment.Gcm
