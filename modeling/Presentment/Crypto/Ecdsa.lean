import Presentment.Crypto.Curve
import Presentment.Crypto.Hkdf
import Presentment.Der.Element

/-!
# Signatures

ECDSA on P-256 with SHA-256.  The secret number of a signature is computed from the key
and the message, so signatures are deterministic.
-/

namespace Presentment.Ecdsa

open Curve (Point order)

/-- A signature: two numbers from 1 to `order - 1`. -/
structure Signature where
  r : Nat
  s : Nat
  deriving DecidableEq

/-- The signature with the given numbers, if they are in range. -/
def Signature.ofNumbers? (r s : Nat) : Option Signature :=
  if 0 < r ∧ r < order ∧ 0 < s ∧ s < order then some ⟨r, s⟩ else none

/-- The signature in sixty-four bytes. -/
def Signature.ofBytes? (bs : Bytes) : Option Signature :=
  if bs.length = 64 then
    ofNumbers? (Bytes.toNat (bs.take 32)) (Bytes.toNat (bs.drop 32))
  else none

/-- The signature in an element that lists both numbers. -/
def Signature.ofElement? (bs : Bytes) : Option Signature := do
  let (r, s) ← Der.whole (Der.within Der.Tag.sequence do
    return (← Der.positive, ← Der.positive)) bs
  ofNumbers? r s

def Signature.toBytes (signature : Signature) : Bytes :=
  Bytes.ofNat 32 signature.r ++ Bytes.ofNat 32 signature.s

/-- Candidates for the secret number of a signature, until `accept` takes one. -/
def secretNumber {α : Type} (accept : Nat → Option α) (key value : Bytes) :
    (attempts : Nat) → Option α
  | 0 => none
  | attempts + 1 =>
    let value := hmac key value
    match accept (Bytes.toNat value) with
    | some a => some a
    | none =>
      let key := hmac key (value ++ [0])
      secretNumber accept key (hmac key value) attempts

/-- The signature of the digest `digest` by the private key `d` with secret number `k`, if
`k` is usable. -/
def signWith? (d : Nat) (digest : Bytes) (k : Nat) : Option Signature :=
  if k = 0 ∨ k ≥ order then none
  else do
    let (x, _) ← (Point.generator.multiply k).coordinates?
    let r := x % order
    let s := Curve.inverse k order * ((Bytes.toNat digest + r * d) % order) % order
    Signature.ofNumbers? r s

/-- How many secret numbers are tried; the first one is usable but for a negligible part
of all messages. -/
def maxAttempts : Nat := 64

/-- The signature of a message by the private key `d`. -/
def sign (d : Nat) (message : Bytes) : Bytes :=
  let digest := Sha256.hash message
  let seed := Bytes.ofNat 32 d ++ Bytes.ofNat 32 (Bytes.toNat digest % order)
  let value := List.replicate 32 1
  let key := hmac (List.replicate 32 0) (value ++ [0] ++ seed)
  let value := hmac key value
  let key := hmac key (value ++ [1] ++ seed)
  let value := hmac key value
  ((secretNumber (signWith? d digest) key value maxAttempts).map Signature.toBytes).getD []

/-- Whether a signature of a message was made with the private key of the point `(x, y)`. -/
def verify (x y : Nat) (message : Bytes) (signature : Signature) : Bool :=
  let z := Bytes.toNat (Sha256.hash message) % order
  let inverse := Curve.inverse signature.s order
  let first := Point.generator.multiply (z * inverse % order)
  let second := (Point.ofCoordinates x y).multiply (signature.r * inverse % order)
  match (first.add second).coordinates? with
  | some (x, _) => x % order == signature.r
  | none => false

end Presentment.Ecdsa
