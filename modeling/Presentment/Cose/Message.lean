import Presentment.Cose.Header

/-!
# Signed and authenticated messages

A COSE message carries a proof, which is a signature or an authentication tag, over its
protected header and its payload.  The payload may be detached: then the message leaves it
out and the verifier supplies it.  `Message.toBeProven` is what the proof is made over.
-/

namespace Presentment.Cose

open Cbor (Value)

/-- A header whose bytes are part of what is proven. -/
structure ProtectedHeader where
  bytes : Bytes
  header : Header

/-- The protected header with the given entries. -/
def ProtectedHeader.ofHeader (header : Header) : ProtectedHeader :=
  ⟨header.toBytes, header⟩

/-- How a message is proven. -/
inductive Proof where
  | signature
  | tag
  deriving DecidableEq, Repr

/-- The text that separates proofs of one kind from those of another. -/
def Proof.context : Proof → String
  | .signature => "Signature1"
  | .tag => "MAC0"

/-- A message with one proof of the given kind. -/
structure Message (kind : Proof) where
  protectedHeader : ProtectedHeader
  unprotectedHeader : Header
  payload : Option Bytes
  proof : Bytes

/-- A message with one signature. -/
abbrev Sign1 := Message .signature

/-- A message with one authentication tag. -/
abbrev Mac0 := Message .tag

namespace Message

variable {kind : Proof}

/-- The message that an item stands for: a list of protected header, unprotected header,
payload and proof. -/
def ofValue (item : Value) : Except Error (Message kind) := do
  let .array [protectedHeader, unprotectedHeader, payload, proof] := item
    | throw .unexpectedItem
  let .bytes proof := proof | throw .unexpectedItem
  let payload ← match payload with
    | .bytes bs => pure (some bs)
    | .null => pure none
    | _ => throw .unexpectedItem
  let unprotectedHeader ← Header.ofValue unprotectedHeader
  let .bytes bs := protectedHeader | throw .unexpectedItem
  let header ← Header.ofBytes bs
  return ⟨⟨bs, header⟩, unprotectedHeader, payload, proof⟩

def toValue (m : Message kind) : Value :=
  .array [.bytes m.protectedHeader.bytes, m.unprotectedHeader.toValue,
    m.payload.elim .null .bytes, .bytes m.proof]

/-- Whether both headers can be written. -/
def isWritable (m : Message kind) : Bool :=
  m.protectedHeader.header.isWritable && m.unprotectedHeader.isWritable

instance : Cbor.Wire (Message kind) where
  decoder := Cbor.Decoder.value.refine (fun item => (ofValue item).mapError (fun _ => .malformed))
  toValue := toValue

/-- The message that fills a byte string. -/
def ofBytes (bs : Bytes) : Except Error (Message kind) := do
  ofValue (← Header.itemOfBytes bs)

/-- The bytes that the proof of a message of this kind is made over. -/
def toBeProven (kind : Proof) (protectedHeader : ProtectedHeader) (payload : Bytes) : Bytes :=
  (Value.array [.text kind.context, .bytes protectedHeader.bytes, .bytes [], .bytes payload]).encode

/-- The message with a detached payload whose proof is made by `prove`. -/
def detached (kind : Proof) (protectedHeader unprotectedHeader : Header) (payload : Bytes)
    (prove : Bytes → Bytes) : Message kind :=
  let protectedHeader := ProtectedHeader.ofHeader protectedHeader
  ⟨protectedHeader, unprotectedHeader, none, prove (toBeProven kind protectedHeader payload)⟩

/-- The certificates that a message carries, leaf first; the unprotected header comes first.
A chain of one may stand without a list around it. -/
def x5chain (m : Message kind) : List Bytes :=
  match m.unprotectedHeader.find? .x5chain <|> m.protectedHeader.header.find? .x5chain with
  | some (.bytes der) => [der]
  | some (.array certificates) =>
    certificates.filterMap (fun | .bytes der => some der | _ => none)
  | _ => []

end Message

end Presentment.Cose
