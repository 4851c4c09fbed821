import Presentment.Cbor.Decoder

/-!
# Embedded items

A message may carry another one as a byte string with tag 24.  The bytes are kept as they
were received, because digests and signatures are made over them; the value they stand for
is kept beside them.
-/

namespace Presentment

open Cbor (Value Wire)

/-- The bytes of a value together with the value. -/
structure Embedded (α : Type) [Wire α] where
  bytes : Bytes
  content : α
  decode_bytes : Cbor.decode bytes = .ok content

namespace Embedded

variable {α : Type} [Wire α]

/-- The value in a byte string. -/
def ofBytes (bs : Bytes) : Except Refusal (Embedded α) :=
  match h : (Cbor.decode bs : Except Refusal α) with
  | .ok content => .ok ⟨bs, content, h⟩
  | .error cause => .error (.embedded cause)

/-- What is said of a byte string that holds no value of the type asked for. -/
def unreadable : String :=
  "Unable to decode bytes to inner type: CBOR decoding failure"

/-- A value with the bytes in which it is written. -/
def ofContent (content : α) : Except Refusal (Embedded α) :=
  ofBytes (Cbor.encode content)

/-- The value in an item. -/
def ofValue : Value → Except Refusal (Embedded α)
  | .tag 24 (.bytes bs) => ofBytes bs
  | .tag 24 _ => .error .embeddedNotBytes
  | _ => .error .notEmbedded

def toValue (e : Embedded α) : Value :=
  .tag 24 (.bytes e.bytes)

instance : Wire (Embedded α) where
  decoder := Cbor.Decoder.value.refine ofValue
  toValue := toValue

/-- The bytes of the item that carries the value. -/
def taggedBytes (e : Embedded α) : Bytes :=
  Cbor.encode e

/-- Two embedded values with the same bytes are the same. -/
theorem eq_of_bytes_eq {a b : Embedded α} (h : a.bytes = b.bytes) :
  a = b
  := by
  obtain ⟨bytes, content, decode⟩ := a
  obtain ⟨_, _, decode'⟩ := b
  subst h
  rw [decode] at decode'
  cases decode'
  rfl

end Embedded

end Presentment
