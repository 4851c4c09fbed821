import Presentment.Message.Engagement

/-!
# Session transcript

The session transcript binds keys and proofs to one engagement: it holds the engagement as
it was published, the ephemeral key of the reader as it was sent, and how the engagement
was handed over.  Handover by QR code carries no data.
-/

namespace Presentment

open Cbor (Value Wire)

/-- How the engagement reached the reader. -/
inductive Handover where
  | qr
  deriving DecidableEq, Repr

instance : Wire Handover where
  decoder := Cbor.Decoder.value.refine (fun
    | .null => .ok .qr
    | _ => .error .handoverNotNull)
  toValue _ := .null

/-- What both sides know about the start of the session. -/
structure SessionTranscript where
  engagement : Embedded DeviceEngagement
  readerKey : Embedded Cose.Key
  handover : Handover

instance : Wire SessionTranscript where
  decoder :=
    (Cbor.Decoder.tuple
      (.pair (.one Wire.decoder) (.pair (.one Wire.decoder) (.one Wire.decoder)))).map
      (fun fields => ⟨fields.1, fields.2.1, fields.2.2⟩)
  toValue t := .array [t.engagement.toValue, t.readerKey.toValue, Wire.toValue t.handover]

/-- The bytes of a value embedded in an item: those from which keys and proofs are made. -/
def taggedBytes {α : Type} [Wire α] (content : α) : Bytes :=
  (Value.tag 24 (.bytes (Cbor.encode content))).encode

end Presentment
