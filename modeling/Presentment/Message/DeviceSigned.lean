import Presentment.Message.Transcript
import Presentment.Cose.Message

/-!
# Device-signed data

With every document the holder proves that it has the device key of the document: by a
signature, or by an authentication tag under a key agreed with the reader.
-/

namespace Presentment

open Cbor (Value Wire Decoder)

/-- The elements that the device itself vouches for, by namespace. -/
abbrev DeviceNamespaces := TextMap (NonEmptyMap Value)

/-- The proof of possession of a device key. -/
inductive DeviceAuth where
  | signature (message : Cose.Sign1)
  | mac (message : Cose.Mac0)

/-- Device-signed elements with their proof. -/
structure DeviceSigned where
  namespaces : Embedded DeviceNamespaces
  deviceAuth : DeviceAuth

/-- What the proof of a device key is made over. -/
structure DeviceAuthentication where
  context : String
  transcript : SessionTranscript
  docType : String
  namespaces : Embedded DeviceNamespaces

/-- Whether the message with the proof can be written. -/
def DeviceAuth.isWritable : DeviceAuth → Bool
  | .signature message => message.isWritable
  | .mac message => message.isWritable

instance : Wire DeviceAuth where
  decoder := Decoder.variant (fun
    | "deviceSignature" => some (Decoder.map .signature Wire.decoder)
    | "deviceMac" => some (Decoder.map .mac Wire.decoder)
    | _ => none)
  toValue
    | .signature message => .map [(.text "deviceSignature", message.toValue)]
    | .mac message => .map [(.text "deviceMac", message.toValue)]

namespace DeviceSigned

/-- The fields gathered while reading. -/
structure Draft where
  namespaces : Option (Embedded DeviceNamespaces) := none
  deviceAuth : Option DeviceAuth := none

instance : Wire DeviceSigned where
  decoder := Decoder.record {}
    (fun (draft : Draft) => fun
      | "nameSpaces" => Decoder.once draft.namespaces Wire.decoder
          (fun a => { draft with namespaces := some a })
      | "deviceAuth" => Decoder.once draft.deviceAuth Wire.decoder
          (fun a => { draft with deviceAuth := some a })
      | _ => none)
    (fun draft => return ⟨← Decoder.required draft.namespaces,
      ← Decoder.required draft.deviceAuth⟩)
  toValue s := Cbor.recordValue [("nameSpaces", some (Wire.toValue s.namespaces)),
    ("deviceAuth", some (Wire.toValue s.deviceAuth))]

end DeviceSigned

/-- The device-signed elements of a device that vouches for nothing. -/
def noDeviceNamespaces : Except Refusal (Embedded DeviceNamespaces) :=
  Embedded.ofContent ∅

namespace DeviceAuthentication

/-- What the proof for a document in a session is made over. -/
def of (transcript : SessionTranscript) (docType : String)
    (namespaces : Embedded DeviceNamespaces) : DeviceAuthentication :=
  ⟨"DeviceAuthentication", transcript, docType, namespaces⟩

instance : Wire DeviceAuthentication where
  decoder :=
    (Decoder.tuple (.pair (.one Decoder.text) (.pair (.one Wire.decoder)
      (.pair (.one Decoder.text) (.one Wire.decoder))))).map
      (fun fields => ⟨fields.1, fields.2.1, fields.2.2.1, fields.2.2.2⟩)
  toValue a := .array [.text a.context, Wire.toValue a.transcript, .text a.docType,
    a.namespaces.toValue]

end DeviceAuthentication

end Presentment
