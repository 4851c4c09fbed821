import Presentment.Cose.Message
import Presentment.Embedded

/-!
# Issuer-signed data

The issuer signs digests of data elements.  An element is disclosed by showing the bytes of
its item as the issuer wrote them, so items are kept embedded.
-/

namespace Presentment

open Cbor (Value Wire Decoder)

/-- A data element with what its digest is made of. -/
structure IssuerSignedItem where
  digestId : UInt64
  random : Bytes
  elementIdentifier : String
  elementValue : Value

namespace IssuerSignedItem

/-- The fields gathered while reading. -/
structure Draft where
  digestId : Option UInt64 := none
  random : Option Bytes := none
  elementIdentifier : Option String := none
  elementValue : Option Value := none

instance : Wire IssuerSignedItem where
  decoder := Decoder.record {}
    (fun (draft : Draft) => fun
      | "digestID" => Decoder.once draft.digestId Decoder.uint64
          (fun a => { draft with digestId := some a })
      | "random" => Decoder.once draft.random Decoder.bytes
          (fun a => { draft with random := some a })
      | "elementIdentifier" => Decoder.once draft.elementIdentifier Decoder.text
          (fun a => { draft with elementIdentifier := some a })
      | "elementValue" => Decoder.once draft.elementValue Decoder.value
          (fun a => { draft with elementValue := some a })
      | _ => none)
    (fun draft => return ⟨← Decoder.required draft.digestId, ← Decoder.required draft.random,
      ← Decoder.required draft.elementIdentifier, ← Decoder.required draft.elementValue⟩)
  toValue item := Cbor.recordValue [("digestID", some (Wire.toValue item.digestId)),
    ("random", some (.bytes item.random)),
    ("elementIdentifier", some (.text item.elementIdentifier)),
    ("elementValue", some item.elementValue)]

end IssuerSignedItem

/-- The items of a document, by namespace. -/
abbrev IssuerNamespaces := NonEmptyMap (NonEmptyList (Embedded IssuerSignedItem))

/-- The items of a document with the issuer's signature over their digests. -/
structure IssuerSigned where
  namespaces : Option IssuerNamespaces
  issuerAuth : Cose.Sign1

namespace IssuerSigned

/-- The fields gathered while reading. -/
structure Draft where
  namespaces : Option (Option IssuerNamespaces) := none
  issuerAuth : Option Cose.Sign1 := none

instance : Wire IssuerSigned where
  decoder := Decoder.record {}
    (fun (draft : Draft) => fun
      | "nameSpaces" => Decoder.once draft.namespaces (Decoder.nullable Wire.decoder)
          (fun a => { draft with namespaces := some a })
      | "issuerAuth" => Decoder.once draft.issuerAuth Wire.decoder
          (fun a => { draft with issuerAuth := some a })
      | _ => none)
    (fun draft => return ⟨draft.namespaces.join, ← Decoder.required draft.issuerAuth⟩)
  toValue s := Cbor.recordValue [("nameSpaces", s.namespaces.map Wire.toValue),
    ("issuerAuth", some (Wire.toValue s.issuerAuth))]

/-- The items of a namespace, none if it is missing. -/
def items (s : IssuerSigned) (ns : String) : List (Embedded IssuerSignedItem) :=
  match s.namespaces.bind (·.find? ns) with
  | some items => items.toList
  | none => []

/-- All namespaces and element identifiers, in order. -/
def elementIdentifiers (s : IssuerSigned) : List (String × String) :=
  s.namespaces.toList.flatMap (fun namespaces => namespaces.entries.flatMap (fun entry =>
    entry.2.toList.map (fun item => (entry.1, item.content.elementIdentifier))))

end IssuerSigned

end Presentment
