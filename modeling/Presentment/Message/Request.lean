import Presentment.Message.Transcript
import Presentment.Cose.Message

/-!
# Device request

The reader asks for data elements, document by document.  Every document request holds an
items request, by document type, namespace and element identifier, and may hold the
signature of the reader over it.
-/

namespace Presentment

open Cbor (Value Wire Decoder)

/-- The elements asked for in a document, by namespace, each with the reader's intent to
retain it. -/
abbrev RequestedElements := NonEmptyMap (NonEmptyMap Bool)

/-- What the reader asks for in one document. -/
structure ItemsRequest where
  docType : String
  namespaces : RequestedElements
  requestInfo : Option (TextMap Value)

namespace ItemsRequest

/-- The fields gathered while reading. -/
structure Draft where
  docType : Option String := none
  namespaces : Option RequestedElements := none
  requestInfo : Option (Option (TextMap Value)) := none

instance : Wire ItemsRequest where
  decoder := Decoder.record {}
    (fun (draft : Draft) => fun
      | "docType" => Decoder.once draft.docType Decoder.text
          (fun a => { draft with docType := some a })
      | "nameSpaces" => Decoder.once draft.namespaces Wire.decoder
          (fun a => { draft with namespaces := some a })
      | "requestInfo" => Decoder.once draft.requestInfo (Decoder.nullable Wire.decoder)
          (fun a => { draft with requestInfo := some a })
      | _ => none)
    (fun draft => return ⟨← Decoder.required draft.docType, ← Decoder.required draft.namespaces,
      draft.requestInfo.join⟩)
  toValue r := Cbor.recordValue [("docType", some (.text r.docType)),
    ("nameSpaces", some (Wire.toValue r.namespaces)),
    ("requestInfo", r.requestInfo.map Wire.toValue)]

end ItemsRequest

/-- An items request, perhaps signed by the reader. -/
structure DocRequest where
  itemsRequest : Embedded ItemsRequest
  readerAuth : Option Cose.Sign1

namespace DocRequest

/-- The fields gathered while reading. -/
structure Draft where
  itemsRequest : Option (Embedded ItemsRequest) := none
  readerAuth : Option (Option Cose.Sign1) := none

instance : Wire DocRequest where
  decoder := Decoder.record {}
    (fun (draft : Draft) => fun
      | "itemsRequest" => Decoder.once draft.itemsRequest Wire.decoder
          (fun a => { draft with itemsRequest := some a })
      | "readerAuth" => Decoder.once draft.readerAuth (Decoder.nullable Wire.decoder)
          (fun a => { draft with readerAuth := some a })
      | _ => none)
    (fun draft => return ⟨← Decoder.required draft.itemsRequest, draft.readerAuth.join⟩)
  toValue r := Cbor.recordValue [("itemsRequest", some (Wire.toValue r.itemsRequest)),
    ("readerAuth", r.readerAuth.map Wire.toValue)]

end DocRequest

/-- Everything the reader asks for. -/
structure DeviceRequest where
  version : String
  docRequests : NonEmptyList DocRequest

namespace DeviceRequest

/-- The version of the requests that are written. -/
def currentVersion : String := "1.0"

/-- The fields gathered while reading. -/
structure Draft where
  version : Option String := none
  docRequests : Option (NonEmptyList DocRequest) := none

instance : Wire DeviceRequest where
  decoder := Decoder.record {}
    (fun (draft : Draft) => fun
      | "version" => Decoder.once draft.version Decoder.text
          (fun a => { draft with version := some a })
      | "docRequests" => Decoder.once draft.docRequests Wire.decoder
          (fun a => { draft with docRequests := some a })
      | _ => none)
    (fun draft => return ⟨← Decoder.required draft.version, ← Decoder.required draft.docRequests⟩)
  toValue r := Cbor.recordValue [("version", some (.text r.version)),
    ("docRequests", some (Wire.toValue r.docRequests))]

/-- The items requests, in order. -/
def itemsRequests (r : DeviceRequest) : List ItemsRequest :=
  r.docRequests.toList.map (fun doc => doc.itemsRequest.content)

end DeviceRequest

/-- What the signature of the reader is made over. -/
structure ReaderAuthentication where
  context : String
  transcript : SessionTranscript
  itemsRequest : Embedded ItemsRequest

namespace ReaderAuthentication

/-- What the signature over an items request in a session is made over. -/
def of (transcript : SessionTranscript) (itemsRequest : Embedded ItemsRequest) :
    ReaderAuthentication :=
  ⟨"ReaderAuthentication", transcript, itemsRequest⟩

instance : Wire ReaderAuthentication where
  decoder :=
    (Decoder.tuple
      (.pair (.one Decoder.text) (.pair (.one Wire.decoder) (.one Wire.decoder)))).map
      (fun fields => ⟨fields.1, fields.2.1, fields.2.2⟩)
  toValue a := .array [.text a.context, Wire.toValue a.transcript, a.itemsRequest.toValue]

end ReaderAuthentication

end Presentment
