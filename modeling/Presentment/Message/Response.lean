import Presentment.Message.DeviceSigned
import Presentment.Message.IssuerSigned

/-!
# Device response

The holder answers with documents, each holding the disclosed items and the proof of its
device key, and with error codes for documents and elements that it does not return.
-/

namespace Presentment

open Cbor (Value Wire Decoder)

/-- Why a document or an element is not returned. -/
inductive ErrorCode where
  | dataNotReturned
  | applicationSpecific (code : Int)
  deriving DecidableEq, Repr

namespace ErrorCode

def code : ErrorCode → Int
  | .dataNotReturned => 0
  | .applicationSpecific code => code

def ofCode (code : Int) : ErrorCode :=
  if code = 0 then .dataNotReturned else .applicationSpecific code

instance : Wire ErrorCode where
  decoder := Decoder.int64.map ofCode
  toValue c := .int c.code

end ErrorCode

/-- How the request as a whole was answered. -/
inductive ResponseStatus where
  | ok
  | generalError
  | decodingError
  | validationError
  deriving DecidableEq, Repr

namespace ResponseStatus

def code : ResponseStatus → Nat
  | .ok => 0
  | .generalError => 10
  | .decodingError => 11
  | .validationError => 12

def ofCode? : Nat → Option ResponseStatus
  | 0 => some .ok
  | 10 => some .generalError
  | 11 => some .decodingError
  | 12 => some .validationError
  | _ => none

instance : Wire ResponseStatus where
  decoder := Decoder.uint64.refine (fun code => match ofCode? code.toNat with
    | some status => .ok status
    | none => .error (.invalidResponseStatus code.toNat))
  toValue status := .int status.code

end ResponseStatus

/-- The elements of a document that are not returned, by namespace. -/
abbrev ElementErrors := NonEmptyMap (NonEmptyMap ErrorCode)

/-- The documents that are not returned. -/
abbrev DocumentError := TextMap ErrorCode

/-- A returned document. -/
structure Document where
  docType : String
  issuerSigned : IssuerSigned
  deviceSigned : Option DeviceSigned
  errors : Option ElementErrors

namespace Document

/-- Whether the messages in the document can be written. -/
def isWritable (d : Document) : Bool :=
  d.issuerSigned.issuerAuth.isWritable && d.deviceSigned.all (·.deviceAuth.isWritable)

/-- The fields gathered while reading. -/
structure Draft where
  docType : Option String := none
  issuerSigned : Option IssuerSigned := none
  deviceSigned : Option (Option DeviceSigned) := none
  errors : Option (Option ElementErrors) := none

instance : Wire Document where
  decoder := Decoder.record {}
    (fun (draft : Draft) => fun
      | "docType" => Decoder.once draft.docType Decoder.text
          (fun a => { draft with docType := some a })
      | "issuerSigned" => Decoder.once draft.issuerSigned Wire.decoder
          (fun a => { draft with issuerSigned := some a })
      | "deviceSigned" => Decoder.once draft.deviceSigned (Decoder.nullable Wire.decoder)
          (fun a => { draft with deviceSigned := some a })
      | "errors" => Decoder.once draft.errors (Decoder.nullable Wire.decoder)
          (fun a => { draft with errors := some a })
      | _ => none)
    (fun draft => return ⟨← Decoder.required draft.docType, ← Decoder.required draft.issuerSigned,
      draft.deviceSigned.join, draft.errors.join⟩)
  toValue d := Cbor.recordValue [("docType", some (.text d.docType)),
    ("issuerSigned", some (Wire.toValue d.issuerSigned)),
    ("deviceSigned", d.deviceSigned.map Wire.toValue), ("errors", d.errors.map Wire.toValue)]

end Document

/-- The answer to a device request. -/
structure DeviceResponse where
  version : String
  documents : Option (NonEmptyList Document)
  documentErrors : Option (NonEmptyList DocumentError)
  status : ResponseStatus

namespace DeviceResponse

/-- The version of the responses that are written. -/
def currentVersion : String := "1.0"

/-- Whether every document can be written. -/
def isWritable (r : DeviceResponse) : Bool :=
  r.documents.all (·.toList.all Document.isWritable)

/-- The fields gathered while reading. -/
structure Draft where
  version : Option String := none
  documents : Option (Option (NonEmptyList Document)) := none
  documentErrors : Option (Option (NonEmptyList DocumentError)) := none
  status : Option ResponseStatus := none

instance : Wire DeviceResponse where
  decoder := Decoder.record {}
    (fun (draft : Draft) => fun
      | "version" => Decoder.once draft.version Decoder.text
          (fun a => { draft with version := some a })
      | "documents" => Decoder.once draft.documents (Decoder.nullable Wire.decoder)
          (fun a => { draft with documents := some a })
      | "documentErrors" => Decoder.once draft.documentErrors (Decoder.nullable Wire.decoder)
          (fun a => { draft with documentErrors := some a })
      | "status" => Decoder.once draft.status Wire.decoder
          (fun a => { draft with status := some a })
      | _ => none)
    (fun draft => return ⟨← Decoder.required draft.version, draft.documents.join,
      draft.documentErrors.join, ← Decoder.required draft.status⟩)
  toValue r := Cbor.recordValue [("version", some (.text r.version)),
    ("documents", r.documents.map Wire.toValue),
    ("documentErrors", r.documentErrors.map Wire.toValue),
    ("status", some (Wire.toValue r.status))]

end DeviceResponse

end Presentment
