import Presentment.Message.Transcript

/-!
# Session messages

The first message of a session is a `SessionEstablishment`, with the ephemeral key of the
reader and the encrypted request.  Every later one is a `SessionData`, with encrypted data,
a status or both.
-/

namespace Presentment

open Cbor (Value Wire Decoder)

/-- Why a session ends. -/
inductive SessionStatus where
  | encryptionError
  | decodingError
  | termination
  deriving DecidableEq, Repr

namespace SessionStatus

def code : SessionStatus → Nat
  | .encryptionError => 10
  | .decodingError => 11
  | .termination => 20

def ofCode? : Nat → Option SessionStatus
  | 10 => some .encryptionError
  | 11 => some .decodingError
  | 20 => some .termination
  | _ => none

instance : Wire SessionStatus where
  decoder := Decoder.uint64.refine (fun code => match ofCode? code.toNat with
    | some status => .ok status
    | none => .error (.unknownSessionStatus code.toNat))
  toValue status := .int status.code

end SessionStatus

/-- The first message of the reader. -/
structure SessionEstablishment where
  readerKey : Option (Embedded Cose.Key)
  data : Bytes

/-- A message after the first, of either side. -/
structure SessionData where
  data : Option Bytes
  status : Option SessionStatus
  deriving DecidableEq

namespace SessionEstablishment

/-- The fields gathered while reading. -/
structure Draft where
  readerKey : Option (Option (Embedded Cose.Key)) := none
  data : Option Bytes := none

instance : Wire SessionEstablishment where
  decoder := Decoder.record {}
    (fun (draft : Draft) => fun
      | "eReaderKey" => Decoder.once draft.readerKey (Decoder.nullable Wire.decoder)
          (fun a => { draft with readerKey := some a })
      | "data" => Decoder.once draft.data Decoder.bytes (fun a => { draft with data := some a })
      | _ => none)
    (fun draft => return ⟨draft.readerKey.join, ← Decoder.required draft.data⟩)
  toValue m := Cbor.recordValue
    [("eReaderKey", m.readerKey.map Wire.toValue), ("data", some (.bytes m.data))]

end SessionEstablishment

namespace SessionData

/-- The fields gathered while reading. -/
structure Draft where
  data : Option (Option Bytes) := none
  status : Option (Option SessionStatus) := none

instance : Wire SessionData where
  decoder := Decoder.record {}
    (fun (draft : Draft) => fun
      | "data" => Decoder.once draft.data (Decoder.nullable Decoder.bytes)
          (fun a => { draft with data := some a })
      | "status" => Decoder.once draft.status (Decoder.nullable Wire.decoder)
          (fun a => { draft with status := some a })
      | _ => none)
    (fun draft => return ⟨draft.data.join, draft.status.join⟩)
  toValue m := Cbor.recordValue
    [("data", m.data.map .bytes), ("status", m.status.map Wire.toValue)]

/-- A message with encrypted data only. -/
def encrypted (data : Bytes) : SessionData := ⟨some data, none⟩

/-- A message in the clear with a status only. -/
def statusOnly (status : SessionStatus) : SessionData := ⟨none, some status⟩

end SessionData

end Presentment
