import Presentment.Message.Session
import Presentment.Proofs.Cose.Message
import Presentment.Proofs.Embedded

/-!
# Session messages survive

Both kinds of session messages are read back from their bytes.
-/

namespace Presentment

open Cbor (Survives)
open Cbor.Decoder (Gathers)

variable {levels : Nat}

theorem SessionStatus.survives (status : SessionStatus) :
  Survives levels status
  := by
  cases status with
  | encryptionError => exact (Cbor.Decoder.restores_uint64 10).refine rfl
  | decodingError => exact (Cbor.Decoder.restores_uint64 11).refine rfl
  | termination => exact (Cbor.Decoder.restores_uint64 20).refine rfl

theorem SessionEstablishment.survives (m : SessionEstablishment) :
  Survives (levels + 2) m
  := by
  obtain ⟨readerKey, data⟩ := m
  refine Cbor.Decoder.restores_record
    (?gathers : Gathers _ _ _ _ (Draft.mk (readerKey.map some) (some data))) ?finish
  case gathers =>
    apply Gathers.optional ⟨readerKey.map some, none⟩ _ (by decide) rfl
    · exact fun key _ => key.survives
    · exact fun _ => rfl
    · cases readerKey with
      | _ => rfl
    · apply Gathers.required _ (by decide) rfl (Cbor.Decoder.restores_bytes data)
      exact .done _
  case finish =>
    cases readerKey with
    | _ => rfl

theorem SessionData.survives (m : SessionData) :
  Survives (levels + 1) m
  := by
  obtain ⟨data, status⟩ := m
  refine Cbor.Decoder.restores_record
    (?gathers : Gathers _ _ _ _ (Draft.mk (data.map some) (status.map some))) ?finish
  case gathers =>
    apply Gathers.optional ⟨data.map some, none⟩ _ (by decide) rfl
    · exact fun bs _ => Cbor.Decoder.restores_bytes bs
    · exact fun _ => rfl
    · cases data with
      | _ => rfl
    · apply Gathers.optional ⟨data.map some, status.map some⟩ _ (by decide) rfl
      · exact fun status _ => status.survives
      · exact fun _ => rfl
      · cases status with
        | _ => rfl
      · exact .done _
  case finish =>
    cases data with
    | _ =>
      cases status with
      | _ => rfl

end Presentment
