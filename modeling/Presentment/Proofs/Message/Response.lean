import Presentment.Message.Response
import Presentment.Proofs.Cose.Message
import Presentment.Proofs.Embedded

/-!
# Responses survive

A response is read back from its bytes if the signatures of the issuers and the proofs of the
device keys are, and if its error codes are numbers of 64 bits.
-/

namespace Presentment

open Cbor (Survives)
open Cbor.Decoder (Gathers)

variable {levels : Nat}

/-- A code is a number of 64 bits, and it is specific to an application only if it has no meaning
of its own. -/
structure ErrorCode.IsProper (c : ErrorCode) : Prop where
  ofCode_eq : ofCode c.code = c
  low : -0x8000000000000000 ≤ c.code
  high : c.code ≤ 0x7FFFFFFFFFFFFFFF

theorem ErrorCode.isProper_dataNotReturned :
  ErrorCode.dataNotReturned.IsProper
  := ⟨rfl, by decide, by decide⟩

theorem ErrorCode.survives {c : ErrorCode} (h : c.IsProper) :
  Survives levels c
  := by
  have fits : Cbor.Value.fitsHead c.code := by
    have low := h.low
    have high := h.high
    simp only [Cbor.Value.fitsHead, Bool.and_eq_true, decide_eq_true_eq]
    omega
  have restored : Cbor.Decoder.int64.Restores levels (.int c.code) c.code :=
    Cbor.Decoder.restores_integer fits h.low h.high
  have mapped := restored.map ErrorCode.ofCode
  rw [h.ofCode_eq] at mapped
  exact mapped

theorem ResponseStatus.survives (status : ResponseStatus) :
  Survives levels status
  := by
  cases status with
  | ok => exact (Cbor.Decoder.restores_uint64 0).refine rfl
  | generalError => exact (Cbor.Decoder.restores_uint64 10).refine rfl
  | decodingError => exact (Cbor.Decoder.restores_uint64 11).refine rfl
  | validationError => exact (Cbor.Decoder.restores_uint64 12).refine rfl

/-! ### Documents -/

theorem IssuerNamespaces.survives (namespaces : IssuerNamespaces) :
  Survives (levels + 3) namespaces
  := by
  apply Cbor.Decoder.restores_nonEmptyMap
  intro entry _
  apply Cbor.Decoder.restores_nonEmptyList
  exact fun item _ => item.survives

theorem IssuerSigned.survives (s : IssuerSigned) (h : Survives (levels + 3) s.issuerAuth) :
  Survives (levels + 4) s
  := by
  obtain ⟨namespaces, issuerAuth⟩ := s
  refine Cbor.Decoder.restores_record
    (?gathers : Gathers _ _ _ _ (Draft.mk (namespaces.map some) (some issuerAuth))) ?finish
  case gathers =>
    apply Gathers.optional ⟨namespaces.map some, none⟩ _ (by decide) rfl
    · exact fun namespaces _ => IssuerNamespaces.survives namespaces
    · exact fun _ => rfl
    · cases namespaces with
      | _ => rfl
    · apply Gathers.required _ (by decide) rfl h
      exact .done _
  case finish =>
    cases namespaces with
    | _ => rfl

/-- The proof of a device key survives if its message does. -/
theorem DeviceAuth.survives_signature {m : Cose.Sign1} (h : Survives levels m) :
  Survives (levels + 1) (DeviceAuth.signature m)
  := Cbor.Decoder.restores_variant (by decide) rfl (h.map DeviceAuth.signature)

theorem DeviceAuth.survives_mac {m : Cose.Mac0} (h : Survives levels m) :
  Survives (levels + 1) (DeviceAuth.mac m)
  := Cbor.Decoder.restores_variant (by decide) rfl (h.map DeviceAuth.mac)

theorem DeviceSigned.survives (s : DeviceSigned) (h : Survives (levels + 1) s.deviceAuth) :
  Survives (levels + 2) s
  := by
  obtain ⟨namespaces, deviceAuth⟩ := s
  refine Cbor.Decoder.restores_record
    (?gathers : Gathers _ _ _ _ (Draft.mk (some namespaces) (some deviceAuth))) rfl
  case gathers =>
    apply Gathers.required _ (by decide) rfl namespaces.survives
    apply Gathers.required _ (by decide) rfl h
    exact .done _

def ElementErrors.IsProper (errors : ElementErrors) : Prop :=
  ∀ entry ∈ errors.entries, ∀ entry' ∈ entry.2.entries, entry'.2.IsProper

theorem ElementErrors.survives {errors : ElementErrors} (h : errors.IsProper) :
  Survives (levels + 2) errors
  := by
  apply Cbor.Decoder.restores_nonEmptyMap
  intro entry hentry
  apply Cbor.Decoder.restores_nonEmptyMap
  intro entry' hentry'
  exact ErrorCode.survives (h entry hentry entry' hentry')

/-- What a document is made of survives. -/
structure Document.IsReadable (levels : Nat) (d : Document) : Prop where
  issuerAuth : Survives (levels + 3) d.issuerSigned.issuerAuth
  deviceSigned : ∀ deviceSigned ∈ d.deviceSigned, Survives (levels + 4) deviceSigned
  errors : ∀ errors ∈ d.errors, ElementErrors.IsProper errors

theorem Document.survives {d : Document} (h : d.IsReadable levels) :
  Survives (levels + 5) d
  := by
  obtain ⟨docType, issuerSigned, deviceSigned, errors⟩ := d
  refine Cbor.Decoder.restores_record
    (?gathers : Gathers _ _ _ _ (Draft.mk (some docType) (some issuerSigned)
      (deviceSigned.map some) (errors.map some))) ?finish
  case gathers =>
    apply Gathers.required _ (by decide) rfl (Cbor.Decoder.restores_text docType)
    apply Gathers.required _ (by decide) rfl (issuerSigned.survives h.issuerAuth)
    apply Gathers.optional ⟨some docType, some issuerSigned, deviceSigned.map some, none⟩ _
      (by decide) rfl h.deviceSigned
    · exact fun _ => rfl
    · cases deviceSigned with
      | _ => rfl
    · apply Gathers.optional ⟨some docType, some issuerSigned, deviceSigned.map some,
        errors.map some⟩ _ (by decide) rfl
      · exact fun errors herrors => ElementErrors.survives (h.errors errors herrors)
      · exact fun _ => rfl
      · cases errors with
        | _ => rfl
      · exact .done _
  case finish =>
    cases deviceSigned with
    | _ =>
      cases errors with
      | _ => rfl

/-! ### The response -/

/-- What a response is made of survives. -/
structure DeviceResponse.IsReadable (levels : Nat) (r : DeviceResponse) : Prop where
  documents : ∀ documents ∈ r.documents, ∀ d ∈ documents.toList, d.IsReadable levels
  documentErrors : ∀ errors ∈ r.documentErrors, ∀ error ∈ errors.toList,
    ∀ entry ∈ error.entries, entry.2.IsProper

theorem DeviceResponse.survives {r : DeviceResponse} (h : r.IsReadable levels) :
  Survives (levels + 7) r
  := by
  obtain ⟨version, documents, documentErrors, status⟩ := r
  refine Cbor.Decoder.restores_record
    (?gathers : Gathers _ _ _ _ (Draft.mk (some version) (documents.map some)
      (documentErrors.map some) (some status))) ?finish
  case gathers =>
    apply Gathers.required _ (by decide) rfl (Cbor.Decoder.restores_text version)
    apply Gathers.optional ⟨some version, documents.map some, none, none⟩ _ (by decide) rfl
    · intro documents hdocuments
      apply Cbor.Decoder.restores_nonEmptyList
      exact fun d hd => Document.survives (h.documents documents hdocuments d hd)
    · exact fun _ => rfl
    · cases documents with
      | _ => rfl
    · apply Gathers.optional ⟨some version, documents.map some, documentErrors.map some, none⟩ _
        (by decide) rfl
      · intro errors herrors
        apply Cbor.Decoder.restores_nonEmptyList
        intro error herror
        apply Cbor.Decoder.restores_textMap
        intro entry hentry
        exact ErrorCode.survives (h.documentErrors errors herrors error herror entry hentry)
      · exact fun _ => rfl
      · cases documentErrors with
        | _ => rfl
      · apply Gathers.required _ (by decide) rfl status.survives
        exact .done _
  case finish =>
    cases documents with
    | _ =>
      cases documentErrors with
      | _ => rfl

end Presentment
