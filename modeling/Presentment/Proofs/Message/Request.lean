import Presentment.Message.Request
import Presentment.Proofs.Cose.Message
import Presentment.Proofs.Embedded

/-!
# Requests survive

A request is read back from its bytes if the signatures of the reader are, and an items request
if its further information is.
-/

namespace Presentment

open Cbor (Survives)
open Cbor.Decoder (Gathers)

variable {levels : Nat}

theorem RequestedElements.survives (elements : RequestedElements) :
  Survives (levels + 2) elements
  := by
  apply Cbor.Decoder.restores_nonEmptyMap
  intro entry _
  apply Cbor.Decoder.restores_nonEmptyMap
  exact fun entry _ => Cbor.Decoder.restores_bool entry.2

/-- Further information consists of items, which have to survive. -/
theorem ItemsRequest.survives (r : ItemsRequest)
    (h : ∀ info ∈ r.requestInfo, ∀ entry ∈ info.entries, Survives (levels + 1) entry.2) :
  Survives (levels + 3) r
  := by
  obtain ⟨docType, namespaces, requestInfo⟩ := r
  refine Cbor.Decoder.restores_record
    (?gathers : Gathers _ _ _ _ (Draft.mk (some docType) (some namespaces) (requestInfo.map some)))
    ?finish
  case gathers =>
    apply Gathers.required _ (by decide) rfl (Cbor.Decoder.restores_text docType)
    apply Gathers.required _ (by decide) rfl (RequestedElements.survives namespaces)
    apply Gathers.optional ⟨some docType, some namespaces, requestInfo.map some⟩ _ (by decide) rfl
    · exact fun info hinfo => Cbor.Decoder.restores_textMap (h info hinfo)
    · exact fun _ => rfl
    · cases requestInfo with
      | _ => rfl
    · exact .done _
  case finish =>
    cases requestInfo with
    | _ => rfl

theorem DocRequest.survives (m : DocRequest)
    (h : ∀ readerAuth ∈ m.readerAuth, Survives (levels + 1) readerAuth) :
  Survives (levels + 2) m
  := by
  obtain ⟨itemsRequest, readerAuth⟩ := m
  refine Cbor.Decoder.restores_record
    (?gathers : Gathers _ _ _ _ (Draft.mk (some itemsRequest) (readerAuth.map some))) ?finish
  case gathers =>
    apply Gathers.required _ (by decide) rfl itemsRequest.survives
    apply Gathers.optional ⟨some itemsRequest, readerAuth.map some⟩ _ (by decide) rfl h
    · exact fun _ => rfl
    · cases readerAuth with
      | _ => rfl
    · exact .done _
  case finish =>
    cases readerAuth with
    | _ => rfl

theorem DeviceRequest.survives (m : DeviceRequest)
    (h : ∀ doc ∈ m.docRequests.toList, ∀ readerAuth ∈ doc.readerAuth,
      Survives (levels + 1) readerAuth) :
  Survives (levels + 4) m
  := by
  obtain ⟨version, docRequests⟩ := m
  refine Cbor.Decoder.restores_record
    (?gathers : Gathers _ _ _ _ (Draft.mk (some version) (some docRequests))) rfl
  case gathers =>
    have documents : Survives (levels + 3) docRequests :=
      Cbor.Decoder.restores_nonEmptyList (fun doc hdoc => doc.survives (h doc hdoc))
    apply Gathers.required _ (by decide) rfl (Cbor.Decoder.restores_text version)
    apply Gathers.required _ (by decide) rfl documents
    exact .done _

end Presentment
