import Presentment.Proofs.Disclosure.Signing
import Presentment.Proofs.Message.Response
import Presentment.Security.Iso

/-!
# Responses of a holder

The standard provider proves device keys with messages that name their algorithm, and these are
read back from their bytes.  So a response is read back if its disclosure is, and as `filter`
reports nothing but data that was not returned, what it discloses is read back if the signatures
of the issuers are.
-/

namespace Presentment

open Cbor (Survives)

variable {levels : Nat}

/-- The signatures of the issuers are read back from their bytes. -/
def CredentialStore.IsReadable (levels : Nat) (store : CredentialStore) : Prop :=
  ∀ c ∈ store.toList, Survives (levels + 3) c.issuerSigned.issuerAuth

/-! ### Errors -/

namespace Disclosure

theorem elementErrors_isProper {missing : TextMap (List RequestItem)} {errors : ElementErrors}
    (h : elementErrors missing = some errors) :
  errors.IsProper
  := by
  intro entry hentry entry' hentry'
  rw [NonEmptyMap.entries, NonEmptyMap.ofMap?_eq_some_iff.mp h] at hentry
  obtain ⟨⟨ns, items⟩, -, hfound⟩ := List.mem_filterMap.mp hentry
  obtain ⟨found, hcodes, rfl⟩ := Option.map_eq_some_iff.mp hfound
  rw [NonEmptyMap.entries, NonEmptyMap.ofMap?_eq_some_iff.mp hcodes] at hentry'
  obtain ⟨item, -, rfl⟩ := List.mem_map.mp (TextMap.mem_ofList hentry')
  exact ErrorCode.isProper_dataNotReturned

theorem documentError_isProper (docType : String) :
  ∀ entry ∈ (documentError docType).entries, entry.2.IsProper
  := by
  intro entry hentry
  rw [List.mem_singleton.mp (TextMap.mem_ofList hentry)]
  exact ErrorCode.isProper_dataNotReturned

/-- The signatures and the error codes in a disclosure are read back from their bytes. -/
structure IsReadable (levels : Nat) (d : Disclosure) : Prop where
  issuerAuth : ∀ document ∈ d.documents, Survives (levels + 3) document.issuerSigned.issuerAuth
  errors : ∀ document ∈ d.documents, ∀ errors ∈ document.errors, ElementErrors.IsProper errors
  documentErrors : ∀ error ∈ d.documentErrors, ∀ entry ∈ error.entries, entry.2.IsProper

variable {store : CredentialStore} {requests : List ItemsRequest} {selection : Option Selection}

theorem filter_errors_isProper {document : DisclosedDocument}
    (h : document ∈ (filter store (.verifier requests selection)).documents) :
  ∀ errors ∈ document.errors, ElementErrors.IsProper errors
  := by
  obtain ⟨-, hdocument⟩ := (mem_filter_documents_iff ..).mp h
  obtain ⟨c, -, hdocument⟩ := Option.bind_eq_some_iff.mp hdocument
  obtain ⟨namespaces, -, hdocument⟩ := Option.bind_eq_some_iff.mp hdocument
  have errors_eq := congrArg DisclosedDocument.errors (Option.some.inj hdocument)
  rw [← errors_eq]
  exact fun errors herrors => elementErrors_isProper herrors

theorem filter_documentErrors_isProper :
  ∀ error ∈ (filter store (.verifier requests selection)).documentErrors,
    ∀ entry ∈ error.entries, entry.2.IsProper
  := by
  intro error herror
  rw [filter_documentErrors] at herror
  obtain ⟨docType, -, rfl⟩ := List.mem_map.mp herror
  exact documentError_isProper docType

/-- What is disclosed to a reader is read back if the signatures of the issuers are. -/
theorem isReadable_filter (readable : store.IsReadable levels) (requests : List ItemsRequest)
    (selection : Option Selection) :
  (filter store (.verifier requests selection)).IsReadable levels
  := by
  constructor
  case issuerAuth =>
    intro document hdocument
    obtain ⟨c, first, -, issuerAuth_eq, -⟩ := filter_document_eq store requests selection hdocument
    rw [issuerAuth_eq]
    exact readable c first.mem
  case errors => exact fun _ hdocument => filter_errors_isProper hdocument
  case documentErrors => exact filter_documentErrors_isProper

end Disclosure

/-! ### Proofs of device keys -/

namespace Iso

/-- Both kinds of proofs are read back from their bytes. -/
theorem survives_deviceAuth {suite : CipherSuite} {request : DeviceAuthRequest} {auth : DeviceAuth}
    (h : deviceAuth suite request = .ok auth) :
  Survives (levels + 3) auth
  := by
  have unprotected : Survives (levels + 1) Cose.Header.empty.toValue :=
    Cbor.survives_map (fun _ h => absurd h List.not_mem_nil)
  obtain ⟨payload, -, h⟩ := Except.bind_eq_ok_iff.mp h
  cases hmethod : request.method with
  | signature =>
    rw [hmethod] at h
    cases h
    apply DeviceAuth.survives_signature
    apply Cose.Message.IsReadable.survives
    exact Cose.Message.isReadable_detached rfl rfl (by decide) Cose.Header.ofValue_empty unprotected
  | mac =>
    rw [hmethod] at h
    dsimp only at h
    split at h
    · cases h
    · cases h
      apply DeviceAuth.survives_mac
      apply Cose.Message.IsReadable.survives
      exact Cose.Message.isReadable_detached rfl rfl (by decide) Cose.Header.ofValue_empty unprotected

end Iso

namespace Disclosure

variable {suite : CipherSuite} {now : Nat} {store : CredentialStore}

theorem survives_deviceSigned {context : DeviceAuthContext} {document : DisclosedDocument}
    {signed : DeviceSigned}
    (h : deviceSigned (Iso.provider suite now) store context document = .ok signed) :
  Survives (levels + 4) signed
  := by
  obtain ⟨asked, -⟩ := deviceSigned_eq_ok_iff.mp h
  obtain ⟨c, -, made⟩ := Option.map_eq_some_iff.mp asked
  apply DeviceSigned.survives
  exact Iso.survives_deviceAuth made

/-- The response for a disclosure is read back from its bytes if the disclosure is. -/
theorem IsReadable.response {d : Disclosure} {context : DeviceAuthContext}
    {response : DeviceResponse} (readable : d.IsReadable levels)
    (h : d.response (Iso.provider suite now) store (some context) = .ok response) :
  response.IsReadable levels
  := by
  obtain ⟨documents, hanswers, rfl⟩ := response_eq_ok_iff.mp h
  constructor
  case documents =>
    intro nonempty hnonempty document hdocument
    rw [NonEmptyList.ofList?_eq_some_iff.mp hnonempty] at hdocument
    obtain ⟨disclosed, hdisclosed, hanswer⟩ := exists_of_mem_of_forall₂ hanswers hdocument
    obtain ⟨signed, hsigned, rfl⟩ := answer_some_eq_ok_iff.mp hanswer
    constructor
    case issuerAuth => exact readable.issuerAuth disclosed hdisclosed
    case deviceSigned =>
      rintro _ ⟨⟩
      exact survives_deviceSigned hsigned
    case errors => exact readable.errors disclosed hdisclosed
  case documentErrors =>
    intro errors herrors error herror
    rw [NonEmptyList.ofList?_eq_some_iff.mp herrors] at herror
    exact readable.documentErrors error herror

end Disclosure

end Presentment
