import Mathlib.Data.List.Count
import Presentment.Proofs.Disclosure.Returned

/-!
# The selective-disclosure relation

`IsSelective` says which disclosures answer the items requests of a reader: every document
type that is asked for leads to a single outcome, and every list in it is described element
by element.  `filter_isSelective` says that filtering computes such a disclosure.
-/

namespace Presentment

/-- The identifiers that a summary lists in a namespace of a document. -/
def ItemsByDocument.listed (items : ItemsByDocument) (docType ns : String) :
    Option (List String) :=
  ((items.find? docType).bind (·.find? ns)).map (·.map (·.elementIdentifier))

namespace Disclosure

/-- The disclosures that answer items requests, perhaps narrowed by a selection. -/
structure IsSelective (store : CredentialStore) (requests : List ItemsRequest)
    (selection : Option Selection) (d : Disclosure) : Prop where
  /-- A document type that is asked for leads to one document or one error, and no other one
  leads to anything. -/
  outcome : ∀ docType,
    d.documents.countP (·.docType == docType) + d.documentErrors.count (documentError docType)
      = if docType ∈ requests.map (·.docType) then 1 else 0
  error : ∀ e ∈ d.documentErrors, ∃ docType, e = documentError docType
  /-- The outcome is a document if the first credential holds something to return. -/
  document_iff : ∀ docType,
    (∃ document ∈ d.documents, document.docType = docType)
      ↔ ∃ c, store.IsFirst docType c ∧ ∃ ns, ∃ item ∈ c.issuerSigned.items ns,
        IsReturned requests selection docType ns (c.issuerSigned.items ns)
          item.content.elementIdentifier
  /-- A document holds what is to be returned, namespace by namespace. -/
  document_eq : ∀ document ∈ d.documents, ∃ c, store.IsFirst document.docType c
    ∧ document.documentId = c.id
    ∧ document.issuerSigned.issuerAuth = c.issuerSigned.issuerAuth
    ∧ ∃ namespaces, document.issuerSigned.namespaces = some namespaces
      ∧ ∀ ns, (namespaces.find? ns).map (·.toList)
          = nonEmpty? (returned requests selection c document.docType ns)
  validItems_iff : ∀ docType,
    (d.validItems.find? docType).isSome ↔ ∃ document ∈ d.documents, document.docType = docType
  validItems_eq : ∀ docType c, store.IsFirst docType c → ∀ ns,
    d.validItems.listed docType ns
      = nonEmpty? ((returned requests selection c docType ns).map (·.content.elementIdentifier))
  errorItems_eq : ∀ docType c, store.IsFirst docType c → ∀ ns,
    d.errorItems.listed docType ns = nonEmpty? (unheld requests c docType ns)
  errorItems_eq_asked : ∀ docType, (∀ c ∈ store.toList, c.docType ≠ docType) → ∀ ns,
    d.errorItems.listed docType ns = nonEmpty? (asked requests docType ns)
  /-- A document type is listed only if some element of it is. -/
  errorItems_listed : ∀ docType, (d.errorItems.find? docType).isSome →
    ∃ ns, (d.errorItems.listed docType ns).isSome

/-! ### The whole disclosure -/

theorem documentError_injective :
  Function.Injective documentError
  := by
  intro docType docType' h
  have keys : [docType] = [docType'] := congrArg TextMap.keys h
  exact List.head_eq_of_cons_eq keys

section

variable (store : CredentialStore) (requests : List ItemsRequest) (selection : Option Selection)

theorem filter_documents :
  (filter store (.verifier requests selection)).documents
    = (askedTypes requests).filterMap
        (fun docType => (verifierTarget store requests selection docType).document?)
  := by
  rw [filter, targets_verifier, foldl_disclose_documents, List.filterMap_map]
  rfl

/-- The documents are those of the types that lead to one, in the order of the requests. -/
theorem filter_documents_docType :
  (filter store (.verifier requests selection)).documents.map (·.docType)
    = (askedTypes requests).filter
        (fun docType => (verifierTarget store requests selection docType).document?.isSome)
  := by
  rw [filter_documents]
  induction askedTypes requests with
  | nil => rfl
  | cons docType docTypes ih =>
    rw [List.filterMap_cons, List.filter_cons]
    cases h : (verifierTarget store requests selection docType).document? with
    | none => simpa using ih
    | some document => simpa [(of_target_document?_eq_some h).1] using ih

theorem filter_documentErrors :
  (filter store (.verifier requests selection)).documentErrors
    = ((askedTypes requests).filter
        (fun docType => (verifierTarget store requests selection docType).document?.isNone)).map
        documentError
  := by
  rw [filter, targets_verifier, foldl_disclose_documentErrors, List.filter_map, List.map_map]
  apply List.map_congr_left
  intro docType _
  apply target_error

theorem mem_filter_documents_iff {document : DisclosedDocument} :
  document ∈ (filter store (.verifier requests selection)).documents
    ↔ document.docType ∈ askedTypes requests
      ∧ (verifierTarget store requests selection document.docType).document? = some document
  := by
  rw [filter_documents, List.mem_filterMap]
  constructor
  · rintro ⟨docType, hmem, h⟩
    obtain ⟨rfl, -⟩ := of_target_document?_eq_some h
    use hmem
  · rintro ⟨hmem, h⟩
    use document.docType

/-- Only a document type that is asked for leads to a document. -/
theorem mem_askedTypes_of_document? {docType : String}
    (h : (verifierTarget store requests selection docType).document?.isSome) :
  docType ∈ askedTypes requests
  := by
  obtain ⟨c, -, ns, hns⟩ := target_document?_isSome_iff.mp h
  by_contra hnot
  apply hns
  apply returned_eq_nil
  rw [askedNamespaces_eq_nil hnot]
  exact List.not_mem_nil

theorem exists_document_iff {docType : String} :
  (∃ document ∈ (filter store (.verifier requests selection)).documents,
      document.docType = docType)
    ↔ (verifierTarget store requests selection docType).document?.isSome
  := by
  constructor
  · rintro ⟨document, hmem, rfl⟩
    rw [((mem_filter_documents_iff ..).mp hmem).2]
    rfl
  · intro h
    obtain ⟨document, hdocument⟩ := Option.isSome_iff_exists.mp h
    obtain ⟨rfl, -⟩ := of_target_document?_eq_some hdocument
    use document
    constructor
    · apply (mem_filter_documents_iff ..).mpr
      use mem_askedTypes_of_document? store requests selection h
    · rfl

theorem filter_validItems (docType : String) :
  (filter store (.verifier requests selection)).validItems.find? docType
    = if (verifierTarget store requests selection docType).document?.isSome then
        some (verifierTarget store requests selection docType).valid
      else none
  := by
  rw [filter, targets_verifier, foldl_disclose_validItems (fun _ => rfl)]
  have asked : (verifierTarget store requests selection docType).document?.isSome →
      docType ∈ askedTypes requests := mem_askedTypes_of_document? store requests selection
  split
  · rename_i h
    rw [if_pos h.2]
  · rename_i h
    rw [if_neg (fun some => h ⟨asked some, some⟩)]
    rfl

theorem filter_errorItems (docType : String) :
  (filter store (.verifier requests selection)).errorItems.find? docType
    = if docType ∈ askedTypes requests
        ∧ (verifierTarget store requests selection docType).missing.isEmpty = false then
        some (verifierTarget store requests selection docType).missing
      else none
  := by
  rw [filter, targets_verifier, foldl_disclose_errorItems (fun _ => rfl)]
  rfl

theorem filter_documentNames (docType : String) :
  (filter store (.verifier requests selection)).documentNames.find? docType
    = if docType ∈ askedTypes requests then
        (store.firstOfType? docType).bind (·.displayName)
      else none
  := by
  rw [filter, targets_verifier, foldl_disclose_documentNames (fun _ => rfl)]
  exact if_congr Iff.rfl (Option.or_none ..) rfl

theorem count_documents (docType : String) :
  (filter store (.verifier requests selection)).documents.countP (·.docType == docType)
    = if docType ∈ askedTypes requests
        ∧ (verifierTarget store requests selection docType).document?.isSome then 1 else 0
  := by
  have asDocTypes : (filter store (.verifier requests selection)).documents.countP
      (·.docType == docType) = ((filter store (.verifier requests selection)).documents.map
        (·.docType)).count docType := by
    rw [List.count_eq_countP, List.countP_map]
    rfl
  rw [asDocTypes, filter_documents_docType, ((nodup_askedTypes requests).filter _).count]
  simp only [List.mem_filter]

theorem count_documentErrors (docType : String) :
  (filter store (.verifier requests selection)).documentErrors.count (documentError docType)
    = if docType ∈ askedTypes requests
        ∧ (verifierTarget store requests selection docType).document?.isNone then 1 else 0
  := by
  rw [filter_documentErrors, List.count_map_of_injective _ _ documentError_injective,
    ((nodup_askedTypes requests).filter _).count]
  simp only [List.mem_filter]

/-- What the summary of missing items lists under a document type. -/
theorem filter_errorItems_listed (docType ns : String) :
  (filter store (.verifier requests selection)).errorItems.listed docType ns
    = if docType ∈ askedTypes requests then
        ((verifierTarget store requests selection docType).missing.find? ns).map
          (·.map (·.elementIdentifier))
      else none
  := by
  rw [ItemsByDocument.listed, filter_errorItems]
  by_cases hasked : docType ∈ askedTypes requests
  · cases hempty : (verifierTarget store requests selection docType).missing.isEmpty with
    | false => simp [hasked]
    | true => simp [hasked, TextMap.isEmpty_iff.mp hempty]
  · simp [hasked]

/-- A document holds what its credential returns. -/
theorem filter_document_eq {document : DisclosedDocument}
    (h : document ∈ (filter store (.verifier requests selection)).documents) :
  ∃ c, store.IsFirst document.docType c
    ∧ document.documentId = c.id
    ∧ document.issuerSigned.issuerAuth = c.issuerSigned.issuerAuth
    ∧ ∃ namespaces, document.issuerSigned.namespaces = some namespaces
      ∧ ∀ ns, (namespaces.find? ns).map (·.toList)
          = nonEmpty? (returned requests selection c document.docType ns)
  := by
  obtain ⟨-, hdocument⟩ := (mem_filter_documents_iff ..).mp h
  exact (of_target_document?_eq_some hdocument).2

/-- What the summary of valid items lists is what is returned. -/
theorem filter_validItems_listed {docType : String} {c : Credential}
    (first : store.IsFirst docType c) (ns : String) :
  (filter store (.verifier requests selection)).validItems.listed docType ns
    = nonEmpty? ((returned requests selection c docType ns).map (·.content.elementIdentifier))
  := by
  rw [ItemsByDocument.listed, filter_validItems]
  split
  · rw [Option.bind_some, find?_valid_of_isFirst first, map_nonEmpty?, List.map_map]
    simp [Function.comp_def, elementIdentifier_shownItem]
  · rename_i h
    rw [target_document?_of_isFirst first, document?_isSome_iff, not_exists] at h
    rw [not_ne_iff.mp (h ns)]
    rfl

/-- What the summary of missing items lists is what the first credential does not hold. -/
theorem filter_errorItems_of_isFirst {docType : String} {c : Credential}
    (first : store.IsFirst docType c) (ns : String) :
  (filter store (.verifier requests selection)).errorItems.listed docType ns
    = nonEmpty? (unheld requests c docType ns)
  := by
  rw [filter_errorItems_listed, find?_missing_of_isFirst first, map_nonEmpty?,
    map_elementIdentifier (elementIdentifier_shownItem requests docType c ns)]
  split
  · rfl
  · rename_i h
    rw [unheld_eq_nil]
    · rfl
    · rw [askedNamespaces_eq_nil h]
      exact List.not_mem_nil

/-- Without a credential the summary of missing items lists everything that is asked for. -/
theorem filter_errorItems_of_unheld {docType : String}
    (unheld : ∀ c ∈ store.toList, c.docType ≠ docType) (ns : String) :
  (filter store (.verifier requests selection)).errorItems.listed docType ns
    = nonEmpty? (asked requests docType ns)
  := by
  rw [filter_errorItems_listed, find?_missing_of_none (firstOfType?_eq_none_iff.mpr unheld),
    map_nonEmpty?, map_elementIdentifier (fun _ => rfl)]
  split
  · rfl
  · rename_i h
    rw [asked_eq_nil]
    · rfl
    · rw [askedNamespaces_eq_nil h]
      exact List.not_mem_nil

/-- Filtering for a reader discloses selectively. -/
theorem filter_isSelective :
  IsSelective store requests selection (filter store (.verifier requests selection))
  := by
  have mem_askedTypes {docType : String} :
      docType ∈ requests.map (·.docType) ↔ docType ∈ askedTypes requests :=
    List.mem_eraseDups.symm
  constructor
  case outcome =>
    intro docType
    rw [count_documents, count_documentErrors]
    simp only [mem_askedTypes]
    cases (verifierTarget store requests selection docType).document? with
    | none => simp
    | some document => simp
  case error =>
    intro e he
    rw [filter_documentErrors, List.mem_map] at he
    obtain ⟨docType, -, rfl⟩ := he
    use docType
  case document_iff =>
    intro docType
    rw [exists_document_iff, target_document?_isSome_iff]
    simp only [returned_ne_nil_iff]
  case document_eq =>
    intro document hdocument
    exact filter_document_eq store requests selection hdocument
  case validItems_iff =>
    intro docType
    rw [exists_document_iff, filter_validItems]
    split
    · rename_i h
      simp [h]
    · rename_i h
      simp [h]
  case validItems_eq =>
    intro docType c first ns
    exact filter_validItems_listed store requests selection first ns
  case errorItems_eq =>
    intro docType c first ns
    exact filter_errorItems_of_isFirst store requests selection first ns
  case errorItems_eq_asked =>
    intro docType unheld ns
    exact filter_errorItems_of_unheld store requests selection unheld ns
  case errorItems_listed =>
    intro docType h
    rw [filter_errorItems] at h
    split at h
    · rename_i hasked
      obtain ⟨ns, hns⟩ := TextMap.isEmpty_eq_false_iff.mp hasked.2
      use ns
      rw [filter_errorItems_listed, if_pos hasked.1, Option.isSome_map]
      exact hns
    · cases h

end

end Disclosure

end Presentment
