import Presentment.Disclosure.Response
import Presentment.Proofs.Disclosure.Relation
import Presentment.Proofs.Except

/-!
# Responses

A response returns what the disclosure holds, document by document, and nothing else.  So
what is returned for a narrowed request is found among the valid items of the same request
before it was narrowed.
-/

namespace Presentment

/-- Whether a response returns an element. -/
def DeviceResponse.Returns (response : DeviceResponse) (docType ns identifier : String) : Prop :=
  ∃ documents ∈ response.documents, ∃ document ∈ documents.toList, document.docType = docType
    ∧ ∃ item ∈ document.issuerSigned.items ns, item.content.elementIdentifier = identifier

/-- Whether a summary lists an element. -/
def ItemsByDocument.Lists (items : ItemsByDocument) (docType ns identifier : String) : Prop :=
  ∃ identifiers ∈ items.listed docType ns, identifier ∈ identifiers

namespace Disclosure

/-- A response answers the disclosed documents in order. -/
theorem response_eq_ok_iff {κ : Type} {provider : SecurityProvider κ} {store : CredentialStore}
    {context : Option DeviceAuthContext} {d : Disclosure} {response : DeviceResponse} :
  d.response provider store context = .ok response
    ↔ ∃ documents,
      List.Forall₂
        (fun disclosed document => answer provider store context disclosed = .ok document)
        d.documents documents
      ∧ response = {
          version := DeviceResponse.currentVersion
          documents := NonEmptyList.ofList? documents
          documentErrors := NonEmptyList.ofList? d.documentErrors
          status := .ok }
  := by
  rw [Disclosure.response, Except.bind_eq_ok_iff]
  apply exists_congr
  intro documents
  rw [Except.mapM_eq_ok_iff]
  apply and_congr Iff.rfl
  constructor
  · intro h
    cases h
    rfl
  · rintro rfl
    rfl

theorem answer_eq_ok_iff {κ : Type} {provider : SecurityProvider κ} {store : CredentialStore}
    {context : Option DeviceAuthContext} {disclosed : DisclosedDocument} {document : Document} :
  answer provider store context disclosed = .ok document
    ↔ context.mapM (deviceSigned provider store · disclosed) = .ok document.deviceSigned
      ∧ document.docType = disclosed.docType
      ∧ document.issuerSigned = disclosed.issuerSigned
      ∧ document.errors = disclosed.errors
  := by
  rw [answer, Except.bind_eq_ok_iff]
  constructor
  · rintro ⟨signed, hsigned, h⟩
    cases h
    exact ⟨hsigned, rfl, rfl, rfl⟩
  · rintro ⟨hsigned, hdocType, hissuerSigned, herrors⟩
    use document.deviceSigned, hsigned
    rw [← hdocType, ← hissuerSigned, ← herrors]
    rfl

/-- In a session a document is answered with a proof of its device key. -/
theorem answer_some_eq_ok_iff {κ : Type} {provider : SecurityProvider κ} {store : CredentialStore}
    {context : DeviceAuthContext} {disclosed : DisclosedDocument} {document : Document} :
  answer provider store (some context) disclosed = .ok document
    ↔ ∃ signed, deviceSigned provider store context disclosed = .ok signed
      ∧ document = ⟨disclosed.docType, disclosed.issuerSigned, some signed, disclosed.errors⟩
  := by
  rw [answer, Option.mapM_some, Except.bind_eq_ok_iff]
  constructor
  · rintro ⟨_, hmap, h⟩
    obtain ⟨signed, hsigned, rfl⟩ := Except.map_eq_ok_iff.mp hmap
    cases h
    exact ⟨signed, hsigned, rfl⟩
  · rintro ⟨signed, hsigned, rfl⟩
    exact ⟨some signed, Except.map_eq_ok_iff.mpr ⟨signed, hsigned, rfl⟩, rfl⟩

end Disclosure

/-- What a response returns was disclosed. -/
theorem DeviceResponse.Returns.disclosed {κ : Type} {provider : SecurityProvider κ}
    {store : CredentialStore} {context : Option DeviceAuthContext} {d : Disclosure}
    {response : DeviceResponse} (hresponse : d.response provider store context = .ok response)
    {docType ns identifier : String} (h : response.Returns docType ns identifier) :
  ∃ document ∈ d.documents, document.docType = docType
    ∧ ∃ item ∈ document.issuerSigned.items ns, item.content.elementIdentifier = identifier
  := by
  obtain ⟨documents, hanswers, rfl⟩ := Disclosure.response_eq_ok_iff.mp hresponse
  obtain ⟨nonempty, hnonempty, document, hdocument, rfl, hitem⟩ := h
  rw [NonEmptyList.ofList?_eq_some_iff.mp hnonempty] at hdocument
  obtain ⟨disclosed, hdisclosed, hanswer⟩ := exists_of_mem_of_forall₂ hanswers hdocument
  obtain ⟨-, hdocType, hissuerSigned, -⟩ := Disclosure.answer_eq_ok_iff.mp hanswer
  rw [hissuerSigned] at hitem
  exact ⟨disclosed, hdisclosed, hdocType.symm, hitem⟩

namespace Disclosure

/-- What is returned for a narrowed request is what the selection leaves of the whole. -/
theorem mem_returned_iff {requests : List ItemsRequest} {selection : Option Selection}
    {c : Credential} {docType ns : String} {item : Embedded IssuerSignedItem} :
  item ∈ returned requests selection c docType ns
    ↔ item ∈ returned requests none c docType ns
      ∧ ∀ s ∈ selection, item.content.elementIdentifier ∈ s.chosen docType ns
  := by
  simp [returned, IsReturned, and_assoc]

/-- The items of a document are those that it is looked up to hold. -/
theorem items_eq_of_find? {issuerSigned : IssuerSigned} {namespaces : IssuerNamespaces}
    (hnamespaces : issuerSigned.namespaces = some namespaces) {ns : String}
    {items : List (Embedded IssuerSignedItem)}
    (hfind : (namespaces.find? ns).map (·.toList) = nonEmpty? items) :
  issuerSigned.items ns = items
  := by
  rw [IssuerSigned.items, hnamespaces, Option.bind_some]
  cases hitems : namespaces.find? ns with
  | none =>
    rw [hitems, Option.map_none, eq_comm] at hfind
    exact (nonEmpty?_eq_none_iff.mp hfind).symm
  | some found =>
    rw [hitems, Option.map_some, eq_comm, nonEmpty?_eq_some_iff] at hfind
    exact hfind.1.symm

/-- A document holds what the first credential of its type returns. -/
theorem filter_document_items {store : CredentialStore} {requests : List ItemsRequest}
    {selection : Option Selection} {document : DisclosedDocument}
    (h : document ∈ (filter store (.verifier requests selection)).documents) :
  ∃ c, store.IsFirst document.docType c ∧ document.documentId = c.id
    ∧ ∀ ns, document.issuerSigned.items ns
      = returned requests selection c document.docType ns
  := by
  obtain ⟨c, first, id_eq, -, namespaces, hnamespaces, hfind⟩ :=
    filter_document_eq store requests selection h
  exact ⟨c, first, id_eq, fun ns => items_eq_of_find? hnamespaces (hfind ns)⟩

/-- What is returned for a narrowed request is listed for the whole request, and chosen. -/
theorem listed_of_mem_filter {store : CredentialStore} {requests : List ItemsRequest}
    {selection : Option Selection} {document : DisclosedDocument}
    (hdocument : document ∈ (filter store (.verifier requests selection)).documents) {ns : String}
    {item : Embedded IssuerSignedItem} (hitem : item ∈ document.issuerSigned.items ns) :
  (filter store (.verifier requests none)).validItems.Lists document.docType ns
      item.content.elementIdentifier
    ∧ ∀ s ∈ selection, item.content.elementIdentifier ∈ s.chosen document.docType ns
  := by
  obtain ⟨c, first, -, items_eq⟩ := filter_document_items hdocument
  rw [items_eq] at hitem
  obtain ⟨hwhole, hchosen⟩ := mem_returned_iff.mp hitem
  apply And.intro _ hchosen
  use (returned requests none c document.docType ns).map (·.content.elementIdentifier)
  constructor
  · rw [filter_validItems_listed store requests none first, Option.mem_def, nonEmpty?_eq_some_iff]
    use rfl
    intro empty
    rw [List.map_eq_nil_iff.mp empty] at hwhole
    cases hwhole
  · exact List.mem_map_of_mem hwhole

/-- What is listed was asked for, whether it is held or not. -/
theorem mem_asked_of_lists {store : CredentialStore} {requests : List ItemsRequest}
    {selection : Option Selection} {docType ns identifier : String}
    (h : (filter store (.verifier requests selection)).validItems.Lists docType ns identifier
      ∨ (filter store (.verifier requests selection)).errorItems.Lists docType ns identifier) :
  identifier ∈ asked requests docType ns
  := by
  cases hfirst : store.firstOfType? docType with
  | some c =>
    have first := firstOfType?_eq_some_iff.mp hfirst
    rcases h with ⟨identifiers, hlisted, hmem⟩ | ⟨identifiers, hlisted, hmem⟩
    · rw [filter_validItems_listed store requests selection first, Option.mem_def,
        nonEmpty?_eq_some_iff] at hlisted
      rw [← hlisted.1, List.mem_map] at hmem
      obtain ⟨item, hitem, rfl⟩ := hmem
      exact (of_decide_eq_true (List.mem_filter.mp hitem).2).1
    · rw [filter_errorItems_of_isFirst store requests selection first, Option.mem_def,
        nonEmpty?_eq_some_iff, unheld] at hlisted
      rw [← hlisted.1] at hmem
      split at hmem
      · exact hmem
      · exact (List.mem_filter.mp hmem).1
  | none =>
    rcases h with ⟨identifiers, hlisted, hmem⟩ | ⟨identifiers, hlisted, hmem⟩
    · have unfound : (filter store (.verifier requests selection)).validItems.find? docType
          = none := by
        rw [filter_validItems, Target.document?, verifierTarget, hfirst]
        rfl
      rw [ItemsByDocument.listed, unfound] at hlisted
      cases hlisted
    · rw [filter_errorItems_of_unheld store requests selection
        (firstOfType?_eq_none_iff.mp hfirst), Option.mem_def, nonEmpty?_eq_some_iff] at hlisted
      rw [hlisted.1]
      exact hmem

end Disclosure

end Presentment
