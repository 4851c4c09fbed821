import Presentment.Proofs.Disclosure.Age
import Presentment.Proofs.Disclosure.Relation

/-!
# The union of requests

A reader may cut its request into pieces, repeat them and send them in any order.  As long as
no two identifiers of a namespace speak of the same age, only the union counts: which elements
are asked for, and which of them some request intends to retain.
-/

namespace Presentment.Disclosure

/-! ### What is asked for -/

/-- An element of a namespace of a document type. -/
structure AskedElement where
  docType : String
  ns : String
  identifier : String
  deriving DecidableEq

/-- Every mention of an element, with the intent to retain it. -/
def allMentions (requests : List ItemsRequest) : List (AskedElement × Bool) :=
  requests.flatMap (fun request => request.namespaces.entries.flatMap (fun entry =>
    entry.2.entries.map (fun mention => (⟨request.docType, entry.1, mention.1⟩, mention.2))))

/-- The elements that are asked for. -/
def named (requests : List ItemsRequest) : List AskedElement :=
  (allMentions requests).map (·.1)

/-- The elements that some request intends to retain. -/
def retained (requests : List ItemsRequest) : List AskedElement :=
  ((allMentions requests).filter (·.2)).map (·.1)

/-- Requests that ask for the same elements, and intend to retain the same. -/
structure HaveSameUnion (requests requests' : List ItemsRequest) : Prop where
  named_iff : ∀ element, element ∈ named requests ↔ element ∈ named requests'
  retained_iff : ∀ element, element ∈ retained requests ↔ element ∈ retained requests'

/-- No two identifiers that are asked for in a namespace speak of the same age. -/
def AgesDiffer (requests : List ItemsRequest) : Prop :=
  ∀ a ∈ named requests, ∀ b ∈ named requests, a.docType = b.docType → a.ns = b.ns →
    (AgeAttestation.age? a.identifier).isSome →
      AgeAttestation.age? a.identifier = AgeAttestation.age? b.identifier →
        a.identifier = b.identifier

/-- Disclosures with the same content: documents, errors and missing items may stand in another
order. -/
structure IsReordering (d d' : Disclosure) : Prop where
  validItems_eq : d.validItems = d'.validItems
  documentNames_eq : d.documentNames = d'.documentNames
  documents_perm : d.documents.Perm d'.documents
  documentErrors_perm : d.documentErrors.Perm d'.documentErrors
  errorItems : ∀ docType,
    Option.Rel (fun namespaces namespaces' => ∀ ns,
        Option.Rel List.Perm (namespaces.find? ns) (namespaces'.find? ns))
      (d.errorItems.find? docType) (d'.errorItems.find? docType)

section

variable {requests requests' : List ItemsRequest} {docType ns identifier : String}

theorem mem_allMentions_iff {retain : Bool} :
  (⟨docType, ns, identifier⟩, retain) ∈ allMentions requests
    ↔ (identifier, retain) ∈ mentions requests docType ns
  := by
  rw [mem_mentions_iff]
  simp only [allMentions, List.mem_flatMap, List.mem_map, Prod.mk.injEq, AskedElement.mk.injEq]
  constructor
  · rintro ⟨request, hrequest, entry, hentry, mention, hmention, ⟨rfl, rfl, rfl⟩, rfl⟩
    exact ⟨request, hrequest, rfl, entry.2, hentry, hmention⟩
  · rintro ⟨request, hrequest, rfl, elements, hentry, hmention⟩
    exact ⟨request, hrequest, (ns, elements), hentry, (identifier, retain), hmention,
      ⟨rfl, rfl, rfl⟩, rfl⟩

theorem mem_asked_iff_named :
  identifier ∈ asked requests docType ns ↔ ⟨docType, ns, identifier⟩ ∈ named requests
  := by
  rw [asked, List.mem_eraseDups, named, List.mem_map, List.mem_map]
  constructor
  · rintro ⟨⟨_, retain⟩, hmention, rfl⟩
    exact ⟨_, mem_allMentions_iff.mpr hmention, rfl⟩
  · rintro ⟨⟨_, retain⟩, hmention, rfl⟩
    exact ⟨_, mem_allMentions_iff.mp hmention, rfl⟩

/-- An element is retained if some mention of it says so. -/
theorem any_mentions_eq :
  (mentions requests docType ns).any (fun mention => mention.1 == identifier && mention.2)
    = decide (⟨docType, ns, identifier⟩ ∈ retained requests)
  := by
  rw [Bool.eq_iff_iff, decide_eq_true_eq, List.any_eq_true, retained, List.mem_map]
  constructor
  · rintro ⟨⟨_, _⟩, hmention, h⟩
    obtain ⟨rfl, rfl⟩ := by simpa using h
    exact ⟨_, List.mem_filter.mpr ⟨mem_allMentions_iff.mpr hmention, rfl⟩, rfl⟩
  · rintro ⟨⟨_, retain⟩, h, rfl⟩
    obtain ⟨hmention, hretain⟩ := List.mem_filter.mp h
    exact ⟨_, mem_allMentions_iff.mp hmention, by simpa using hretain⟩

/-- A document type is asked for if an element of it is. -/
theorem mem_askedTypes_iff :
  docType ∈ askedTypes requests ↔ ∃ element ∈ named requests, element.docType = docType
  := by
  rw [askedTypes, List.mem_eraseDups, List.mem_map]
  constructor
  · rintro ⟨request, hrequest, rfl⟩
    obtain ⟨⟨ns, elements⟩, hentry⟩ := request.namespaces.exists_mem_entries
    obtain ⟨⟨identifier, retain⟩, hmention⟩ := elements.exists_mem_entries
    use ⟨request.docType, ns, identifier⟩
    constructor
    · rw [← mem_asked_iff_named, mem_asked_iff]
      exact ⟨request, hrequest, rfl, elements, retain, hentry, hmention⟩
    · rfl
  · rintro ⟨⟨docType, ns, identifier⟩, hnamed, rfl⟩
    obtain ⟨request, hrequest, docType_eq, -⟩ := mem_asked_iff.mp (mem_asked_iff_named.mpr hnamed)
    exact ⟨request, hrequest, docType_eq⟩

end

/-! ### Requests with the same union -/

namespace HaveSameUnion

variable {requests requests' : List ItemsRequest} (same : HaveSameUnion requests requests')
include same

theorem askedTypes_perm :
  (askedTypes requests).Perm (askedTypes requests')
  := by
  rw [List.perm_ext_iff_of_nodup (nodup_askedTypes requests) (nodup_askedTypes requests')]
  intro docType
  rw [mem_askedTypes_iff, mem_askedTypes_iff]
  simp only [same.named_iff]

theorem asked_perm (docType ns : String) :
  (asked requests docType ns).Perm (asked requests' docType ns)
  := by
  rw [asked, asked, List.perm_ext_iff_of_nodup (nodup_eraseDups _) (nodup_eraseDups _)]
  intro identifier
  exact mem_asked_iff_named.trans ((same.named_iff _).trans mem_asked_iff_named.symm)

theorem askedItem_eq (docType ns : String) :
  askedItem (mentions requests docType ns) = askedItem (mentions requests' docType ns)
  := by
  funext identifier
  rw [askedItem, askedItem, any_mentions_eq, any_mentions_eq]
  simp only [same.retained_iff]

theorem shownItem_eq (docType : String) (c : Credential) (ns : String) :
  shownItem requests docType c ns = shownItem requests' docType c ns
  := by
  funext identifier
  rw [shownItem, shownItem, same.askedItem_eq]

variable (differ : AgesDiffer requests)
include differ

theorem superseded_perm (docType ns : String) (held : List (Embedded IssuerSignedItem)) :
  (AgeAttestation.superseded (asked requests docType ns) held).Perm
    (AgeAttestation.superseded (asked requests' docType ns) held)
  := by
  apply AgeAttestation.superseded_perm (same.asked_perm docType ns)
  intro a ha b hb isAge age_eq
  exact differ _ (mem_asked_iff_named.mp ha) _ (mem_asked_iff_named.mp hb) rfl rfl isAge age_eq

theorem returned_eq (selection : Option Selection) (c : Credential) (docType ns : String) :
  returned requests selection c docType ns = returned requests' selection c docType ns
  := by
  apply List.filter_congr
  intro item _
  rw [decide_eq_decide, IsReturned, IsReturned, (same.asked_perm docType ns).mem_iff,
    (same.superseded_perm differ docType ns _).mem_iff]

theorem unheld_perm (c : Credential) (docType ns : String) :
  (unheld requests c docType ns).Perm (unheld requests' c docType ns)
  := by
  rw [unheld, unheld]
  split
  · exact same.asked_perm docType ns
  · simp only [(same.superseded_perm differ docType ns _).mem_iff]
    exact (same.asked_perm docType ns).filter _

end HaveSameUnion

/-! ### The same up to order -/

theorem rel_nonEmpty? {α : Type} {as bs : List α} (perm : as.Perm bs) :
  Option.Rel List.Perm (nonEmpty? as) (nonEmpty? bs)
  := by
  cases as with
  | nil =>
    rw [← perm.nil_eq]
    exact .none
  | cons a as =>
    cases bs with
    | nil => cases perm.eq_nil
    | cons b bs => exact .some perm

/-- Error codes are listed by element, whatever the order of the elements is. -/
theorem ofList_codes_eq {items items' : List RequestItem} (perm : items.Perm items') :
  TextMap.ofList (items.map (fun item => (item.elementIdentifier, ErrorCode.dataNotReturned)))
    = TextMap.ofList
      (items'.map (fun item => (item.elementIdentifier, ErrorCode.dataNotReturned)))
  := by
  have codes (items : List RequestItem) :
      items.map (fun item => (item.elementIdentifier, ErrorCode.dataNotReturned))
        = (items.map (·.elementIdentifier)).map (·, ErrorCode.dataNotReturned) := by
    rw [List.map_map]
    rfl
  apply TextMap.ext_find?
  intro identifier
  rw [codes, codes, TextMap.find?_ofList_const, TextMap.find?_ofList_const]
  exact if_congr (perm.map _).mem_iff rfl rfl

theorem elementErrors_eq {missing missing' : TextMap (List RequestItem)}
    (rel : ∀ ns, Option.Rel List.Perm (missing.find? ns) (missing'.find? ns)) :
  elementErrors missing = elementErrors missing'
  := by
  rw [elementErrors, elementErrors]
  congr 1
  apply TextMap.ext_find?
  intro ns
  rw [TextMap.find?_filterMap, TextMap.find?_filterMap]
  have found := rel ns
  generalize missing.find? ns = items at found ⊢
  generalize missing'.find? ns = items' at found ⊢
  cases found with
  | none => rfl
  | some perm => rw [Option.bind_some, Option.bind_some, ofList_codes_eq perm]

theorem isEmpty_eq_of_rel {missing missing' : TextMap (List RequestItem)}
    (rel : ∀ ns, Option.Rel List.Perm (missing.find? ns) (missing'.find? ns)) :
  missing.isEmpty = missing'.isEmpty
  := by
  rw [Bool.eq_iff_iff, TextMap.isEmpty_iff, TextMap.isEmpty_iff]
  apply forall_congr'
  intro ns
  have found := rel ns
  generalize missing.find? ns = items at found ⊢
  generalize missing'.find? ns = items' at found ⊢
  cases found with
  | none => rfl
  | some perm => simp

namespace HaveSameUnion

variable {requests requests' : List ItemsRequest} (same : HaveSameUnion requests requests')
  (differ : AgesDiffer requests) {store : CredentialStore} {selection : Option Selection}
include same differ

/-- The same items are missing for a document type. -/
theorem rel_missing (docType ns : String) :
  Option.Rel List.Perm ((verifierTarget store requests selection docType).missing.find? ns)
    ((verifierTarget store requests' selection docType).missing.find? ns)
  := by
  cases first_eq : store.firstOfType? docType with
  | none =>
    rw [find?_missing_of_none first_eq, find?_missing_of_none first_eq, same.askedItem_eq]
    exact rel_nonEmpty? ((same.asked_perm docType ns).map _)
  | some c =>
    have first := firstOfType?_eq_some_iff.mp first_eq
    rw [find?_missing_of_isFirst first, find?_missing_of_isFirst first, same.shownItem_eq]
    exact rel_nonEmpty? ((same.unheld_perm differ c docType ns).map _)

/-- The same items are shown for a document type. -/
theorem valid_eq (docType : String) :
  (verifierTarget store requests selection docType).valid
    = (verifierTarget store requests' selection docType).valid
  := by
  cases first_eq : store.firstOfType? docType with
  | none =>
    rw [Target.valid, Target.valid, verifierTarget, verifierTarget, first_eq]
  | some c =>
    have first := firstOfType?_eq_some_iff.mp first_eq
    apply TextMap.ext_find?
    intro ns
    rw [find?_valid_of_isFirst first, find?_valid_of_isFirst first, same.returned_eq differ,
      same.shownItem_eq]

/-- A document type leads to the same document. -/
theorem document?_eq (docType : String) :
  (verifierTarget store requests selection docType).document?
    = (verifierTarget store requests' selection docType).document?
  := by
  cases first_eq : store.firstOfType? docType with
  | none =>
    rw [Target.document?, Target.document?, verifierTarget, verifierTarget, first_eq]
    rfl
  | some c =>
    have first := firstOfType?_eq_some_iff.mp first_eq
    have returned_eq : collect (fun m => NonEmptyList.ofList? m.returned)
          ((verifierTarget store requests selection docType).answers c)
        = collect (fun m => NonEmptyList.ofList? m.returned)
          ((verifierTarget store requests' selection docType).answers c) := by
      apply TextMap.ext_find?
      intro ns
      rw [find?_returned, find?_returned, same.returned_eq differ]
    have errors_eq : elementErrors
          (missingItems ((verifierTarget store requests selection docType).answers c))
        = elementErrors
          (missingItems ((verifierTarget store requests' selection docType).answers c)) := by
      apply elementErrors_eq
      intro ns
      rw [find?_missingItems, find?_missingItems, same.shownItem_eq]
      exact rel_nonEmpty? ((same.unheld_perm differ c docType ns).map _)
    rw [target_document?_of_isFirst first, target_document?_of_isFirst first, document?, document?,
      returned_eq, errors_eq]

end HaveSameUnion

/-- Only the union of requests matters: if requests ask for the same elements and intend to retain
the same, then what they disclose differs at most in the order of documents, errors and missing
items, unless two identifiers speak of the same age. -/
theorem filter_isReordering {requests requests' : List ItemsRequest}
    (same : HaveSameUnion requests requests') (differ : AgesDiffer requests)
    (store : CredentialStore) (selection : Option Selection) :
  IsReordering (filter store (.verifier requests selection))
    (filter store (.verifier requests' selection))
  := by
  constructor
  case documents_perm =>
    rw [filter_documents, filter_documents]
    simp only [same.document?_eq differ]
    exact same.askedTypes_perm.filterMap _
  case documentErrors_perm =>
    rw [filter_documentErrors, filter_documentErrors]
    simp only [same.document?_eq differ]
    exact (same.askedTypes_perm.filter _).map _
  case validItems_eq =>
    apply TextMap.ext_find?
    intro docType
    rw [filter_validItems, filter_validItems, same.document?_eq differ, same.valid_eq differ]
  case documentNames_eq =>
    apply TextMap.ext_find?
    intro docType
    rw [filter_documentNames, filter_documentNames]
    exact if_congr same.askedTypes_perm.mem_iff rfl rfl
  case errorItems =>
    intro docType
    have rel : ∀ ns, Option.Rel List.Perm
        ((verifierTarget store requests selection docType).missing.find? ns)
        ((verifierTarget store requests' selection docType).missing.find? ns) :=
      same.rel_missing differ docType
    rw [filter_errorItems, filter_errorItems, isEmpty_eq_of_rel rel]
    by_cases listed : docType ∈ askedTypes requests'
        ∧ (verifierTarget store requests' selection docType).missing.isEmpty = false
    · rw [if_pos listed, if_pos ⟨same.askedTypes_perm.mem_iff.mpr listed.1, listed.2⟩]
      exact .some rel
    · rw [if_neg listed, if_neg fun listed' =>
        listed ⟨same.askedTypes_perm.mem_iff.mp listed'.1, listed'.2⟩]
      exact .none

/-! ### A request in pieces -/

/-- An age attestation of the holder. -/
def adultItem : Embedded IssuerSignedItem where
  bytes := Cbor.encode (⟨0, [1], "age_over_18", .bool true⟩ : IssuerSignedItem)
  content := ⟨0, [1], "age_over_18", .bool true⟩
  decode_bytes := rfl

/-- Another age attestation of the holder. -/
def seniorItem : Embedded IssuerSignedItem where
  bytes := Cbor.encode (⟨1, [1], "age_over_65", .bool false⟩ : IssuerSignedItem)
  content := ⟨1, [1], "age_over_65", .bool false⟩
  decode_bytes := rfl

/-- A wallet with a document that attests two ages. -/
def ageWallet : CredentialStore :=
  .ofList [{
    id := "id"
    docType := "doc"
    issuerSigned := {
      namespaces := some ⟨.ofList [("ns", ⟨[adultItem, seniorItem], List.cons_ne_nil _ _⟩)], rfl⟩
      issuerAuth := ⟨⟨[], .empty⟩, .empty, none, []⟩ }
    privateKey := default }]

/-- A request for elements of a namespace. -/
def agesRequest (elements : List (String × Bool))
    (nonempty : (TextMap.ofList elements).isEmpty = false) : ItemsRequest where
  docType := "doc"
  namespaces := ⟨.ofList [("ns", ⟨.ofList elements, nonempty⟩)], rfl⟩
  requestInfo := none

/-- A request for the name, which is to be retained, and three age attestations. -/
def wholeRequest : List ItemsRequest :=
  [agesRequest [("name", true), ("age_over_18", false), ("age_over_21", false),
    ("age_over_65", false)] rfl]

/-- The same request in pieces and in another order; one piece is sent twice. -/
def cutRequest : List ItemsRequest :=
  [agesRequest [("age_over_65", false), ("name", false)] rfl,
    agesRequest [("age_over_21", false)] rfl,
    agesRequest [("name", true), ("age_over_18", false)] rfl,
    agesRequest [("age_over_21", false)] rfl]

instance (requests : List ItemsRequest) : Decidable (AgesDiffer requests) :=
  inferInstanceAs (Decidable (∀ a ∈ named requests, ∀ b ∈ named requests, _))

/-- Cutting the request does not change what is disclosed. -/
theorem filter_isReordering_cut :
  HaveSameUnion wholeRequest cutRequest ∧ AgesDiffer wholeRequest
    ∧ (filter ageWallet (.verifier wholeRequest none)).isEmpty = false
    ∧ IsReordering (filter ageWallet (.verifier wholeRequest none))
      (filter ageWallet (.verifier cutRequest none))
  := by
  have outcome : (named wholeRequest ⊆ named cutRequest ∧ named cutRequest ⊆ named wholeRequest
        ∧ retained wholeRequest ⊆ retained cutRequest ∧ retained cutRequest ⊆ retained wholeRequest)
      ∧ AgesDiffer wholeRequest
      ∧ (filter ageWallet (.verifier wholeRequest none)).isEmpty = false := by
    decide +kernel
  obtain ⟨⟨asked, asked', kept, kept'⟩, differ, answered⟩ := outcome
  have same : HaveSameUnion wholeRequest cutRequest :=
    ⟨fun _ => ⟨@asked _, @asked' _⟩, fun _ => ⟨@kept _, @kept' _⟩⟩
  exact ⟨same, differ, answered, filter_isReordering same differ ageWallet none⟩

end Presentment.Disclosure
