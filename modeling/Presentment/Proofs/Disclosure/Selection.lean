import Presentment.Proofs.Disclosure.Nearest
import Presentment.Proofs.Disclosure.Privacy
import Presentment.Proofs.Disclosure.Signing

/-!
# Picking what was disclosed

A user who picks, by document identifier, just the elements that were disclosed to a reader
discloses the same documents.  Nothing that is picked is missing, and the age policy, which is
not asked, would leave everything that is picked.
-/

namespace Presentment

/-- A selection, by document identifier, of just the elements that are returned. -/
structure Selection.Picks (s : Selection) (d : Disclosure) : Prop where
  document_iff : ∀ id, (s.find? id).isSome ↔ ∃ document ∈ d.documents, document.documentId = id
  element_iff : ∀ id ns identifier, identifier ∈ s.chosen id ns ↔ d.Returns id ns identifier

theorem Selection.mem_chosen_iff {s : Selection} {id ns identifier : String} :
  identifier ∈ s.chosen id ns
    ↔ ∃ namespaces ∈ s.find? id, ∃ identifiers ∈ namespaces.find? ns, identifier ∈ identifiers
  := by
  rw [Selection.chosen]
  cases s.find? id with
  | none => simp
  | some namespaces =>
    simp only [Option.getD_some, Option.mem_def, Option.some.injEq, exists_eq_left']
    cases namespaces.find? ns with
    | none => simp
    | some identifiers => simp

/-- No two credentials of a store have the same identifier. -/
theorem CredentialStore.eq_of_id_eq {store : CredentialStore} {c c' : Credential}
    (h : c ∈ store.toList) (h' : c' ∈ store.toList) (id_eq : c.id = c'.id) :
  c = c'
  := by
  apply Option.some.inj
  rw [← CredentialStore.find?_of_mem h, ← CredentialStore.find?_of_mem h', id_eq]

/-- The elements that an issuer-signed document holds, by namespace. -/
def IssuerSigned.elements (issuerSigned : IssuerSigned) : TextMap (List String) :=
  match issuerSigned.namespaces with
  | some namespaces => namespaces.toMap.map
    (fun _ items => items.toList.map (·.content.elementIdentifier))
  | none => ∅

/-- The selection of all elements of some documents. -/
def Selection.ofDocuments (documents : List DisclosedDocument) : Selection :=
  TextMap.ofList
    (documents.map (fun document => (document.documentId, document.issuerSigned.elements)))

/-- A document for which no element is missing. -/
def DisclosedDocument.withoutErrors (document : DisclosedDocument) : DisclosedDocument :=
  { document with errors := none }

namespace Disclosure

/-- A disclosure `again` of what was picked from the disclosure `d`. -/
structure IsRepeated (store : CredentialStore) (d again : Disclosure) : Prop where
  /-- The documents are the same, in some order. -/
  documents_perm : again.documents.Perm (d.documents.map (·.withoutErrors))
  documentErrors_eq : again.documentErrors = []
  errorItems_eq : again.errorItems = ∅
  validItems_iff : ∀ id ns identifier,
    again.validItems.Lists id ns identifier ↔ d.Returns id ns identifier
  /-- Of the age attestations that are picked none would be superseded. -/
  ages : ∀ c ∈ store.toList, ∀ ns (identifiers : List String), identifiers.Nodup →
    (∀ identifier ∈ identifiers, d.Returns c.id ns identifier) →
      AgeAttestation.superseded identifiers (c.issuerSigned.items ns) = []

/-! ### What is picked -/

theorem exists_mem_nonEmpty?_iff {α : Type} {as : List α} {a : α} :
  (∃ bs ∈ nonEmpty? as, a ∈ bs) ↔ a ∈ as
  := by
  cases as with
  | nil => simp [nonEmpty?]
  | cons b bs => simp [nonEmpty?]

section

variable (held : List (Embedded IssuerSignedItem)) {g : String → RequestItem}
  (identifies : ∀ identifier, (g identifier).elementIdentifier = identifier) (ids : List String)
include identifies

theorem any_map_eq (identifier : String) :
  (ids.map g).any (fun r => r.elementIdentifier == identifier) = decide (identifier ∈ ids)
  := by
  rw [Bool.eq_iff_iff]
  simp [identifies]

theorem filter_unheld_map :
  (ids.map g).filter (fun r =>
      !held.any (fun item => item.content.elementIdentifier == r.elementIdentifier))
    = (ids.filter (fun identifier =>
        ∀ item ∈ held, item.content.elementIdentifier ≠ identifier)).map g
  := by
  rw [List.filter_map]
  congr 1
  apply List.filter_congr
  intro identifier _
  rw [Bool.eq_iff_iff]
  simp [identifies]

/-- If the user is not asked, and ages are not compared, everything that is named is found. -/
theorem matchHeld_false :
  matchHeld held (ids.map g) none false = {
    returned := held.filter (fun item => item.content.elementIdentifier ∈ ids)
    valid := (held.filter (fun item => item.content.elementIdentifier ∈ ids)).map
      (fun item => g item.content.elementIdentifier)
    missing := (ids.filter (fun identifier =>
      ∀ item ∈ held, item.content.elementIdentifier ≠ identifier)).map g }
  := by
  have current_eq : (ids.map g).filter
      (fun r => !([] : List String).contains r.elementIdentifier) = ids.map g :=
    List.filter_eq_self.mpr (fun _ _ => rfl)
  have answered : ∀ item ∈ held.filter (fun item => item.content.elementIdentifier ∈ ids),
      (ids.map g).find? (fun r => r.elementIdentifier == item.content.elementIdentifier)
        = some (g item.content.elementIdentifier) := by
    intro item hitem
    apply find?_map_of_mem identifies
    exact of_decide_eq_true (List.mem_filter.mp hitem).2
  rw [matchHeld]
  simp only [Bool.false_eq_true, if_false, Option.all_none, Bool.and_true]
  rw [current_eq, filter_unheld_map held identifies]
  simp only [any_map_eq identifies]
  rw [List.filterMap_congr answered, List.filterMap_eq_map']

end

section

variable (s : Selection) (c : Credential) (ns : String)

/-- The items of a credential that are picked from a namespace. -/
def picked : List (Embedded IssuerSignedItem) :=
  (c.issuerSigned.items ns).filter (fun item => item.content.elementIdentifier ∈ s.chosen c.id ns)

/-- The elements that are picked from a namespace of a credential and not held. -/
def unheldPicks : List String :=
  (s.chosen c.id ns).filter (fun identifier =>
    ∀ item ∈ c.issuerSigned.items ns, item.content.elementIdentifier ≠ identifier)

/-- The item that a credential shows for an element that is picked. -/
def pickedItem (identifier : String) : RequestItem :=
  withName c ns (.named identifier)

theorem elementIdentifier_pickedItem (identifier : String) :
  (pickedItem c ns identifier).elementIdentifier = identifier
  := by
  simp [pickedItem, withName, RequestItem.named]

/-- What is found of what is picked from a namespace. -/
def foundPicks : Match where
  returned := picked s c ns
  valid := (picked s c ns).map (fun item => pickedItem c ns item.content.elementIdentifier)
  missing := (unheldPicks s c ns).map (pickedItem c ns)

/-- The target for a document that is picked. -/
def selectionTarget (store : CredentialStore) (id : String) : Target where
  key := id
  docType := ((store.find? id).map (·.docType)).getD id
  credential := store.find? id
  namespaces := ((s.find? id).getD ∅).entries.map (fun entry => (entry.1, entry.2.map .named))
  chosen := none
  agePolicy := false

theorem targets_selection (store : CredentialStore) :
  targets store (.selection s) = s.keys.map (selectionTarget s store)
  := by
  rw [targets, TextMap.keys, List.map_map]
  apply List.map_congr_left
  rintro ⟨id, namespaces⟩ hentry
  rw [Function.comp_apply, selectionTarget, TextMap.mem_entries_iff.mp hentry]
  rfl

theorem selectionTarget_credential {store : CredentialStore} {c : Credential}
    (h : c ∈ store.toList) :
  (selectionTarget s store c.id).credential = some c
  := CredentialStore.find?_of_mem h

theorem matchNamespace_selection (store : CredentialStore) :
  matchNamespace c (selectionTarget s store c.id) ns ((s.chosen c.id ns).map .named)
    = foundPicks s c ns
  := by
  have shown_eq : ((s.chosen c.id ns).map .named).map (withName c ns)
      = (s.chosen c.id ns).map (pickedItem c ns) := List.map_map
  rw [matchNamespace, shown_eq]
  dsimp only
  split
  · rename_i h
    rw [foundPicks, picked, unheldPicks, List.isEmpty_iff.mp h]
    simp
  · exact matchHeld_false _ (elementIdentifier_pickedItem c ns) _

theorem answers_selection (store : CredentialStore) :
  (selectionTarget s store c.id).answers c
    = ((s.find? c.id).getD ∅).keys.map (fun ns => (ns, foundPicks s c ns))
  := by
  rw [Target.answers, selectionTarget, TextMap.keys, List.map_map, List.map_map]
  apply List.map_congr_left
  rintro ⟨ns, identifiers⟩ hentry
  have chosen_eq : s.chosen c.id ns = identifiers := by
    rw [Selection.chosen, TextMap.mem_entries_iff.mp hentry]
    rfl
  rw [Function.comp_apply, Function.comp_apply, ← matchNamespace_selection s c ns store, chosen_eq]
  rfl

theorem find?_collect_selection {β : Type} (store : CredentialStore) (f : Match → Option β)
    (empty : f ⟨[], [], []⟩ = none) :
  (collect f ((selectionTarget s store c.id).answers c)).find? ns = f (foundPicks s c ns)
  := by
  rw [answers_selection, find?_collect _ _ (TextMap.nodup_keys _)]
  split
  · rfl
  · rename_i h
    have unnamed : s.chosen c.id ns = [] := by
      rw [List.eq_nil_iff_forall_not_mem]
      intro identifier hmem
      obtain ⟨namespaces, hnamespaces, identifiers, hidentifiers, -⟩ :=
        s.mem_chosen_iff.mp hmem
      rw [hnamespaces] at h
      exact h (List.mem_map_of_mem (TextMap.mem_entries_iff.mpr hidentifiers))
    rw [foundPicks, picked, unheldPicks, unnamed]
    simpa using empty.symm

end

/-! ### What was disclosed -/

section

variable {store : CredentialStore} {requests : List ItemsRequest} {selection : Option Selection}

/-- A disclosed document with the credential that it is made of. -/
structure IsDisclosed (store : CredentialStore) (requests : List ItemsRequest)
    (selection : Option Selection) (c : Credential) (document : DisclosedDocument) : Prop where
  mem : document ∈ (filter store (.verifier requests selection)).documents
  first : store.IsFirst document.docType c
  id_eq : document.documentId = c.id
  document?_eq : document? c ((verifierTarget store requests selection document.docType).answers c)
    = some document
  items_eq : ∀ ns, document.issuerSigned.items ns
    = returned requests selection c document.docType ns

theorem exists_isDisclosed {document : DisclosedDocument}
    (h : document ∈ (filter store (.verifier requests selection)).documents) :
  ∃ c, IsDisclosed store requests selection c document
  := by
  obtain ⟨c, first, id_eq, items_eq⟩ := filter_document_items h
  have document?_eq := ((mem_filter_documents_iff store requests selection).mp h).2
  rw [target_document?_of_isFirst first] at document?_eq
  exact ⟨c, h, first, id_eq, document?_eq, items_eq⟩

/-- A credential is disclosed at most once. -/
theorem IsDisclosed.unique {c : Credential} {document other : DisclosedDocument}
    (h : IsDisclosed store requests selection c document)
    (h' : IsDisclosed store requests selection c other) :
  document = other
  := by
  apply Option.some.inj
  rw [← h.document?_eq, ← h'.document?_eq, ← h.first.docType_eq, ← h'.first.docType_eq]

/-- No two documents have the same identifier. -/
theorem eq_of_documentId_eq {document other : DisclosedDocument}
    (h : document ∈ (filter store (.verifier requests selection)).documents)
    (h' : other ∈ (filter store (.verifier requests selection)).documents)
    (id_eq : document.documentId = other.documentId) :
  document = other
  := by
  obtain ⟨c, disclosed⟩ := exists_isDisclosed h
  obtain ⟨c', disclosed'⟩ := exists_isDisclosed h'
  rw [disclosed.id_eq, disclosed'.id_eq] at id_eq
  rw [← CredentialStore.eq_of_id_eq disclosed.first.mem disclosed'.first.mem id_eq] at disclosed'
  exact disclosed.unique disclosed'

theorem nodup_documentIds :
  ((filter store (.verifier requests selection)).documents.map (·.documentId)).Nodup
  := by
  have nodup : (filter store (.verifier requests selection)).documents.Nodup := by
    apply List.Nodup.of_map (·.docType)
    rw [filter_documents_docType]
    exact (nodup_askedTypes requests).filter _
  apply nodup.map_on
  intro document h other h' id_eq
  exact eq_of_documentId_eq h h' id_eq

/-- What is returned of a credential is what its document holds. -/
theorem IsDisclosed.returns_iff {c : Credential} {document : DisclosedDocument}
    (h : IsDisclosed store requests selection c document) {ns identifier : String} :
  (filter store (.verifier requests selection)).Returns c.id ns identifier
    ↔ ∃ item ∈ returned requests selection c document.docType ns,
      item.content.elementIdentifier = identifier
  := by
  rw [← h.items_eq, ← h.id_eq]
  constructor
  · rintro ⟨other, hother, id_eq, item⟩
    rw [← eq_of_documentId_eq hother h.mem id_eq]
    exact item
  · intro item
    exact ⟨document, h.mem, rfl, item⟩

/-- Of the age attestations that are returned none would be superseded. -/
theorem IsDisclosed.superseded_eq_nil {c : Credential} {document : DisclosedDocument}
    (h : IsDisclosed store requests selection c document) {ns : String} {identifiers : List String}
    (nodup : identifiers.Nodup)
    (returned : ∀ identifier ∈ identifiers,
      (filter store (.verifier requests selection)).Returns c.id ns identifier) :
  AgeAttestation.superseded identifiers (c.issuerSigned.items ns) = []
  := by
  have unsuperseded : ∀ identifier ∈ identifiers, identifier ∈ asked requests document.docType ns
      ∧ identifier ∉ AgeAttestation.superseded (asked requests document.docType ns)
        (c.issuerSigned.items ns) := by
    intro identifier hidentifier
    obtain ⟨item, hitem, rfl⟩ := h.returns_iff.mp (returned identifier hidentifier)
    obtain ⟨hasked, unsuperseded, -⟩ := of_decide_eq_true (List.mem_filter.mp hitem).2
    exact ⟨hasked, unsuperseded⟩
  exact AgeAttestation.superseded_of_not_mem_superseded nodup unsuperseded

/-! ### Picking what was disclosed -/

theorem mem_elements_iff {issuerSigned : IssuerSigned} {ns identifier : String} :
  (∃ identifiers ∈ issuerSigned.elements.find? ns, identifier ∈ identifiers)
    ↔ ∃ item ∈ issuerSigned.items ns, item.content.elementIdentifier = identifier
  := by
  rw [IssuerSigned.elements, IssuerSigned.items]
  cases issuerSigned.namespaces with
  | none => simp
  | some namespaces =>
    rw [TextMap.find?_map, Option.bind_some, NonEmptyMap.find?]
    cases namespaces.toMap.find? ns with
    | none => simp
    | some items => simp

/-- The selection of all elements of the documents picks what is returned. -/
theorem ofDocuments_picks :
  (Selection.ofDocuments (filter store (.verifier requests selection)).documents).Picks
    (filter store (.verifier requests selection))
  := by
  have nodup : List.Nodup (((filter store (.verifier requests selection)).documents.map
      (fun document => (document.documentId, document.issuerSigned.elements))).map (·.1)) := by
    rw [List.map_map]
    exact nodup_documentIds
  constructor
  case document_iff =>
    intro id
    rw [Option.isSome_iff_exists, Selection.ofDocuments]
    simp only [TextMap.find?_ofList nodup, List.mem_map, Prod.mk.injEq]
    constructor
    · rintro ⟨elements, document, h, id_eq, -⟩
      exact ⟨document, h, id_eq⟩
    · rintro ⟨document, h, id_eq⟩
      exact ⟨_, document, h, id_eq, rfl⟩
  case element_iff =>
    intro id ns identifier
    rw [Selection.mem_chosen_iff, Selection.ofDocuments]
    simp only [Option.mem_def, TextMap.find?_ofList nodup, List.mem_map, Prod.mk.injEq]
    constructor
    · rintro ⟨elements, ⟨document, h, id_eq, rfl⟩, named⟩
      exact ⟨document, h, id_eq, mem_elements_iff.mp named⟩
    · rintro ⟨document, h, id_eq, item⟩
      exact ⟨_, ⟨document, h, id_eq, rfl⟩, mem_elements_iff.mpr item⟩

section

variable {s : Selection} (picks : s.Picks (filter store (.verifier requests selection)))
  {c : Credential} {document : DisclosedDocument}
  (h : IsDisclosed store requests selection c document)
include picks h

/-- From a disclosed document just what was returned is picked. -/
theorem picked_eq (ns : String) :
  picked s c ns = returned requests selection c document.docType ns
  := by
  apply List.filter_congr
  intro item hitem
  rw [decide_eq_decide, picks.element_iff, h.returns_iff]
  constructor
  · rintro ⟨other, hother, same⟩
    rw [← same]
    exact of_decide_eq_true (List.mem_filter.mp hother).2
  · intro isReturned
    exact ⟨item, List.mem_filter.mpr ⟨hitem, decide_eq_true isReturned⟩, rfl⟩

/-- Everything that is picked is held. -/
theorem unheldPicks_eq_nil (ns : String) :
  unheldPicks s c ns = []
  := by
  rw [unheldPicks, List.filter_eq_nil_iff]
  intro identifier hpicked unheld
  rw [picks.element_iff, h.returns_iff] at hpicked
  obtain ⟨item, hitem, named⟩ := hpicked
  exact of_decide_eq_true unheld item (List.mem_of_mem_filter hitem) named

/-- Nothing is missing of what is picked. -/
theorem missingItems_selection :
  missingItems ((selectionTarget s store c.id).answers c) = ∅
  := by
  apply TextMap.ext_find?
  intro ns
  rw [missingItems, find?_collect_selection s c ns store _ rfl, foundPicks,
    unheldPicks_eq_nil picks h]
  rfl

/-- What is picked from a document leads to the document. -/
theorem document?_selection :
  (selectionTarget s store c.id).document? = some document.withoutErrors
  := by
  have items_eq : collect (fun m => NonEmptyList.ofList? m.returned)
        ((selectionTarget s store c.id).answers c)
      = collect (fun m => NonEmptyList.ofList? m.returned)
        ((verifierTarget store requests selection document.docType).answers c) := by
    apply TextMap.ext_find?
    intro ns
    rw [find?_collect_selection s c ns store _ rfl, find?_returned, foundPicks, picked_eq picks h]
  obtain ⟨namespaces, hnamespaces, document_eq⟩ := Option.bind_eq_some_iff.mp h.document?_eq
  rw [Target.document?, selectionTarget_credential s h.first.mem, Option.bind_some, document?,
    items_eq, hnamespaces, missingItems_selection picks h, ← Option.some.inj document_eq]
  rfl

theorem missing_selection :
  (selectionTarget s store c.id).missing = ∅
  := by
  rw [Target.missing, selectionTarget_credential s h.first.mem]
  exact missingItems_selection picks h

/-- What is listed for a document that is picked is what was returned. -/
theorem find?_valid_selection (ns : String) :
  (selectionTarget s store c.id).valid.find? ns
    = nonEmpty? ((returned requests selection c document.docType ns).map
        (fun item => pickedItem c ns item.content.elementIdentifier))
  := by
  rw [Target.valid, selectionTarget_credential s h.first.mem, ← picked_eq picks h]
  exact find?_collect_selection s c ns store _ rfl

end

section

variable {s : Selection} (picks : s.Picks (filter store (.verifier requests selection)))
include picks

theorem exists_isDisclosed_of_mem_keys {id : String} (h : id ∈ s.keys) :
  ∃ c document, IsDisclosed store requests selection c document ∧ c.id = id
  := by
  obtain ⟨⟨id, namespaces⟩, hentry, rfl⟩ := List.mem_map.mp h
  obtain ⟨document, hdocument, id_eq⟩ := (picks.document_iff id).mp
    (Option.isSome_of_eq_some (TextMap.mem_entries_iff.mp hentry))
  obtain ⟨c, disclosed⟩ := exists_isDisclosed hdocument
  exact ⟨c, document, disclosed, disclosed.id_eq.symm.trans id_eq⟩

theorem keys_perm_of_picks :
  s.keys.Perm ((filter store (.verifier requests selection)).documents.map (·.documentId))
  := by
  apply (List.perm_ext_iff_of_nodup s.nodup_keys nodup_documentIds).mpr
  intro id
  rw [List.mem_map, ← picks.document_iff, Option.isSome_iff_exists]
  simp only [← TextMap.mem_entries_iff]
  simp [TextMap.keys]

theorem documents_perm_of_picks :
  (filter store (.selection s)).documents.Perm
    ((filter store (.verifier requests selection)).documents.map (·.withoutErrors))
  := by
  have found : ∀ document ∈ (filter store (.verifier requests selection)).documents,
      (selectionTarget s store document.documentId).document? = some document.withoutErrors := by
    intro document hdocument
    obtain ⟨c, disclosed⟩ := exists_isDisclosed hdocument
    rw [disclosed.id_eq]
    exact document?_selection picks disclosed
  have perm := (keys_perm_of_picks picks).filterMap
    (fun id => (selectionTarget s store id).document?)
  rw [List.filterMap_map] at perm
  replace perm := perm.trans (.of_eq (List.filterMap_congr found))
  rw [List.filterMap_eq_map'] at perm
  rw [filter, targets_selection, foldl_disclose_documents, List.nil_append, List.filterMap_map]
  exact perm

theorem documentErrors_of_picks :
  (filter store (.selection s)).documentErrors = []
  := by
  rw [filter, targets_selection, foldl_disclose_documentErrors, List.nil_append,
    List.map_eq_nil_iff, List.filter_eq_nil_iff]
  intro target htarget
  obtain ⟨id, hid, rfl⟩ := List.mem_map.mp htarget
  obtain ⟨c, document, disclosed, rfl⟩ := exists_isDisclosed_of_mem_keys picks hid
  simp [document?_selection picks disclosed]

theorem errorItems_of_picks :
  (filter store (.selection s)).errorItems = ∅
  := by
  apply TextMap.ext_find?
  intro id
  rw [filter, targets_selection, foldl_disclose_errorItems (fun _ => rfl)]
  apply if_neg
  rintro ⟨hid, missing⟩
  obtain ⟨c, document, disclosed, rfl⟩ := exists_isDisclosed_of_mem_keys picks hid
  rw [missing_selection picks disclosed] at missing
  cases missing

theorem validItems_lists_iff_of_picks (id ns identifier : String) :
  (filter store (.selection s)).validItems.Lists id ns identifier
    ↔ (filter store (.verifier requests selection)).Returns id ns identifier
  := by
  rw [ItemsByDocument.Lists, ItemsByDocument.listed, filter, targets_selection,
    foldl_disclose_validItems (fun _ => rfl)]
  by_cases hid : id ∈ s.keys
  · obtain ⟨c, document, disclosed, rfl⟩ := exists_isDisclosed_of_mem_keys picks hid
    rw [if_pos ⟨hid, by rw [document?_selection picks disclosed]; rfl⟩, Option.bind_some,
      find?_valid_selection picks disclosed, map_nonEmpty?, exists_mem_nonEmpty?_iff,
      disclosed.returns_iff]
    simp [elementIdentifier_pickedItem]
  · rw [if_neg (fun picked => hid picked.1)]
    constructor
    · rintro ⟨identifiers, hidentifiers, -⟩
      cases hidentifiers
    · rintro ⟨document, hdocument, id_eq, -⟩
      rw [(keys_perm_of_picks picks).mem_iff, ← id_eq] at hid
      exact (hid (List.mem_map_of_mem hdocument)).elim

end

/-- Picking what was disclosed discloses it again. -/
theorem filter_isRepeated (store : CredentialStore) (requests : List ItemsRequest)
    (selection : Option Selection) :
  (Selection.ofDocuments (filter store (.verifier requests selection)).documents).Picks
      (filter store (.verifier requests selection))
    ∧ ∀ s : Selection, s.Picks (filter store (.verifier requests selection)) →
      IsRepeated store (filter store (.verifier requests selection)) (filter store (.selection s))
  := by
  use ofDocuments_picks
  intro s picks
  constructor
  case documents_perm => exact documents_perm_of_picks picks
  case documentErrors_eq => exact documentErrors_of_picks picks
  case errorItems_eq => exact errorItems_of_picks picks
  case validItems_iff => exact validItems_lists_iff_of_picks picks
  case ages =>
    intro c hc ns identifiers nodup returned
    by_cases empty : identifiers = []
    · rw [empty]
      rfl
    · obtain ⟨identifier, hidentifier⟩ := List.exists_mem_of_ne_nil _ empty
      obtain ⟨document, hdocument, id_eq, -⟩ := returned identifier hidentifier
      obtain ⟨c', disclosed⟩ := exists_isDisclosed hdocument
      rw [disclosed.id_eq, eq_comm] at id_eq
      rw [CredentialStore.eq_of_id_eq hc disclosed.first.mem id_eq] at returned ⊢
      exact disclosed.superseded_eq_nil nodup returned

end

end Disclosure

end Presentment
