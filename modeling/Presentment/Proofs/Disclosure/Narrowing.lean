import Presentment.Proofs.Disclosure.Response

/-!
# The choice of the user

The user may narrow what a reader gets.  The disclosure for a narrowed request is the one for
the whole request, except that every document keeps only the items that the selection names,
and that a document without such an item becomes an error.  The age policy, the summary of
missing items and the names do not depend on the selection.
-/

namespace Presentment

/-! ### Narrowing -/

/-- A document with the items that a selection names, if there are any. -/
def DisclosedDocument.narrow? (s : Selection) (document : DisclosedDocument) :
    Option DisclosedDocument := do
  let whole ← document.issuerSigned.namespaces
  let named ← NonEmptyMap.ofMap? (whole.toMap.filterMap (fun ns items =>
    NonEmptyList.ofList? (items.toList.filter (fun item =>
      item.content.elementIdentifier ∈ s.chosen document.docType ns))))
  return { document with
    issuerSigned := { document.issuerSigned with namespaces := some named } }

/-- The items of a summary that a selection names. -/
def ItemsByDocument.narrow (s : Selection) (items : ItemsByDocument) : ItemsByDocument :=
  items.filterMap (fun docType namespaces =>
    let named := namespaces.filterMap (fun ns items =>
      Disclosure.nonEmpty? (items.filter (fun item =>
        item.elementIdentifier ∈ s.chosen docType ns)))
    if named.isEmpty then none else some named)

namespace Disclosure

/-- All items that are returned from a namespace of the documents of a type. -/
def items (d : Disclosure) (docType ns : String) : List (Embedded IssuerSignedItem) :=
  (d.documents.filter (·.docType == docType)).flatMap (·.issuerSigned.items ns)

/-- A disclosure that is what the user has left of another one. -/
structure IsNarrowed (s : Selection) (whole narrowed : Disclosure) : Prop where
  items_eq : ∀ docType ns, narrowed.items docType ns
    = (whole.items docType ns).filter (fun item =>
        item.content.elementIdentifier ∈ s.chosen docType ns)
  documents_eq : narrowed.documents = whole.documents.filterMap (·.narrow? s)
  /-- A document of which nothing is left becomes an error. -/
  documentErrors_perm : narrowed.documentErrors.Perm
    (whole.documentErrors
      ++ (whole.documents.filter (fun document => (document.narrow? s).isNone)).map
        (fun document => documentError document.docType))
  validItems_eq : narrowed.validItems = whole.validItems.narrow s
  errorItems_eq : narrowed.errorItems = whole.errorItems
  documentNames_eq : narrowed.documentNames = whole.documentNames

/-! ### Narrowing a document -/

variable {s : Selection}

theorem docType_of_narrow? {document narrowed : DisclosedDocument}
    (h : document.narrow? s = some narrowed) :
  narrowed.docType = document.docType
  := by
  obtain ⟨whole, -, h⟩ := Option.bind_eq_some_iff.mp h
  obtain ⟨named, -, heq⟩ := Option.bind_eq_some_iff.mp h
  cases heq
  rfl

theorem items_eq_elim (issuerSigned : IssuerSigned) (ns : String) :
  issuerSigned.items ns = (issuerSigned.namespaces.bind (·.find? ns)).elim [] (·.toList)
  := by
  rw [IssuerSigned.items]
  cases issuerSigned.namespaces.bind (·.find? ns) with
  | none => rfl
  | some items => rfl

/-- A document keeps the items that are named, namespace by namespace. -/
theorem items_narrow? (document : DisclosedDocument) (ns : String) :
  (document.narrow? s).elim [] (·.issuerSigned.items ns)
    = (document.issuerSigned.items ns).filter (fun item =>
        item.content.elementIdentifier ∈ s.chosen document.docType ns)
  := by
  rw [items_eq_elim, DisclosedDocument.narrow?]
  cases document.issuerSigned.namespaces with
  | none => rfl
  | some whole =>
    have kept (m : TextMap (NonEmptyList (Embedded IssuerSignedItem))) :
        ((NonEmptyMap.ofMap? m).bind (fun named => some { document with
            issuerSigned := { document.issuerSigned with namespaces := some named } })).elim []
          (·.issuerSigned.items ns)
        = (m.find? ns).elim [] (·.toList) := by
      rw [← NonEmptyMap.bind_find?_ofMap?]
      cases NonEmptyMap.ofMap? m with
      | none => rfl
      | some named => exact items_eq_elim _ _
    apply (kept _).trans
    rw [TextMap.find?_filterMap]
    dsimp only [Option.bind_some, NonEmptyMap.find?]
    cases whole.toMap.find? ns with
    | none => rfl
    | some items => exact NonEmptyList.elim_ofList? _

/-! ### Narrowing what is returned -/

section

variable {store : CredentialStore} {requests : List ItemsRequest}

theorem returned_some (s : Selection) (c : Credential) (docType ns : String) :
  returned requests (some s) c docType ns
    = (returned requests none c docType ns).filter (fun item =>
        item.content.elementIdentifier ∈ s.chosen docType ns)
  := by
  rw [returned, returned, List.filter_filter]
  apply List.filter_congr
  intro item _
  rw [← Bool.decide_and, decide_eq_decide]
  simp [IsReturned, and_comm, and_assoc]

/-- What is missing does not depend on the selection. -/
theorem target_missing_eq (selection selection' : Option Selection) (docType : String) :
  (verifierTarget store requests selection docType).missing
    = (verifierTarget store requests selection' docType).missing
  := by
  apply TextMap.ext_find?
  intro ns
  cases first_eq : store.firstOfType? docType with
  | none => rw [find?_missing_of_none first_eq, find?_missing_of_none first_eq]
  | some c =>
    have first := firstOfType?_eq_some_iff.mp first_eq
    rw [find?_missing_of_isFirst first, find?_missing_of_isFirst first]

/-- A credential answers what is left of what it answers as a whole. -/
theorem document?_some (s : Selection) {docType : String} {c : Credential}
    (docType_eq : c.docType = docType) :
  document? c ((verifierTarget store requests (some s) docType).answers c)
    = (document? c ((verifierTarget store requests none docType).answers c)).bind (·.narrow? s)
  := by
  subst docType_eq
  have missing_eq : missingItems ((verifierTarget store requests (some s) c.docType).answers c)
      = missingItems ((verifierTarget store requests none c.docType).answers c) := by
    apply TextMap.ext_find?
    intro ns
    rw [find?_missingItems, find?_missingItems]
  have returned_eq : collect (fun m => NonEmptyList.ofList? m.returned)
        ((verifierTarget store requests (some s) c.docType).answers c)
      = (collect (fun m => NonEmptyList.ofList? m.returned)
          ((verifierTarget store requests none c.docType).answers c)).filterMap (fun ns items =>
        NonEmptyList.ofList? (items.toList.filter (fun item =>
          item.content.elementIdentifier ∈ s.chosen c.docType ns))) := by
    apply TextMap.ext_find?
    intro ns
    rw [TextMap.find?_filterMap, find?_returned, find?_returned, returned_some,
      NonEmptyList.ofList?_filter]
  rw [document?, document?, missing_eq, returned_eq]
  cases whole_eq : NonEmptyMap.ofMap? (collect (fun m => NonEmptyList.ofList? m.returned)
      ((verifierTarget store requests none c.docType).answers c)) with
  | none =>
    have nothing := NonEmptyMap.ofMap?_eq_none_iff.mp whole_eq
    rw [NonEmptyMap.ofMap?_eq_none_iff.mpr]
    · rfl
    · intro ns
      rw [TextMap.find?_filterMap, nothing]
      rfl
  | some whole =>
    rw [← NonEmptyMap.ofMap?_eq_some_iff.mp whole_eq]
    rfl

/-- A document type leads to what is left of the document that it leads to as a whole. -/
theorem target_document?_some (s : Selection) (docType : String) :
  (verifierTarget store requests (some s) docType).document?
    = (verifierTarget store requests none docType).document?.bind (·.narrow? s)
  := by
  cases first_eq : store.firstOfType? docType with
  | none =>
    rw [Target.document?, Target.document?, verifierTarget, verifierTarget, first_eq]
    rfl
  | some c =>
    have first := firstOfType?_eq_some_iff.mp first_eq
    rw [target_document?_of_isFirst first, target_document?_of_isFirst first]
    exact document?_some s first.docType_eq

/-- Items are shown for a document type exactly if it leads to a document. -/
theorem find?_validItems_eq (selection : Option Selection) (docType : String) :
  (filter store (.verifier requests selection)).validItems.find? docType
    = if (verifierTarget store requests selection docType).valid.isEmpty then none
      else some (verifierTarget store requests selection docType).valid
  := by
  rw [filter_validItems]
  cases first_eq : store.firstOfType? docType with
  | none =>
    rw [Target.document?, Target.valid, verifierTarget, first_eq]
    rfl
  | some c =>
    have first := firstOfType?_eq_some_iff.mp first_eq
    have isEmpty_iff : (verifierTarget store requests selection docType).valid.isEmpty
        ↔ ¬ (verifierTarget store requests selection docType).document?.isSome := by
      rw [target_document?_of_isFirst first, document?_isSome_iff, not_exists, TextMap.isEmpty_iff]
      apply forall_congr'
      intro ns
      rw [find?_valid_of_isFirst first, nonEmpty?_eq_none_iff, List.map_eq_nil_iff, not_ne_iff]
    simp only [isEmpty_iff, ite_not]

/-- The items that are shown are those that the selection names. -/
theorem target_valid_some (s : Selection) (docType : String) :
  (verifierTarget store requests (some s) docType).valid
    = (verifierTarget store requests none docType).valid.filterMap (fun ns items =>
      nonEmpty? (items.filter (fun item => item.elementIdentifier ∈ s.chosen docType ns)))
  := by
  cases first_eq : store.firstOfType? docType with
  | none =>
    rw [Target.valid, Target.valid, verifierTarget, verifierTarget, first_eq]
    rfl
  | some c =>
    have first := firstOfType?_eq_some_iff.mp first_eq
    apply TextMap.ext_find?
    intro ns
    rw [TextMap.find?_filterMap, find?_valid_of_isFirst first, find?_valid_of_isFirst first,
      ← nonEmpty?_filter, List.filter_map, returned_some]
    simp only [Function.comp_def, elementIdentifier_shownItem]

/-- Of the documents that some types lead to, those of which nothing is left become errors. -/
theorem perm_documentErrors {whole : String → Option DisclosedDocument}
    (docType_eq : ∀ docType document, whole docType = some document → document.docType = docType)
    (s : Selection) (docTypes : List String) :
  ((docTypes.filter (fun docType => ((whole docType).bind (·.narrow? s)).isNone)).map
      documentError).Perm
    ((docTypes.filter (fun docType => (whole docType).isNone)).map documentError
      ++ ((docTypes.filterMap whole).filter (fun document => (document.narrow? s).isNone)).map
        (fun document => documentError document.docType))
  := by
  induction docTypes with
  | nil => exact .nil
  | cons docType docTypes ih =>
    rw [List.filter_cons, List.filter_cons, List.filterMap_cons]
    cases whole_eq : whole docType with
    | none => exact ih.cons (documentError docType)
    | some document =>
      cases narrow_eq : document.narrow? s with
      | none =>
        simpa [narrow_eq, docType_eq docType document whole_eq]
          using (ih.cons _).trans List.perm_middle.symm
      | some narrowed => simpa [narrow_eq] using ih

/-- The documents of a type keep the items that are named. -/
theorem flatMap_narrow? (s : Selection) (documents : List DisclosedDocument)
    (docType ns : String) :
  ((documents.filterMap (·.narrow? s)).filter (·.docType == docType)).flatMap
      (·.issuerSigned.items ns)
    = ((documents.filter (·.docType == docType)).flatMap (·.issuerSigned.items ns)).filter
        (fun item => item.content.elementIdentifier ∈ s.chosen docType ns)
  := by
  induction documents with
  | nil => rfl
  | cons document documents ih =>
    rw [List.filter_cons]
    by_cases h : document.docType = docType
    · subst h
      rw [beq_self_eq_true, if_pos rfl, List.flatMap_cons, List.filter_append, ← items_narrow?, ← ih]
      cases narrow_eq : document.narrow? s with
      | none => simp [narrow_eq]
      | some narrowed => simp [narrow_eq, docType_of_narrow? narrow_eq]
    · rw [if_neg (by simpa using h), ← ih]
      cases narrow_eq : document.narrow? s with
      | none => simp [narrow_eq]
      | some narrowed => simp [narrow_eq, docType_of_narrow? narrow_eq, h]

/-- Narrowing leaves what the selection names, and nothing else changes. -/
theorem isNarrowed_filter (store : CredentialStore) (requests : List ItemsRequest)
    (s : Selection) :
  IsNarrowed s (filter store (.verifier requests none))
    (filter store (.verifier requests (some s)))
  := by
  have documents_eq : (filter store (.verifier requests (some s))).documents
      = (filter store (.verifier requests none)).documents.filterMap (·.narrow? s) := by
    rw [filter_documents, filter_documents, List.filterMap_filterMap]
    apply List.filterMap_congr
    intro docType _
    exact target_document?_some s docType
  constructor
  case documents_eq => exact documents_eq
  case items_eq =>
    intro docType ns
    rw [items, documents_eq]
    exact flatMap_narrow? s _ docType ns
  case documentErrors_perm =>
    rw [filter_documentErrors, filter_documentErrors, filter_documents]
    simp only [target_document?_some s]
    apply perm_documentErrors
    intro docType document h
    exact (of_target_document?_eq_some h).1
  case validItems_eq =>
    apply TextMap.ext_find?
    intro docType
    rw [find?_validItems_eq, ItemsByDocument.narrow, TextMap.find?_filterMap, find?_validItems_eq,
      target_valid_some]
    cases isEmpty_eq : (verifierTarget store requests none docType).valid.isEmpty with
    | false => rfl
    | true =>
      have nothing := TextMap.isEmpty_iff.mp isEmpty_eq
      rw [if_pos rfl, if_pos]
      · rfl
      · rw [TextMap.isEmpty_iff]
        intro ns
        rw [TextMap.find?_filterMap, nothing]
        rfl
  case errorItems_eq =>
    apply TextMap.ext_find?
    intro docType
    rw [filter_errorItems, filter_errorItems, target_missing_eq (some s) none]
  case documentNames_eq =>
    apply TextMap.ext_find?
    intro docType
    rw [filter_documentNames, filter_documentNames]

/-! ### Choosing what was shown -/

/-- A disclosure depends on the selection only through what is returned. -/
theorem filter_eq_of_returned_eq {selection selection' : Option Selection}
    (same : ∀ docType c, store.IsFirst docType c → ∀ ns,
      returned requests selection c docType ns = returned requests selection' c docType ns) :
  filter store (.verifier requests selection) = filter store (.verifier requests selection')
  := by
  have disclose_eq (docType : String) (d : Disclosure) :
      disclose d (verifierTarget store requests selection docType)
        = disclose d (verifierTarget store requests selection' docType) := by
    cases first_eq : store.firstOfType? docType with
    | none => simp only [disclose, discloseNothing, verifierTarget, first_eq]
    | some c =>
      have answered : (verifierTarget store requests selection docType).answers c
          = (verifierTarget store requests selection' docType).answers c := by
        rw [answers_eq, answers_eq]
        apply List.map_congr_left
        intro ns _
        rw [foundIn_eq_mk, foundIn_eq_mk, same docType c (firstOfType?_eq_some_iff.mp first_eq)]
      have disclosed : discloseFrom d (verifierTarget store requests selection docType) c
          = discloseFrom d (verifierTarget store requests selection' docType) c := by
        rw [discloseFrom, discloseFrom, answered]
        rfl
      simpa only [disclose, verifierTarget, first_eq] using disclosed
  rw [filter, filter, targets_verifier, targets_verifier, List.foldl_map, List.foldl_map]
  apply List.foldl_ext
  intro d docType _
  exact disclose_eq docType d

theorem chosen_ofItems (items : ItemsByDocument) (docType ns : String) :
  (Selection.ofItems items).chosen docType ns = (items.listed docType ns).getD []
  := by
  rw [Selection.chosen, Selection.ofItems, TextMap.find?_map, ItemsByDocument.listed]
  cases items.find? docType with
  | none => rfl
  | some namespaces =>
    dsimp only [Option.map_some, Option.getD_some, Option.bind_some]
    rw [TextMap.find?_map]

/-- Whoever chooses what was shown gets everything. -/
theorem returned_shown {docType : String} {c : Credential} (first : store.IsFirst docType c)
    (ns : String) :
  returned requests (some (.ofItems (filter store (.verifier requests none)).validItems)) c
      docType ns
    = returned requests none c docType ns
  := by
  rw [returned_some, List.filter_eq_self]
  intro item hitem
  rw [decide_eq_true_eq, chosen_ofItems, filter_validItems_listed store requests none first]
  have listed : nonEmpty? ((returned requests none c docType ns).map
        (·.content.elementIdentifier))
      = some ((returned requests none c docType ns).map (·.content.elementIdentifier)) := by
    rw [nonEmpty?_eq_some_iff]
    exact ⟨rfl, List.ne_nil_of_mem (List.mem_map_of_mem hitem)⟩
  rw [listed]
  exact List.mem_map_of_mem hitem

/-- The choice of the user narrows a disclosure and changes nothing else.  Choosing all items that
are shown for the whole request leaves it as it is. -/
theorem filter_isNarrowed (store : CredentialStore) (requests : List ItemsRequest)
    (s : Selection) :
  IsNarrowed s (filter store (.verifier requests none))
      (filter store (.verifier requests (some s)))
    ∧ filter store (.verifier requests
        (some (.ofItems (filter store (.verifier requests none)).validItems)))
      = filter store (.verifier requests none)
  := by
  constructor
  · exact isNarrowed_filter store requests s
  · apply filter_eq_of_returned_eq
    intro docType c first ns
    exact returned_shown first ns

end

end Disclosure

end Presentment
