import Presentment.Proofs.Disclosure.Outcome

/-!
# What is returned

`returned` lists the items of a credential that a reader gets from a namespace, and `unheld`
the elements that it asks for in vain.  The lemmas show that this is what a credential
answers, one namespace at a time and then for a whole document type.
-/

namespace Presentment

/-- `c` is the credential of a document type with the least identifier. -/
structure CredentialStore.IsFirst (store : CredentialStore) (docType : String) (c : Credential) :
    Prop where
  mem : c ∈ store.toList
  docType_eq : c.docType = docType
  id_le : ∀ c' ∈ store.toList, c'.docType = docType → c.id ≤ c'.id

/-- The elements that a selection names in a namespace of a document. -/
def Selection.chosen (s : Selection) (docType ns : String) : List String :=
  (((s.find? docType).getD ∅).find? ns).getD []

namespace Disclosure

/-- Whether an element is to be returned from a namespace with items `held`: it is asked for,
not superseded, and chosen if the user was asked. -/
def IsReturned (requests : List ItemsRequest) (selection : Option Selection)
    (docType ns : String) (held : List (Embedded IssuerSignedItem)) (identifier : String) : Prop :=
  identifier ∈ asked requests docType ns
    ∧ identifier ∉ AgeAttestation.superseded (asked requests docType ns) held
    ∧ ∀ s ∈ selection, identifier ∈ s.chosen docType ns

instance (requests : List ItemsRequest) (selection : Option Selection) (docType ns : String)
    (held : List (Embedded IssuerSignedItem)) :
    DecidablePred (IsReturned requests selection docType ns held) :=
  fun _ => inferInstanceAs (Decidable (_ ∧ _ ∧ _))

/-- The items of a credential that are to be returned from a namespace. -/
def returned (requests : List ItemsRequest) (selection : Option Selection) (c : Credential)
    (docType ns : String) : List (Embedded IssuerSignedItem) :=
  let held := c.issuerSigned.items ns
  held.filter (fun item =>
    IsReturned requests selection docType ns held item.content.elementIdentifier)

/-- The elements of a namespace that are asked for and not held; superseded ones do not count
if anything is held. -/
def unheld (requests : List ItemsRequest) (c : Credential) (docType ns : String) : List String :=
  let asked := asked requests docType ns
  let held := c.issuerSigned.items ns
  if held = [] then asked
  else asked.filter (fun identifier =>
    identifier ∉ AgeAttestation.superseded asked held
      ∧ ∀ item ∈ held, item.content.elementIdentifier ≠ identifier)

/-! ### The first credential of a type -/

theorem pairwise_id_lt (store : CredentialStore) :
  store.toList.Pairwise (fun c c' => c.id < c'.id)
  := by
  rw [CredentialStore.toList, TextMap.values, List.pairwise_map]
  apply store.credentials.sorted.imp_of_mem
  intro a b ha hb hlt
  rw [store.id_eq a ha, store.id_eq b hb]
  exact hlt

theorem firstOfType?_eq_some_iff {store : CredentialStore} {docType : String} {c : Credential} :
  store.firstOfType? docType = some c ↔ store.IsFirst docType c
  := by
  rw [CredentialStore.firstOfType?, List.find?_eq_some_iff_append]
  have sorted := pairwise_id_lt store
  constructor
  · rintro ⟨htype, before, after, heq, hbefore⟩
    rw [heq] at sorted
    have later := (List.pairwise_cons.mp (List.pairwise_append.mp sorted).2.1).1
    constructor
    · rw [heq]
      simp
    · simpa using htype
    · intro c' hmem htype'
      rw [heq, List.mem_append, List.mem_cons] at hmem
      rcases hmem with hmem | rfl | hmem
      · have := hbefore c' hmem
        simp [htype'] at this
      · exact String.le_refl _
      · exact String.not_lt.mp (String.lt_asymm (later c' hmem))
  · rintro ⟨hmem, htype, hle⟩
    obtain ⟨before, after, heq⟩ := List.append_of_mem hmem
    use by simpa using htype, before, after, heq
    intro c' hc'
    rw [heq] at sorted
    have hlt : c'.id < c.id := (List.pairwise_append.mp sorted).2.2 c' hc' c List.mem_cons_self
    have hne : c'.docType ≠ docType := by
      intro htype'
      apply String.not_le.mpr hlt
      apply hle c' _ htype'
      rw [heq]
      exact List.mem_append_left _ hc'
    simpa using hne

theorem firstOfType?_eq_none_iff {store : CredentialStore} {docType : String} :
  store.firstOfType? docType = none ↔ ∀ c ∈ store.toList, c.docType ≠ docType
  := by
  simp [CredentialStore.firstOfType?]

/-! ### A namespace -/

/-- The target for a document type that a reader asks for. -/
def verifierTarget (store : CredentialStore) (requests : List ItemsRequest)
    (selection : Option Selection) (docType : String) : Target where
  key := docType
  docType := docType
  credential := store.firstOfType? docType
  namespaces := askedItems requests docType
  chosen := selection.map (fun s => (s.find? docType).getD ∅)
  agePolicy := true

theorem targets_verifier (store : CredentialStore) (requests : List ItemsRequest)
    (selection : Option Selection) :
  targets store (.verifier requests selection)
    = (askedTypes requests).map (verifierTarget store requests selection)
  := by
  rw [targets, merge_eq, List.map_map]
  rfl

/-- What a credential answers in a namespace. -/
def foundIn (store : CredentialStore) (requests : List ItemsRequest)
    (selection : Option Selection) (docType : String) (c : Credential) (ns : String) : Match :=
  matchNamespace c (verifierTarget store requests selection docType) ns
    ((asked requests docType ns).map (askedItem (mentions requests docType ns)))

theorem answers_eq (store : CredentialStore) (requests : List ItemsRequest)
    (selection : Option Selection) (docType : String) (c : Credential) :
  (verifierTarget store requests selection docType).answers c
    = (askedNamespaces requests docType).map (fun ns =>
      (ns, foundIn store requests selection docType c ns))
  := by
  rw [Target.answers, verifierTarget, askedItems, List.map_map]
  rfl

/-- The item that a credential shows for an element that is asked for. -/
def shownItem (requests : List ItemsRequest) (docType : String) (c : Credential)
    (ns identifier : String) : RequestItem :=
  withName c ns (askedItem (mentions requests docType ns) identifier)

theorem elementIdentifier_shownItem (requests : List ItemsRequest) (docType : String)
    (c : Credential) (ns identifier : String) :
  (shownItem requests docType c ns identifier).elementIdentifier = identifier
  := by
  simp [shownItem, withName, askedItem]

/-- Items with names that are made from identifiers are those of these identifiers. -/
theorem map_elementIdentifier {g : String → RequestItem}
    (identifies : ∀ identifier, (g identifier).elementIdentifier = identifier)
    (ids : List String) :
  (ids.map g).map (·.elementIdentifier) = ids
  := by
  rw [List.map_map]
  exact (List.map_congr_left (fun id _ => identifies id)).trans (List.map_id ids)

section

variable (held : List (Embedded IssuerSignedItem)) (items : List RequestItem)
  (chosen : Option (List String))

/-- The items that are not superseded. -/
def current : List RequestItem :=
  items.filter (fun r =>
    !(AgeAttestation.superseded (items.map (·.elementIdentifier)) held).contains r.elementIdentifier)

/-- What is found follows from what is returned, and from the items that are not superseded. -/
theorem matchHeld_eq_mk :
  matchHeld held items chosen true = {
    returned := (matchHeld held items chosen true).returned
    valid := (matchHeld held items chosen true).returned.filterMap (fun item =>
      (current held items).find? (fun r => r.elementIdentifier == item.content.elementIdentifier))
    missing := (current held items).filter (fun r =>
      !held.any (fun item => item.content.elementIdentifier == r.elementIdentifier)) }
  := rfl

theorem mem_current_iff {identifier : String} :
  (current held items).any (fun r => r.elementIdentifier == identifier) = true
    ↔ identifier ∈ items.map (·.elementIdentifier)
      ∧ identifier ∉ AgeAttestation.superseded (items.map (·.elementIdentifier)) held
  := by
  rw [List.any_eq_true]
  simp only [current, List.mem_filter, Bool.not_eq_true', List.contains_eq_mem,
    decide_eq_false_iff_not, beq_iff_eq, List.mem_map]
  constructor
  · rintro ⟨r, ⟨hmem, hnot⟩, rfl⟩
    exact ⟨⟨r, hmem, rfl⟩, hnot⟩
  · rintro ⟨⟨r, hmem, rfl⟩, hnot⟩
    exact ⟨r, ⟨hmem, hnot⟩, rfl⟩

theorem matchHeld_returned :
  (matchHeld held items chosen true).returned
    = held.filter (fun item => decide (
        item.content.elementIdentifier ∈ items.map (·.elementIdentifier)
        ∧ item.content.elementIdentifier
          ∉ AgeAttestation.superseded (items.map (·.elementIdentifier)) held
        ∧ ∀ ids ∈ chosen, item.content.elementIdentifier ∈ ids))
  := by
  apply List.filter_congr
  intro item _
  rw [Bool.eq_iff_iff, Bool.and_eq_true, decide_eq_true_iff, ← and_assoc, ← mem_current_iff]
  apply and_congr Iff.rfl
  cases chosen with
  | none => simp
  | some ids => simp

section

variable {g : String → RequestItem}
  (identifies : ∀ identifier, (g identifier).elementIdentifier = identifier) (ids : List String)
include identifies

theorem current_map :
  current held (ids.map g)
    = (ids.filter (fun id => id ∉ AgeAttestation.superseded ids held)).map g
  := by
  rw [current, map_elementIdentifier identifies, List.filter_map]
  congr 1
  apply List.filter_congr
  intro id _
  simp [identifies]

/-- An item that is made from an identifier is found by it. -/
theorem find?_map_of_mem {identifier : String} (h : identifier ∈ ids) :
  (ids.map g).find? (fun r => r.elementIdentifier == identifier) = some (g identifier)
  := by
  obtain ⟨r, found⟩ : ∃ r, (ids.map g).find? (fun r => r.elementIdentifier == identifier)
      = some r := by
    rw [← Option.isSome_iff_exists, List.find?_isSome]
    exact ⟨g identifier, List.mem_map_of_mem h, by simp [identifies]⟩
  obtain ⟨id, -, rfl⟩ := List.mem_map.mp (List.mem_of_find?_eq_some found)
  have named := List.find?_some found
  rw [beq_iff_eq, identifies] at named
  rw [found, named]

/-- The requested items that are answered are those of the returned ones. -/
theorem matchHeld_valid :
  (matchHeld held (ids.map g) chosen true).valid
    = (matchHeld held (ids.map g) chosen true).returned.map
        (fun item => g item.content.elementIdentifier)
  := by
  have answered : ∀ item ∈ (matchHeld held (ids.map g) chosen true).returned,
      (current held (ids.map g)).find? (fun r =>
          r.elementIdentifier == item.content.elementIdentifier)
        = some (g item.content.elementIdentifier) := by
    intro item hitem
    rw [matchHeld_returned, map_elementIdentifier identifies, List.mem_filter,
      decide_eq_true_iff] at hitem
    obtain ⟨-, hasked, hnot, -⟩ := hitem
    rw [current_map held identifies]
    apply find?_map_of_mem identifies
    exact List.mem_filter.mpr ⟨hasked, decide_eq_true hnot⟩
  rw [matchHeld_eq_mk]
  exact (List.filterMap_congr answered).trans (congrFun List.filterMap_eq_map' _)

theorem matchHeld_missing :
  (matchHeld held (ids.map g) chosen true).missing
    = (ids.filter (fun id => id ∉ AgeAttestation.superseded ids held
        ∧ ∀ item ∈ held, item.content.elementIdentifier ≠ id)).map g
  := by
  rw [matchHeld_eq_mk]
  dsimp only
  rw [current_map held identifies, List.filter_map, List.filter_filter]
  congr 1
  apply List.filter_congr
  intro id _
  rw [Bool.eq_iff_iff]
  simp [identifies, and_comm]

end

end

section

variable (store : CredentialStore) (requests : List ItemsRequest) (selection : Option Selection)
  (docType : String) (c : Credential) (ns : String)

theorem foundIn_of_nil (h : c.issuerSigned.items ns = []) :
  foundIn store requests selection docType c ns
    = ⟨[], [], (asked requests docType ns).map (shownItem requests docType c ns)⟩
  := by
  rw [foundIn, matchNamespace, if_pos (List.isEmpty_iff.mpr h), List.map_map]
  rfl

theorem foundIn_of_ne_nil (h : c.issuerSigned.items ns ≠ []) :
  foundIn store requests selection docType c ns
    = matchHeld (c.issuerSigned.items ns)
        ((asked requests docType ns).map (shownItem requests docType c ns))
        (selection.map (·.chosen docType ns)) true
  := by
  rw [foundIn, matchNamespace, if_neg (fun e => h (List.isEmpty_iff.mp e)), List.map_map]
  dsimp only [verifierTarget]
  rw [Option.map_map]
  rfl

theorem foundIn_returned :
  (foundIn store requests selection docType c ns).returned
    = returned requests selection c docType ns
  := by
  by_cases h : c.issuerSigned.items ns = []
  · rw [foundIn_of_nil _ _ _ _ _ _ h, returned, h]
    rfl
  · rw [foundIn_of_ne_nil _ _ _ _ _ _ h, matchHeld_returned,
      map_elementIdentifier (elementIdentifier_shownItem requests docType c ns), returned]
    apply List.filter_congr
    intro item _
    rw [decide_eq_decide, IsReturned]
    cases selection with
    | none => simp
    | some s => simp

theorem foundIn_valid :
  (foundIn store requests selection docType c ns).valid
    = (returned requests selection c docType ns).map
        (fun item => shownItem requests docType c ns item.content.elementIdentifier)
  := by
  rw [← foundIn_returned store]
  by_cases h : c.issuerSigned.items ns = []
  · rw [foundIn_of_nil _ _ _ _ _ _ h]
    rfl
  · rw [foundIn_of_ne_nil _ _ _ _ _ _ h]
    exact matchHeld_valid _ _ (elementIdentifier_shownItem requests docType c ns) _

theorem foundIn_missing :
  (foundIn store requests selection docType c ns).missing
    = (unheld requests c docType ns).map (shownItem requests docType c ns)
  := by
  by_cases h : c.issuerSigned.items ns = []
  · rw [foundIn_of_nil _ _ _ _ _ _ h, unheld, if_pos h]
  · rw [foundIn_of_ne_nil _ _ _ _ _ _ h, unheld, if_neg h]
    exact matchHeld_missing _ _ (elementIdentifier_shownItem requests docType c ns) _

/-- What is found in a namespace. -/
theorem foundIn_eq_mk :
  foundIn store requests selection docType c ns = {
    returned := returned requests selection c docType ns
    valid := (returned requests selection c docType ns).map
      (fun item => shownItem requests docType c ns item.content.elementIdentifier)
    missing := (unheld requests c docType ns).map (shownItem requests docType c ns) }
  := by
  rw [← foundIn_valid store, ← foundIn_missing store requests selection, ← foundIn_returned store]

/-- Nothing is returned from a namespace that is not asked for. -/
theorem returned_eq_nil (h : ns ∉ askedNamespaces requests docType) :
  returned requests selection c docType ns = []
  := by
  apply List.filter_eq_nil_iff.mpr
  intro item _ hitem
  have hasked := (decide_eq_true_iff.mp hitem).1
  rw [asked_eq_nil h] at hasked
  cases hasked

/-- Nothing is missing in a namespace that is not asked for. -/
theorem unheld_eq_nil (h : ns ∉ askedNamespaces requests docType) :
  unheld requests c docType ns = []
  := by
  rw [unheld, asked_eq_nil h]
  split
  · rfl
  · rfl

/-! ### A document type -/

theorem find?_collect_answers {β : Type} (f : Match → Option β) (r : Option β)
    (asked : f (foundIn store requests selection docType c ns) = r)
    (unasked : ns ∉ askedNamespaces requests docType → r = none) :
  (collect f ((verifierTarget store requests selection docType).answers c)).find? ns = r
  := by
  rw [answers_eq, find?_collect _ _ (nodup_askedNamespaces requests docType)]
  split
  · exact asked
  · rename_i h
    rw [unasked h]

theorem find?_returned :
  (collect (fun m => NonEmptyList.ofList? m.returned)
      ((verifierTarget store requests selection docType).answers c)).find? ns
    = NonEmptyList.ofList? (returned requests selection c docType ns)
  := by
  apply find?_collect_answers
  · rw [foundIn_returned]
  · intro h
    rw [returned_eq_nil requests selection docType c ns h]
    rfl

theorem find?_answeredItems :
  (answeredItems ((verifierTarget store requests selection docType).answers c)).find? ns
    = nonEmpty? ((returned requests selection c docType ns).map
        (fun item => shownItem requests docType c ns item.content.elementIdentifier))
  := by
  apply find?_collect_answers
  · rw [foundIn_valid]
  · intro h
    rw [returned_eq_nil requests selection docType c ns h]
    rfl

theorem find?_missingItems :
  (missingItems ((verifierTarget store requests selection docType).answers c)).find? ns
    = nonEmpty? ((unheld requests c docType ns).map (shownItem requests docType c ns))
  := by
  apply find?_collect_answers
  · rw [foundIn_missing]
  · intro h
    rw [unheld_eq_nil requests docType c ns h]
    rfl

theorem returned_ne_nil_iff :
  returned requests selection c docType ns ≠ []
    ↔ ∃ item ∈ c.issuerSigned.items ns,
      IsReturned requests selection docType ns (c.issuerSigned.items ns)
        item.content.elementIdentifier
  := by
  rw [returned, ne_eq, List.filter_eq_nil_iff]
  simp

end

section

variable {store : CredentialStore} {requests : List ItemsRequest} {selection : Option Selection}
  {docType : String} {c : Credential}

theorem target_document?_of_isFirst (first : store.IsFirst docType c) :
  (verifierTarget store requests selection docType).document?
    = document? c ((verifierTarget store requests selection docType).answers c)
  := by
  rw [Target.document?, verifierTarget, firstOfType?_eq_some_iff.mpr first]
  rfl

theorem find?_valid_of_isFirst (first : store.IsFirst docType c) (ns : String) :
  (verifierTarget store requests selection docType).valid.find? ns
    = nonEmpty? ((returned requests selection c docType ns).map
        (fun item => shownItem requests docType c ns item.content.elementIdentifier))
  := by
  rw [← find?_answeredItems store, Target.valid, verifierTarget, firstOfType?_eq_some_iff.mpr first]

theorem find?_missing_of_isFirst (first : store.IsFirst docType c) (ns : String) :
  (verifierTarget store requests selection docType).missing.find? ns
    = nonEmpty? ((unheld requests c docType ns).map (shownItem requests docType c ns))
  := by
  rw [← find?_missingItems store requests selection, Target.missing, verifierTarget,
    firstOfType?_eq_some_iff.mpr first]

/-- Without a credential everything that is asked for is missing. -/
theorem find?_missing_of_none (h : store.firstOfType? docType = none) (ns : String) :
  (verifierTarget store requests selection docType).missing.find? ns
    = nonEmpty? ((asked requests docType ns).map (askedItem (mentions requests docType ns)))
  := by
  have missing_eq : (verifierTarget store requests selection docType).missing
      = collect nonEmpty? (askedItems requests docType) := by
    rw [Target.missing, verifierTarget, h]
  rw [missing_eq, askedItems, find?_collect _ _ (nodup_askedNamespaces requests docType)]
  split
  · rfl
  · rename_i h
    rw [asked_eq_nil h]
    rfl

/-- A credential leads to a document if it returns something from some namespace. -/
theorem document?_isSome_iff :
  (document? c ((verifierTarget store requests selection docType).answers c)).isSome
    ↔ ∃ ns, returned requests selection c docType ns ≠ []
  := by
  rw [document?]
  have found := find?_returned store requests selection docType c
  cases h : NonEmptyMap.ofMap? (collect (fun m => NonEmptyList.ofList? m.returned)
      ((verifierTarget store requests selection docType).answers c)) with
  | none =>
    rw [NonEmptyMap.ofMap?_eq_none_iff] at h
    simp only [h] at found
    simpa using fun ns => NonEmptyList.ofList?_eq_none_iff.mp (found ns).symm
  | some namespaces =>
    rw [NonEmptyMap.ofMap?_eq_some_iff] at h
    obtain ⟨ns, hns⟩ := TextMap.isEmpty_eq_false_iff.mp namespaces.nonempty
    rw [h, found, Option.isSome_iff_ne_none, ne_eq, NonEmptyList.ofList?_eq_none_iff] at hns
    simpa using ⟨ns, hns⟩

/-- What is in the document that a credential leads to. -/
theorem of_document?_eq_some {document : DisclosedDocument}
    (h : document? c ((verifierTarget store requests selection docType).answers c)
      = some document) :
  document.docType = c.docType ∧ document.documentId = c.id
    ∧ document.issuerSigned.issuerAuth = c.issuerSigned.issuerAuth
    ∧ ∃ namespaces, document.issuerSigned.namespaces = some namespaces
      ∧ ∀ ns, (namespaces.find? ns).map (·.toList)
          = nonEmpty? (returned requests selection c docType ns)
  := by
  obtain ⟨namespaces, hnamespaces, heq⟩ := Option.bind_eq_some_iff.mp h
  cases heq
  use rfl, rfl, rfl, namespaces, rfl
  intro ns
  rw [NonEmptyMap.find?, NonEmptyMap.ofMap?_eq_some_iff.mp hnamespaces, find?_returned,
    ofList?_map_toList]

theorem of_target_document?_eq_some {document : DisclosedDocument}
    (h : (verifierTarget store requests selection docType).document? = some document) :
  document.docType = docType
    ∧ ∃ c, store.IsFirst docType c ∧ document.documentId = c.id
      ∧ document.issuerSigned.issuerAuth = c.issuerSigned.issuerAuth
      ∧ ∃ namespaces, document.issuerSigned.namespaces = some namespaces
        ∧ ∀ ns, (namespaces.find? ns).map (·.toList)
            = nonEmpty? (returned requests selection c docType ns)
  := by
  obtain ⟨c, hc, hdocument⟩ := Option.bind_eq_some_iff.mp h
  have first : store.IsFirst docType c := firstOfType?_eq_some_iff.mp hc
  obtain ⟨htype, hid, hauth, hnamespaces⟩ := of_document?_eq_some hdocument
  use htype.trans first.docType_eq, c, first, hid, hauth

theorem target_document?_isSome_iff :
  (verifierTarget store requests selection docType).document?.isSome
    ↔ ∃ c, store.IsFirst docType c ∧ ∃ ns, returned requests selection c docType ns ≠ []
  := by
  constructor
  · intro h
    obtain ⟨document, hdocument⟩ := Option.isSome_iff_exists.mp h
    obtain ⟨c, hc, -⟩ := Option.bind_eq_some_iff.mp hdocument
    have first : store.IsFirst docType c := firstOfType?_eq_some_iff.mp hc
    rw [target_document?_of_isFirst first, document?_isSome_iff] at h
    use c, first
  · rintro ⟨c, first, hns⟩
    rw [target_document?_of_isFirst first, document?_isSome_iff]
    exact hns

theorem target_error (store : CredentialStore) (requests : List ItemsRequest)
    (selection : Option Selection) (docType : String) :
  (verifierTarget store requests selection docType).error = documentError docType
  := by
  rw [Target.error, verifierTarget]
  cases h : store.firstOfType? docType with
  | none => rfl
  | some c => exact congrArg documentError (firstOfType?_eq_some_iff.mp h).docType_eq

end

end Disclosure

end Presentment
