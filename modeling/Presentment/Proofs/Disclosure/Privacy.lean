import Mathlib.Data.List.Find
import Presentment.Proofs.Disclosure.Response

/-!
# What is withheld stays hidden

What a disclosure makes of an item that it does not return depends only on which element the
item is of; age attestations are the exception, because they are compared with each other.  So
two wallets that `AgreesOn` every item that matters disclose the same, and lead to the same
response.
-/

namespace Presentment

/-- Whether a disclosure returns an element of a credential. -/
def Disclosure.Returns (d : Disclosure) (id ns identifier : String) : Prop :=
  ∃ document ∈ d.documents, document.documentId = id
    ∧ ∃ item ∈ document.issuerSigned.items ns, item.content.elementIdentifier = identifier

/-- Whether the value of an element of a credential matters: it is returned, or says how old the
holder is. -/
def Disclosure.Matters (d : Disclosure) (id ns identifier : String) : Prop :=
  d.Returns id ns identifier ∨ (AgeAttestation.age? identifier).isSome

/-- Two items of the same element, and the same item if the element matters. -/
structure IssuerSignedItem.AgreesOn (matters : (identifier : String) → Prop)
    (item item' : Embedded IssuerSignedItem) : Prop where
  element_eq : item.content.elementIdentifier = item'.content.elementIdentifier
  bytes_eq : matters item.content.elementIdentifier → item.bytes = item'.bytes

/-- Two credentials that differ in nothing but the items of elements that do not matter. -/
structure Credential.AgreesOn (matters : (ns identifier : String) → Prop)
    (c c' : Credential) : Prop where
  id_eq : c.id = c'.id
  docType_eq : c.docType = c'.docType
  displayName_eq : c.displayName = c'.displayName
  elementNames_eq : c.elementNames = c'.elementNames
  privateKey_eq : c.privateKey = c'.privateKey
  unlockData_eq : c.unlockData = c'.unlockData
  issuerAuth_eq : c.issuerSigned.issuerAuth = c'.issuerSigned.issuerAuth
  items : ∀ ns, List.Forall₂ (IssuerSignedItem.AgreesOn (matters ns))
    (c.issuerSigned.items ns) (c'.issuerSigned.items ns)

/-- Two wallets that differ in nothing but the items of elements that do not matter. -/
def CredentialStore.AgreesOn (matters : (id ns identifier : String) → Prop)
    (store store' : CredentialStore) : Prop :=
  List.Forall₂ (fun c c' => c.AgreesOn (matters c.id) c') store.toList store'.toList

/-! ### Items -/

/-- The same search in two related lists finds what is related. -/
theorem rel_find? {α β : Type} {r : α → β → Prop} {p : α → Bool} {q : β → Bool}
    (same : ∀ a b, r a b → p a = q b) {as : List α} {bs : List β} (h : List.Forall₂ r as bs) :
  Option.Rel (fun a b => r a b ∧ p a) (as.find? p) (bs.find? q)
  := by
  induction h with
  | nil => exact .none
  | @cons a b as bs hr _ ih =>
    rw [List.find?_cons, List.find?_cons, ← same a b hr]
    split
    · rename_i hp
      exact .some ⟨hr, hp⟩
    · exact ih

section

variable {matters : String → Prop} {held held' : List (Embedded IssuerSignedItem)}

/-- Items that agree are those of the same elements. -/
theorem map_identifier_eq (agree : List.Forall₂ (IssuerSignedItem.AgreesOn matters) held held') :
  held.map (·.content.elementIdentifier) = held'.map (·.content.elementIdentifier)
  := by
  induction agree with
  | nil => rfl
  | cons h _ ih => rw [List.map_cons, List.map_cons, h.element_eq, ih]

/-- Items that agree hold an element or not. -/
theorem any_identifier_eq (agree : List.Forall₂ (IssuerSignedItem.AgreesOn matters) held held')
    (identifier : String) :
  held.any (fun item => item.content.elementIdentifier == identifier)
    = held'.any (fun item => item.content.elementIdentifier == identifier)
  := by
  have identifiers_eq := congrArg (·.any (· == identifier)) (map_identifier_eq agree)
  simpa only [List.any_map, Function.comp_def] using identifiers_eq

/-- Choosing elements that matter chooses the same items. -/
theorem filter_identifier_eq
    (agree : List.Forall₂ (IssuerSignedItem.AgreesOn matters) held held') {p : String → Bool}
    (chosen : ∀ item ∈ held, p item.content.elementIdentifier →
      matters item.content.elementIdentifier) :
  held.filter (fun item => p item.content.elementIdentifier)
    = held'.filter (fun item => p item.content.elementIdentifier)
  := by
  induction agree with
  | nil => rfl
  | @cons item item' held held' h _ ih =>
    replace ih := ih (fun item hitem => chosen item (List.mem_cons_of_mem _ hitem))
    rw [List.filter_cons, List.filter_cons, ← h.element_eq, ih]
    split
    · rename_i hp
      rw [Embedded.eq_of_bytes_eq (h.bytes_eq (chosen item List.mem_cons_self hp))]
    · rfl

/-- An element that matters attests the same. -/
theorem AgeAttestation.attested?_eq
    (agree : List.Forall₂ (IssuerSignedItem.AgreesOn matters) held held') {identifier : String}
    (h : matters identifier) :
  attested? held identifier = attested? held' identifier
  := by
  have found := rel_find? (p := fun item => item.content.elementIdentifier == identifier)
    (q := fun item => item.content.elementIdentifier == identifier)
    (fun item item' hitem => by rw [hitem.element_eq]) agree
  rw [attested?, attested?]
  generalize held.find? _ = item at found ⊢
  generalize held'.find? _ = item' at found ⊢
  cases found with
  | none => rfl
  | some found =>
    obtain ⟨hitem, hidentifier⟩ := found
    rw [← beq_iff_eq.mp hidentifier] at h
    rw [Embedded.eq_of_bytes_eq (hitem.bytes_eq h)]

/-- The age attestations alone tell which of them are superseded. -/
theorem AgeAttestation.superseded_eq
    (agree : List.Forall₂ (IssuerSignedItem.AgreesOn matters) held held')
    (ages : ∀ identifier, (age? identifier).isSome → matters identifier)
    (identifiers : List String) :
  superseded identifiers held = superseded identifiers held'
  := by
  have attested : ∀ r ∈ requested identifiers, attested? held r.2 = attested? held' r.2 := by
    intro r hr
    obtain ⟨identifier, -, hmap⟩ := List.mem_filterMap.mp hr
    obtain ⟨age, hage, rfl⟩ := Option.map_eq_some_iff.mp hmap
    apply attested?_eq agree
    exact ages identifier (Option.isSome_of_eq_some hage)
  have nearest_eq : nearest held (requested identifiers) = nearest held' (requested identifiers)
      := by
    have chosen (b : Bool) :
        (requested identifiers).filter (fun r => attested? held r.2 == some b)
          = (requested identifiers).filter (fun r => attested? held' r.2 == some b) :=
      List.filter_congr (fun r hr => by rw [attested r hr])
    rw [nearest, nearest, chosen, chosen]
  rw [superseded, superseded, nearest_eq]

end

/-! ### Credentials -/

namespace Disclosure

/-- What is found among items that agree is the same if everything that is returned matters. -/
theorem matchHeld_eq {matters : String → Prop} {held held' : List (Embedded IssuerSignedItem)}
    (agree : List.Forall₂ (IssuerSignedItem.AgreesOn matters) held held')
    (ages : ∀ identifier, (AgeAttestation.age? identifier).isSome → matters identifier)
    (items : List RequestItem) (chosen : Option (List String))
    (returned : ∀ item ∈ (matchHeld held items chosen true).returned,
      matters item.content.elementIdentifier) :
  matchHeld held items chosen true = matchHeld held' items chosen true
  := by
  have superseded_eq := AgeAttestation.superseded_eq agree ages (items.map (·.elementIdentifier))
  have returned_eq : (matchHeld held items chosen true).returned
      = (matchHeld held' items chosen true).returned := by
    rw [matchHeld_returned] at returned
    rw [matchHeld_returned, matchHeld_returned, ← superseded_eq]
    exact filter_identifier_eq agree
      (p := fun identifier => decide (identifier ∈ items.map (·.elementIdentifier)
        ∧ identifier ∉ AgeAttestation.superseded (items.map (·.elementIdentifier)) held
        ∧ ∀ ids ∈ chosen, identifier ∈ ids))
      (fun item hitem hchosen => returned item (List.mem_filter.mpr ⟨hitem, hchosen⟩))
  have current_eq : current held items = current held' items := by
    rw [current, current, superseded_eq]
  rw [matchHeld_eq_mk held, matchHeld_eq_mk held', returned_eq, current_eq]
  simp only [any_identifier_eq agree]

section

variable {store store' : CredentialStore} {requests : List ItemsRequest}
  {selection : Option Selection} {docType : String} {c c' : Credential}

section

variable {matters : (ns identifier : String) → Prop} (agree : c.AgreesOn matters c')
include agree

/-- Credentials that agree answer the same in a namespace. -/
theorem foundIn_eq
    (ages : ∀ ns identifier, (AgeAttestation.age? identifier).isSome → matters ns identifier)
    {ns : String} (hreturned : ∀ item ∈ returned requests selection c docType ns,
      matters ns item.content.elementIdentifier) :
  foundIn store requests selection docType c ns = foundIn store' requests selection docType c' ns
  := by
  have shown : shownItem requests docType c ns = shownItem requests docType c' ns := by
    funext identifier
    rw [shownItem, shownItem, withName, withName, Credential.elementName?, Credential.elementName?,
      agree.elementNames_eq]
  by_cases h : c.issuerSigned.items ns = []
  · have h' : c'.issuerSigned.items ns = [] := by
      have items := agree.items ns
      rw [h] at items
      exact List.forall₂_nil_left_iff.mp items
    rw [foundIn_of_nil _ _ _ _ _ _ h, foundIn_of_nil _ _ _ _ _ _ h', shown]
  · have h' : c'.issuerSigned.items ns ≠ [] := by
      intro h'
      have items := agree.items ns
      rw [h'] at items
      exact h (List.forall₂_nil_right_iff.mp items)
    rw [← foundIn_returned store, foundIn_of_ne_nil _ _ _ _ _ _ h] at hreturned
    rw [foundIn_of_ne_nil _ _ _ _ _ _ h, foundIn_of_ne_nil _ _ _ _ _ _ h',
      matchHeld_eq (agree.items ns) (ages ns) _ _ hreturned, shown]

/-- Credentials that agree lead to the same document for what is found. -/
theorem document?_eq (found : List (String × Match)) :
  document? c found = document? c' found
  := by
  rw [document?, document?, agree.id_eq, agree.docType_eq]
  dsimp only
  rw [agree.issuerAuth_eq]

/-- Credentials that agree are disclosed alike. -/
theorem discloseFrom_eq {t t' : Target} (key_eq : t.key = t'.key)
    (answers_eq : t.answers c = t'.answers c') (d : Disclosure) :
  discloseFrom d t c = discloseFrom d t' c'
  := by
  rw [discloseFrom, discloseFrom, key_eq, answers_eq, agree.displayName_eq, agree.docType_eq,
    document?_eq agree]

end

/-- What a credential returns for a document type is returned for the request. -/
theorem returns_of_mem_returned (first : store.IsFirst docType c) {ns : String}
    {item : Embedded IssuerSignedItem} (h : item ∈ returned requests selection c docType ns) :
  (filter store (.verifier requests selection)).Returns c.id ns item.content.elementIdentifier
  := by
  have leads : (verifierTarget store requests selection docType).document?.isSome :=
    target_document?_isSome_iff.mpr ⟨c, first, ns, List.ne_nil_of_mem h⟩
  obtain ⟨document, hdocument, rfl⟩ := (exists_document_iff store requests selection).mpr leads
  obtain ⟨c', first', id_eq, items_eq⟩ := filter_document_items hdocument
  obtain rfl : c = c' := Option.some_inj.mp
    ((firstOfType?_eq_some_iff.mpr first).symm.trans (firstOfType?_eq_some_iff.mpr first'))
  rw [← items_eq] at h
  exact ⟨document, hdocument, id_eq, item, h, rfl⟩

end

end Disclosure

/-! ### Wallets -/

/-- A credential is found by its identifier. -/
theorem CredentialStore.find?_eq (store : CredentialStore) (id : String) :
  store.find? id = store.toList.find? (fun c => c.id == id)
  := by
  have keyed : store.credentials.entries.find? (fun entry => entry.1 == id)
      = store.credentials.entries.find? (fun entry => entry.2.id == id) :=
    List.find?_congr (fun entry hentry => by rw [store.id_eq entry hentry])
  rw [CredentialStore.find?, TextMap.find?, keyed, toList, TextMap.values, List.find?_map]
  rfl

namespace CredentialStore.AgreesOn

variable {matters : (id ns identifier : String) → Prop} {store store' : CredentialStore}
  (agree : store.AgreesOn matters store')
include agree

theorem firstOfType? (docType : String) :
  Option.Rel (fun c c' => c.AgreesOn (matters c.id) c' ∧ c.docType == docType)
    (store.firstOfType? docType) (store'.firstOfType? docType)
  := rel_find? (fun c c' hc => by rw [hc.docType_eq]) agree

theorem find? (id : String) :
  Option.Rel (fun c c' => c.AgreesOn (matters c.id) c' ∧ c.id == id)
    (store.find? id) (store'.find? id)
  := by
  rw [find?_eq, find?_eq]
  exact rel_find? (fun c c' hc => by rw [hc.id_eq]) agree

end CredentialStore.AgreesOn

namespace Disclosure

section

variable {matters : (id ns identifier : String) → Prop} {store store' : CredentialStore} {κ : Type}

/-- Wallets that agree make the same proofs. -/
theorem deviceSigned_eq (agree : store.AgreesOn matters store') (provider : SecurityProvider κ)
    (context : DeviceAuthContext) (document : DisclosedDocument) :
  deviceSigned provider store context document = deviceSigned provider store' context document
  := by
  have found := agree.find? document.documentId
  rw [deviceSigned, deviceSigned]
  generalize store.find? document.documentId = c at found ⊢
  generalize store'.find? document.documentId = c' at found ⊢
  cases found with
  | none => rfl
  | some found =>
    dsimp only
    rw [found.1.privateKey_eq, found.1.unlockData_eq]

/-- Wallets that agree lead to the same response for a disclosure. -/
theorem response_eq (agree : store.AgreesOn matters store') (provider : SecurityProvider κ)
    (context : Option DeviceAuthContext) (d : Disclosure) :
  d.response provider store context = d.response provider store' context
  := by
  have answer_eq : answer provider store context = answer provider store' context := by
    funext document
    simp only [answer, deviceSigned_eq agree]
  rw [response, response, answer_eq]

end

section

variable {store store' : CredentialStore} {requests : List ItemsRequest}
  {selection : Option Selection}
  (agree : store.AgreesOn (filter store (.verifier requests selection)).Matters store')
include agree

/-- A document type is disclosed alike from wallets that agree on what matters. -/
theorem disclose_eq (docType : String) (d : Disclosure) :
  disclose d (verifierTarget store requests selection docType)
    = disclose d (verifierTarget store' requests selection docType)
  := by
  have found := agree.firstOfType? docType
  generalize first_eq : store.firstOfType? docType = first at found
  generalize first_eq' : store'.firstOfType? docType = first' at found
  cases found with
  | none =>
    simp only [disclose, verifierTarget, first_eq, first_eq', discloseNothing]
  | @some c c' found =>
    have answers_eq : (verifierTarget store requests selection docType).answers c
        = (verifierTarget store' requests selection docType).answers c' := by
      rw [Disclosure.answers_eq, Disclosure.answers_eq]
      apply List.map_congr_left
      intro ns _
      rw [foundIn_eq found.1 (fun ns identifier hage => .inr hage) (fun item hitem =>
        .inl (returns_of_mem_returned (firstOfType?_eq_some_iff.mp first_eq) hitem))]
    have disclosed : discloseFrom d (verifierTarget store requests selection docType) c
        = discloseFrom d (verifierTarget store' requests selection docType) c' :=
      discloseFrom_eq found.1 rfl answers_eq d
    simpa only [disclose, verifierTarget, first_eq, first_eq'] using disclosed

/-- A request is answered alike from wallets that agree on what matters. -/
theorem filter_eq :
  filter store (.verifier requests selection) = filter store' (.verifier requests selection)
  := by
  rw [filter, filter, targets_verifier, targets_verifier, List.foldl_map, List.foldl_map]
  exact List.foldl_ext _ _ _ (fun d docType _ => disclose_eq agree docType d)

end

/-- What a disclosure does not return, and what does not attest an age, matters neither to the
disclosure nor to the response that it leads to. -/
theorem filter_isPrivate {store store' : CredentialStore} {requests : List ItemsRequest}
    {selection : Option Selection}
    (agree : store.AgreesOn (filter store (.verifier requests selection)).Matters store') :
  filter store (.verifier requests selection) = filter store' (.verifier requests selection)
    ∧ ∀ {κ : Type} (provider : SecurityProvider κ) (context : Option DeviceAuthContext),
      (filter store (.verifier requests selection)).response provider store context
        = (filter store' (.verifier requests selection)).response provider store' context
  := by
  constructor
  · exact filter_eq agree
  · intro κ provider context
    rw [response_eq agree, filter_eq agree]

/-! ### An address that is withheld -/

/-- The height of the holder. -/
def heightItem : Embedded IssuerSignedItem where
  bytes := Cbor.encode (⟨0, [1], "height", .text "180"⟩ : IssuerSignedItem)
  content := ⟨0, [1], "height", .text "180"⟩
  decode_bytes := rfl

/-- An address of the holder. -/
def oldAddress : Embedded IssuerSignedItem where
  bytes := Cbor.encode (⟨1, [2], "address", .text "A"⟩ : IssuerSignedItem)
  content := ⟨1, [2], "address", .text "A"⟩
  decode_bytes := rfl

/-- Another address, with another digest and another salt. -/
def newAddress : Embedded IssuerSignedItem where
  bytes := Cbor.encode (⟨2, [3, 4], "address", .text "B"⟩ : IssuerSignedItem)
  content := ⟨2, [3, 4], "address", .text "B"⟩
  decode_bytes := rfl

/-- A document with the height and an address. -/
def addressDocument (address : Embedded IssuerSignedItem) : IssuerSigned where
  namespaces := some ⟨.ofList [("ns", ⟨[heightItem, address], List.cons_ne_nil _ _⟩)], rfl⟩
  issuerAuth := ⟨⟨[], .empty⟩, .empty, none, []⟩

theorem items_addressDocument (address : Embedded IssuerSignedItem) (ns : String) :
  (addressDocument address).items ns = if ns = "ns" then [heightItem, address] else []
  := by
  have entry : ((addressDocument address).namespaces.bind (·.find? ns))
      = if ns = "ns" then some ⟨[heightItem, address], List.cons_ne_nil _ _⟩ else none :=
    TextMap.find?_insert _ _ _ _
  rw [IssuerSigned.items, entry]
  by_cases h : ns = "ns"
  · rw [if_pos h, if_pos h]
  · rw [if_neg h, if_neg h]

/-- A wallet with this document. -/
def addressWallet (address : Embedded IssuerSignedItem) : CredentialStore :=
  .ofList [{
    id := "id"
    docType := "doc"
    issuerSigned := addressDocument address
    privateKey := default }]

/-- Wallets that differ in an address agree where addresses do not matter. -/
theorem addressWallet_agreesOn {matters : (id ns identifier : String) → Prop}
    {address address' : Embedded IssuerSignedItem}
    (element_eq : address.content.elementIdentifier = address'.content.elementIdentifier)
    (unimportant : ¬matters "id" "ns" address.content.elementIdentifier) :
  (addressWallet address).AgreesOn matters (addressWallet address')
  := by
  refine List.Forall₂.cons ⟨rfl, rfl, rfl, rfl, rfl, rfl, rfl, ?_⟩ .nil
  intro ns
  rw [items_addressDocument, items_addressDocument]
  split
  · rename_i h
    rw [h]
    exact .cons ⟨rfl, fun _ => rfl⟩ (.cons ⟨element_eq, fun h => (unimportant h).elim⟩ .nil)
  · exact .nil

/-- The request for the height. -/
def heightRequest : ItemsRequest where
  docType := "doc"
  namespaces := ⟨.ofList [("ns", ⟨.ofList [("height", true)], rfl⟩)], rfl⟩
  requestInfo := none

/-- The holder moves, and a reader that asks for the height learns nothing of it. -/
theorem filter_isPrivate_height :
  oldAddress.bytes ≠ newAddress.bytes
    ∧ (filter (addressWallet oldAddress) (.verifier [heightRequest] none)).isEmpty = false
    ∧ (addressWallet oldAddress).AgreesOn
      (filter (addressWallet oldAddress) (.verifier [heightRequest] none)).Matters
      (addressWallet newAddress)
    ∧ filter (addressWallet oldAddress) (.verifier [heightRequest] none)
      = filter (addressWallet newAddress) (.verifier [heightRequest] none)
    ∧ ∀ {κ : Type} (provider : SecurityProvider κ) (context : Option DeviceAuthContext),
      (filter (addressWallet oldAddress) (.verifier [heightRequest] none)).response provider
          (addressWallet oldAddress) context
        = (filter (addressWallet newAddress) (.verifier [heightRequest] none)).response provider
          (addressWallet newAddress) context
  := by
  have run : oldAddress.bytes ≠ newAddress.bytes
      ∧ (filter (addressWallet oldAddress) (.verifier [heightRequest] none)).isEmpty = false
      ∧ (filter (addressWallet oldAddress) (.verifier [heightRequest] none)).documents.all
        (fun document => (document.issuerSigned.items "ns").all
          (fun item => item.content.elementIdentifier != "address")) := by
    decide +kernel
  obtain ⟨moved, answered, withheld⟩ := run
  have agree : (addressWallet oldAddress).AgreesOn
      (filter (addressWallet oldAddress) (.verifier [heightRequest] none)).Matters
      (addressWallet newAddress) := by
    have element_eq : oldAddress.content.elementIdentifier
        = newAddress.content.elementIdentifier := rfl
    apply addressWallet_agreesOn element_eq
    rintro (⟨document, hdocument, -, item, hitem, element_eq⟩ | hage)
    · have withheld := List.all_eq_true.mp (List.all_eq_true.mp withheld document hdocument) item
        hitem
      rw [element_eq] at withheld
      cases withheld
    · cases hage
  exact ⟨moved, answered, agree, filter_isPrivate agree⟩

end Disclosure

end Presentment
