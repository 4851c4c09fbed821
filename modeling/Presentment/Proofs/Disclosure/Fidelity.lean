import Presentment.Proofs.Disclosure.Response
import Presentment.Proofs.Message.IssuerSigned
import Presentment.Proofs.Message.Recovery
import Presentment.Security.Plain

/-!
# Items reach the reader as they were issued

The issuer signs digests of the bytes of items, so these bytes must not change on their way.  A
disclosure takes items out of a credential and leaves the others, a response carries them, and a
reader that can read the response finds the bytes that stand in the credential, however unusual
their encoding is.
-/

namespace Presentment

namespace Disclosure

/-- What is collected under a key was found there. -/
theorem exists_mem_of_collect {α β : Type} {f : α → Option β} {entries : List (String × α)}
    {key : String} {b : β} (h : (collect f entries).find? key = some b) :
  ∃ a, (key, a) ∈ entries ∧ f a = some b
  := by
  induction entries using List.reverseRecOn with
  | nil => cases h
  | append_singleton entries entry ih =>
    rw [collect, List.foldl_concat] at h
    cases found : f entry.2 with
    | none =>
      rw [found] at h
      obtain ⟨a, mem, ha⟩ := ih h
      exact ⟨a, List.mem_append_left _ mem, ha⟩
    | some b' =>
      rw [found] at h
      dsimp only at h
      rw [TextMap.find?_insert] at h
      split at h
      · rename_i key_eq
        cases h
        rw [key_eq]
        exact ⟨entry.2, List.mem_append_right _ (List.mem_singleton_self entry), found⟩
      · obtain ⟨a, mem, ha⟩ := ih h
        exact ⟨a, List.mem_append_left _ mem, ha⟩

theorem returned_sublist (c : Credential) (t : Target) (ns : String) (requested : List RequestItem) :
  (matchNamespace c t ns requested).returned.Sublist (c.issuerSigned.items ns)
  := by
  rw [matchNamespace]
  split
  · exact List.nil_sublist _
  · exact List.filter_sublist

theorem items_sublist_of_document? {c : Credential} {t : Target} {document : DisclosedDocument}
    (h : Disclosure.document? c (t.answers c) = some document) :
  document.docType = c.docType
    ∧ ∀ ns, (document.issuerSigned.items ns).Sublist (c.issuerSigned.items ns)
  := by
  rw [document?, Option.bind_eq_bind] at h
  obtain ⟨namespaces, hnamespaces, heq⟩ := Option.bind_eq_some_iff.mp h
  cases heq
  refine ⟨rfl, ?_⟩
  intro ns
  rw [IssuerSigned.items, Option.bind_some]
  cases items_eq : namespaces.find? ns with
  | none => exact List.nil_sublist _
  | some items =>
    rw [NonEmptyMap.find?, NonEmptyMap.ofMap?_eq_some_iff.mp hnamespaces] at items_eq
    obtain ⟨found, mem, returned_eq⟩ := exists_mem_of_collect items_eq
    obtain ⟨⟨_, requested⟩, -, heq⟩ := List.mem_map.mp mem
    cases heq
    have sublist := returned_sublist c t ns requested
    rw [← NonEmptyList.ofList?_eq_some_iff.mp returned_eq] at sublist
    exact sublist

/-- Each document holds items of a credential. -/
theorem exists_credential_of_mem_filter {store : CredentialStore} {request : DisclosureRequest}
    {document : DisclosedDocument} (h : document ∈ (filter store request).documents) :
  ∃ c ∈ store.toList, document.docType = c.docType
    ∧ ∀ ns, (document.issuerSigned.items ns).Sublist (c.issuerSigned.items ns)
  := by
  rw [filter, foldl_disclose_documents] at h
  obtain ⟨t, mem, document_eq⟩ := List.mem_filterMap.mp h
  obtain ⟨c, credential_eq, document_eq⟩ := Option.bind_eq_some_iff.mp document_eq
  refine ⟨c, ?_, items_sublist_of_document? document_eq⟩
  cases request with
  | verifier requests selection =>
    rw [targets_verifier] at mem
    obtain ⟨docType, -, rfl⟩ := List.mem_map.mp mem
    exact (firstOfType?_eq_some_iff.mp credential_eq).mem
  | selection selection =>
    obtain ⟨⟨id, _⟩, -, rfl⟩ := List.mem_map.mp mem
    exact List.mem_map_of_mem (TextMap.mem_entries_iff.mpr credential_eq)

end Disclosure

/-! ### The whole way -/

/-- A document holds items of a credential, in their order, as they stand in the bytes `raw` of
the credential. -/
structure Document.IsIssued (raw : Bytes) (c : Credential) (document : Document) : Prop where
  docType : document.docType = c.docType
  items : ∀ ns, (document.issuerSigned.items ns).Sublist (c.issuerSigned.items ns)
  inCredential : ∀ ns, ((document.issuerSigned.items ns).map Embedded.toValue).Sublist
    (IssuerSigned.itemsIn raw ns)
  /-- What the digests are made over. -/
  taggedBytes : ∀ ns, ((document.issuerSigned.items ns).map Embedded.taggedBytes).Sublist
    ((IssuerSigned.itemsIn raw ns).map Cbor.Value.encode)

theorem Document.isIssued_of_sublist {raw : Bytes} {c : Credential} {document : Document}
    (loaded : Cbor.decode raw = .ok c.issuerSigned) (docType : document.docType = c.docType)
    (items : ∀ ns, (document.issuerSigned.items ns).Sublist (c.issuerSigned.items ns)) :
  document.IsIssued raw c
  := by
  have inCredential : ∀ ns, ((document.issuerSigned.items ns).map Embedded.toValue).Sublist
      (IssuerSigned.itemsIn raw ns) := by
    intro ns
    rw [IssuerSigned.itemsIn_eq loaded]
    exact (items ns).map _
  refine ⟨docType, items, inCredential, ?_⟩
  intro ns
  have tagged := (inCredential ns).map Cbor.Value.encode
  rwa [List.map_map] at tagged

namespace Disclosure

variable {κ : Type} {provider : SecurityProvider κ} {context : Option DeviceAuthContext}

/-- The documents that are read from a response are those that were disclosed. -/
theorem exists_disclosed_of_read {store : CredentialStore} {d : Disclosure}
    {response read : DeviceResponse} (answered : d.response provider store context = .ok response)
    (short : (Cbor.encode response).length < Cbor.headCapacity)
    (decoded : Cbor.decode (Cbor.encode response) = .ok read) :
  ∀ documents ∈ read.documents, ∀ document ∈ documents.toList, ∃ disclosed ∈ d.documents,
    document.docType = disclosed.docType
      ∧ ∀ ns, document.issuerSigned.items ns = disclosed.issuerSigned.items ns
  := by
  intro documents hdocuments document mem
  have same := ((@DeviceResponse.recovers 249 response).of_decode short decoded).forall₂
  obtain ⟨answers, hanswers, rfl⟩ := response_eq_ok_iff.mp answered
  dsimp only at same
  rw [NonEmptyList.elim_ofList?, Option.mem_def.mp hdocuments] at same
  obtain ⟨document', mem', holds⟩ := exists_of_mem_of_forall₂ same mem
  obtain ⟨disclosed, hdisclosed, answer_eq⟩ := exists_of_mem_of_forall₂ hanswers mem'
  obtain ⟨-, docType_eq, issuerSigned_eq, -⟩ := answer_eq_ok_iff.mp answer_eq
  refine ⟨disclosed, hdisclosed, holds.docType.trans docType_eq, ?_⟩
  intro ns
  rw [holds.items_eq, issuerSigned_eq]

/-- Whatever a reader finds in the response to any request stands in the bytes from which the
wallet was loaded.  A longer response has no encoding, since heads cannot count its bytes. -/
theorem read_isIssued {store : CredentialStore} {raw : Credential → Bytes}
    {request : DisclosureRequest} {response read : DeviceResponse}
    (loaded : ∀ c ∈ store.toList, Cbor.decode (raw c) = .ok c.issuerSigned)
    (answered : (filter store request).response provider store context = .ok response)
    (short : (Cbor.encode response).length < Cbor.headCapacity)
    (decoded : Cbor.decode (Cbor.encode response) = .ok read) :
  ∀ documents ∈ read.documents, ∀ document ∈ documents.toList,
    ∃ c ∈ store.toList, document.IsIssued (raw c) c
  := by
  intro documents hdocuments document mem
  obtain ⟨disclosed, hdisclosed, docType_eq, items_eq⟩ :=
    exists_disclosed_of_read answered short decoded documents hdocuments document mem
  obtain ⟨c, hc, docType_eq', sublist⟩ := exists_credential_of_mem_filter hdisclosed
  refine ⟨c, hc, Document.isIssued_of_sublist (loaded c hc) (docType_eq.trans docType_eq') ?_⟩
  intro ns
  rw [items_eq]
  exact sublist ns

/-- An item with a number that is longer than it has to be, and with a byte after the item. -/
def wideItem : Bytes :=
  [0xA4] ++ Cbor.encodeText "digestID" ++ [0x18, 0x01] ++ Cbor.encodeText "random"
    ++ Cbor.encodeBytes [2] ++ Cbor.encodeText "elementIdentifier" ++ Cbor.encodeText "name"
    ++ Cbor.encodeText "elementValue" ++ Cbor.encodeText "Ann" ++ [0x00]

/-- A credential with this item, whose containers have open lengths. -/
def wideCredential : Bytes :=
  [0xBF] ++ Cbor.encodeText "nameSpaces" ++ [0xBF] ++ Cbor.encodeText "ns" ++ [0x9F, 0xD8, 0x18]
    ++ Cbor.encodeBytes wideItem ++ [0xFF, 0xFF] ++ Cbor.encodeText "issuerAuth"
    ++ [0x84, 0x40, 0xA0, 0xF6, 0x40, 0xFF]

/-- A wallet with a document. -/
def walletOf (issuerSigned : IssuerSigned) : CredentialStore :=
  .ofList [⟨"id", "doc", issuerSigned, default, none, none, ∅⟩]

/-- The request for the name. -/
def wideRequest : DisclosureRequest :=
  .verifier [⟨"doc", ⟨.ofList [("ns", ⟨.ofList [("name", true)], rfl⟩)], rfl⟩, none⟩] none

/-- The name reaches the reader as it stands in the credential. -/
theorem read_isIssued_wide :
  ∃ (issuerSigned : IssuerSigned) (response read : DeviceResponse)
      (documents : NonEmptyList Document),
    Cbor.decode wideCredential = .ok issuerSigned
    ∧ (filter (walletOf issuerSigned) wideRequest).response (Plain.provider {})
        (walletOf issuerSigned) none = .ok response
    ∧ (Cbor.encode response).length < Cbor.headCapacity
    ∧ Cbor.decode (Cbor.encode response) = .ok read
    ∧ read.documents = some documents
    ∧ documents.toList.map (fun document => (document.issuerSigned.items "ns").map (·.bytes))
      = [[wideItem]]
    ∧ ∀ document ∈ documents.toList,
      ∃ c ∈ (walletOf issuerSigned).toList, document.IsIssued wideCredential c
  := by
  have run : (do
      let issuerSigned ← (Cbor.decode wideCredential).toOption
      let response ← ((filter (walletOf issuerSigned) wideRequest).response (Plain.provider {})
        (walletOf issuerSigned) none).toOption
      let read ← (Cbor.decode (Cbor.encode response) : Except Refusal DeviceResponse).toOption
      let documents ← read.documents
      return (decide ((Cbor.encode response).length < Cbor.headCapacity),
        documents.toList.map (fun document => (document.issuerSigned.items "ns").map (·.bytes))))
      = some (true, [[wideItem]]) := by
    decide +kernel
  obtain ⟨issuerSigned, loaded, run⟩ := Option.bind_eq_some_iff.mp run
  obtain ⟨response, answered, run⟩ := Option.bind_eq_some_iff.mp run
  obtain ⟨read, decoded, run⟩ := Option.bind_eq_some_iff.mp run
  obtain ⟨documents, hdocuments, run⟩ := Option.bind_eq_some_iff.mp run
  obtain ⟨short, items_eq⟩ := Prod.mk.inj (Option.some.inj run)
  have loaded := Except.toOption_eq_some_iff.mp loaded
  have answered := Except.toOption_eq_some_iff.mp answered
  have short := of_decide_eq_true short
  have decoded := Except.toOption_eq_some_iff.mp decoded
  have held : ∀ c ∈ (walletOf issuerSigned).toList,
      Cbor.decode wideCredential = .ok c.issuerSigned := by
    intro c hc
    rw [List.mem_singleton.mp hc]
    exact loaded
  exact ⟨issuerSigned, response, read, documents, loaded, answered, short, decoded, hdocuments,
    items_eq, read_isIssued held answered short decoded documents hdocuments⟩

end Disclosure

end Presentment
