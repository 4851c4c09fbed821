import Presentment.Proofs.Disclosure.Response

/-!
# Device-signed documents

In a session every disclosed document is returned with the proof that the provider makes with
the device key of its credential.  Either all of these proofs are made, or the response fails
as the first of them does.
-/

namespace Presentment

/-- A credential is found by its identifier. -/
theorem CredentialStore.find?_of_mem {store : CredentialStore} {c : Credential}
    (h : c ∈ store.toList) :
  store.find? c.id = some c
  := by
  obtain ⟨⟨id, c⟩, hentry, rfl⟩ := List.mem_map.mp h
  rw [store.id_eq _ hentry]
  exact TextMap.mem_entries_iff.mp hentry

namespace Disclosure

section

variable {κ : Type} {provider : SecurityProvider κ} {store : CredentialStore}
  {context : DeviceAuthContext} {disclosed : DisclosedDocument} {d : Disclosure}

/-- What the provider answers when it is asked to prove the device key of a disclosed document:
it is given the type of the document, and the key and the unlock data of the credential that
the document names. -/
def proof? (provider : SecurityProvider κ) (store : CredentialStore)
    (context : DeviceAuthContext) (disclosed : DisclosedDocument) :
    Option (Except SecurityError DeviceAuth) :=
  (store.find? disclosed.documentId).map (fun c => provider.deviceAuth {
    docType := disclosed.docType
    transcript := context.transcript
    readerKey := context.readerKey
    deviceKey := c.privateKey
    method := context.method
    unlockData := c.unlockData })

/-- The device vouches for no elements, so they can always be written. -/
theorem exists_noDeviceNamespaces :
  ∃ namespaces, noDeviceNamespaces = .ok namespaces
  := ⟨⟨[0xA0], ∅, rfl⟩, rfl⟩

theorem deviceSigned_eq_ok_iff {signed : DeviceSigned} :
  deviceSigned provider store context disclosed = .ok signed
    ↔ proof? provider store context disclosed = some (.ok signed.deviceAuth)
      ∧ noDeviceNamespaces = .ok signed.namespaces
  := by
  rw [deviceSigned, proof?]
  cases store.find? disclosed.documentId with
  | none =>
    constructor
    · intro h
      cases h
    · rintro ⟨h, -⟩
      cases h
  | some c =>
    rw [Option.map_some, Option.some.injEq, Except.bind_eq_ok_iff]
    constructor
    · rintro ⟨auth, hauth, h⟩
      obtain ⟨namespaces, hnamespaces, h⟩ := Except.bind_eq_ok_iff.mp h
      cases h
      exact ⟨Except.mapError_eq_ok_iff.mp hauth, Except.mapError_eq_ok_iff.mp hnamespaces⟩
    · rintro ⟨hauth, hnamespaces⟩
      use signed.deviceAuth, Except.mapError_eq_ok_iff.mpr hauth
      rw [hnamespaces]
      rfl

theorem deviceSigned_eq_error_iff {e : TransferError}
    (held : (store.find? disclosed.documentId).isSome) :
  deviceSigned provider store context disclosed = .error e
    ↔ ∃ cause, proof? provider store context disclosed = some (.error cause)
      ∧ .deviceAuthFailed disclosed.docType cause = e
  := by
  obtain ⟨c, hfind⟩ := Option.isSome_iff_exists.mp held
  obtain ⟨namespaces, hnamespaces⟩ := exists_noDeviceNamespaces
  rw [deviceSigned, proof?, hfind]
  simp only [Option.map_some, Option.some.injEq]
  rw [Except.bind_eq_error_iff, Except.mapError_eq_error_iff]
  apply or_iff_left
  rintro ⟨auth, -, h⟩
  rw [hnamespaces] at h
  cases h

/-- A document that is returned for a disclosed one: it holds what was disclosed, and the proof
that the provider makes for it. -/
structure IsSigned (provider : SecurityProvider κ) (store : CredentialStore)
    (context : DeviceAuthContext) (disclosed : DisclosedDocument) (document : Document) :
    Prop where
  docType_eq : document.docType = disclosed.docType
  issuerSigned_eq : document.issuerSigned = disclosed.issuerSigned
  errors_eq : document.errors = disclosed.errors
  proven : ∃ signed ∈ document.deviceSigned,
    proof? provider store context disclosed = some (.ok signed.deviceAuth)
      ∧ noDeviceNamespaces = .ok signed.namespaces

theorem answer_eq_ok_iff_isSigned {document : Document} :
  answer provider store (some context) disclosed = .ok document
    ↔ IsSigned provider store context disclosed document
  := by
  rw [answer_some_eq_ok_iff]
  constructor
  · rintro ⟨signed, hsigned, rfl⟩
    exact ⟨rfl, rfl, rfl, signed, rfl, deviceSigned_eq_ok_iff.mp hsigned⟩
  · rintro ⟨docType_eq, issuerSigned_eq, errors_eq, signed, deviceSigned_eq, proven⟩
    use signed, deviceSigned_eq_ok_iff.mpr proven
    rw [← docType_eq, ← issuerSigned_eq, ← errors_eq, ← Option.mem_def.mp deviceSigned_eq]

/-- A document is returned exactly when the provider makes a proof for it. -/
theorem exists_answer_iff :
  (∃ document, answer provider store (some context) disclosed = .ok document)
    ↔ ∃ auth, proof? provider store context disclosed = some (.ok auth)
  := by
  simp only [answer_eq_ok_iff_isSigned]
  constructor
  · rintro ⟨document, signed⟩
    obtain ⟨signed, -, proven, -⟩ := signed.proven
    exact ⟨signed.deviceAuth, proven⟩
  · rintro ⟨auth, proven⟩
    obtain ⟨namespaces, hnamespaces⟩ := exists_noDeviceNamespaces
    use ⟨disclosed.docType, disclosed.issuerSigned, some ⟨namespaces, auth⟩, disclosed.errors⟩
    exact ⟨rfl, rfl, rfl, ⟨namespaces, auth⟩, rfl, proven, hnamespaces⟩

/-- A document fails as its proof does. -/
theorem answer_eq_error_iff {e : TransferError}
    (held : (store.find? disclosed.documentId).isSome) :
  answer provider store (some context) disclosed = .error e
    ↔ ∃ cause, proof? provider store context disclosed = some (.error cause)
      ∧ .deviceAuthFailed disclosed.docType cause = e
  := by
  rw [← deviceSigned_eq_error_iff held, answer, Option.mapM_some]
  cases deviceSigned provider store context disclosed with
  | error e =>
    constructor
    all_goals
      intro h
      cases h
      rfl
  | ok signed =>
    constructor
    all_goals
      intro h
      cases h

/-- The response for a disclosure as a whole: it holds one signed document for each disclosed
one, in order. -/
structure IsWhole (provider : SecurityProvider κ) (store : CredentialStore)
    (context : DeviceAuthContext) (d : Disclosure) (response : DeviceResponse) : Prop where
  documents : ∃ documents ∈ response.documents,
    List.Forall₂ (IsSigned provider store context) d.documents documents.toList
  documentErrors_eq : response.documentErrors = NonEmptyList.ofList? d.documentErrors
  version_eq : response.version = DeviceResponse.currentVersion
  status_eq : response.status = .ok

theorem response_eq_ok_iff_isWhole {response : DeviceResponse} (nonempty : d.documents ≠ []) :
  d.response provider store (some context) = .ok response
    ↔ IsWhole provider store context d response
  := by
  rw [response_eq_ok_iff]
  simp only [answer_eq_ok_iff_isSigned]
  constructor
  · rintro ⟨documents, signed, rfl⟩
    constructor
    case documents =>
      cases hdocuments : NonEmptyList.ofList? documents with
      | none =>
        rw [NonEmptyList.ofList?_eq_none_iff.mp hdocuments, List.forall₂_nil_right_iff] at signed
        exact absurd signed nonempty
      | some found =>
        use found, rfl
        rw [NonEmptyList.ofList?_eq_some_iff.mp hdocuments]
        exact signed
    all_goals rfl
  · rintro ⟨⟨documents, hdocuments, signed⟩, documentErrors_eq, version_eq, status_eq⟩
    use documents.toList, signed
    rw [NonEmptyList.ofList?_eq_some_iff.mpr rfl, ← Option.mem_def.mp hdocuments,
      ← documentErrors_eq, ← version_eq, ← status_eq]

theorem IsWhole.ne_nil {response : DeviceResponse} (h : IsWhole provider store context d response) :
  d.documents ≠ []
  := by
  obtain ⟨documents, -, signed⟩ := h.documents
  intro nothing
  rw [nothing, List.forall₂_nil_left_iff] at signed
  exact documents.ne_nil signed

/-- No proof is made for a document of a disclosure, while one is made for each document before
it. -/
inductive LacksProof (provider : SecurityProvider κ) (store : CredentialStore)
    (context : DeviceAuthContext) (d : Disclosure) : TransferError → Prop
  | first {before after : List DisclosedDocument} {disclosed : DisclosedDocument}
      {cause : SecurityError}
      (documents_eq : d.documents = before ++ disclosed :: after)
      (earlier : ∀ proven ∈ before,
        ∃ auth, proof? provider store context proven = some (.ok auth))
      (unproven : proof? provider store context disclosed = some (.error cause)) :
      LacksProof provider store context d (.deviceAuthFailed disclosed.docType cause)

theorem LacksProof.ne_nil {e : TransferError} (h : LacksProof provider store context d e) :
  d.documents ≠ []
  := by
  cases h with
  | first documents_eq =>
    rw [documents_eq]
    exact List.append_ne_nil_of_right_ne_nil _ (List.cons_ne_nil _ _)

/-- A response fails as the first document without a proof does. -/
theorem response_eq_error_iff {e : TransferError}
    (held : ∀ disclosed ∈ d.documents, (store.find? disclosed.documentId).isSome) :
  d.response provider store (some context) = .error e ↔ LacksProof provider store context d e
  := by
  have failed : d.response provider store (some context) = .error e
      ↔ d.documents.mapM (answer provider store (some context)) = .error e := by
    rw [Disclosure.response, Except.bind_eq_error_iff]
    apply or_iff_left
    rintro ⟨_, -, h⟩
    cases h
  have known {before after : List DisclosedDocument} {disclosed : DisclosedDocument}
      (documents_eq : d.documents = before ++ disclosed :: after) :
      (store.find? disclosed.documentId).isSome := by
    apply held
    rw [documents_eq]
    exact List.mem_append_right before List.mem_cons_self
  rw [failed, Except.mapM_eq_error_iff]
  simp only [exists_answer_iff]
  constructor
  · rintro ⟨before, disclosed, after, documents_eq, earlier, h⟩
    obtain ⟨cause, unproven, rfl⟩ := (answer_eq_error_iff (known documents_eq)).mp h
    exact .first documents_eq earlier unproven
  · intro h
    cases h with
    | @first before after disclosed cause documents_eq earlier unproven =>
      exact ⟨before, disclosed, after, documents_eq, earlier,
        (answer_eq_error_iff (known documents_eq)).mpr ⟨cause, unproven, rfl⟩⟩

/-- If any document has no proof, there is a first one. -/
theorem exists_lacksProof_iff
    (held : ∀ disclosed ∈ d.documents, (store.find? disclosed.documentId).isSome) :
  (∃ e, LacksProof provider store context d e)
    ↔ ∃ disclosed ∈ d.documents, ∃ cause,
      proof? provider store context disclosed = some (.error cause)
  := by
  constructor
  · rintro ⟨_, documents_eq, -, unproven⟩
    rw [documents_eq]
    exact ⟨_, List.mem_append_right _ List.mem_cons_self, _, unproven⟩
  · rintro ⟨disclosed, mem, cause, unproven⟩
    cases made : d.response provider store (some context) with
    | error e => exact ⟨e, (response_eq_error_iff held).mp made⟩
    | ok response =>
      have whole := (response_eq_ok_iff_isWhole (List.ne_nil_of_mem mem)).mp made
      obtain ⟨documents, -, signed⟩ := whole.documents
      obtain ⟨document, -, signed⟩ := exists_of_mem_of_forall₂ signed.flip mem
      obtain ⟨_, -, proven, -⟩ := signed.proven
      cases unproven.symm.trans proven

/-- Every disclosed document names a credential of the wallet. -/
theorem filter_documentId (store : CredentialStore) (requests : List ItemsRequest)
    (selection : Option Selection) :
  ∀ disclosed ∈ (filter store (.verifier requests selection)).documents,
    (store.find? disclosed.documentId).isSome
  := by
  intro disclosed hdisclosed
  obtain ⟨c, first, documentId_eq, -⟩ := filter_document_eq store requests selection hdisclosed
  rw [documentId_eq, CredentialStore.find?_of_mem first.mem]
  rfl

end

end Disclosure

end Presentment
