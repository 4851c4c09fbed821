import Presentment.Disclosure.Age
import Presentment.Disclosure.Item
import Presentment.Message.Request
import Presentment.Message.Response
import Presentment.Wallet.Credential

/-!
# Selective disclosure

`filter` matches a request against the wallet.  It finds the issuer-signed items to return,
the error codes for what is not returned, and the summaries that are shown to the user: the
requested items that the holder can return, and those that it does not hold.

The items requests of a reader are first brought together, so that every document type is
answered once, by the first credential of the type.  The user may narrow what is returned
for them, or may pick documents by their identifiers without any request.
-/

namespace Presentment

/-- What to disclose. -/
inductive DisclosureRequest where
  /-- The items requests of a reader, perhaps narrowed by the user, by document type. -/
  | verifier (requests : List ItemsRequest) (selection : Option Selection)
  /-- What the user picked, by document identifier. -/
  | selection (selection : Selection)

/-- A document with the items to return. -/
structure DisclosedDocument where
  documentId : String
  docType : String
  issuerSigned : IssuerSigned
  errors : Option ElementErrors

/-- What is disclosed and what the user is shown. -/
structure Disclosure where
  documents : List DisclosedDocument := []
  documentErrors : List DocumentError := []
  validItems : ItemsByDocument := ∅
  errorItems : ItemsByDocument := ∅
  /-- The names of the credentials that were found, by the keys of the summaries. -/
  documentNames : TextMap String := ∅

/-- Whether no document is returned. -/
def Disclosure.isEmpty (d : Disclosure) : Bool :=
  d.documents.isEmpty

namespace Disclosure

/-- Requested items by namespace, in the order in which they were first asked for. -/
abbrev RequestedItems := List (String × List RequestItem)

/-- A document that is asked for. -/
structure Target where
  /-- Its key in the summaries. -/
  key : String
  docType : String
  credential : Option Credential
  namespaces : RequestedItems
  /-- What the user chose, if the user was asked. -/
  chosen : Option (TextMap (List String))
  /-- Whether superseded age attestations are left out. -/
  agePolicy : Bool

/-! ### Bringing requests together -/

/-- The entry with key `key` changed by `f`; a missing entry is added at the end. -/
def updateOrAppend {α : Type} (key : String) (fresh : α) (f : α → α) :
    List (String × α) → List (String × α)
  | [] => [(key, f fresh)]
  | entry :: rest =>
    if entry.1 = key then (key, f entry.2) :: rest
    else entry :: updateOrAppend key fresh f rest

/-- Adds a requested element: asking for it again retains it if either request does. -/
def addElement (items : List RequestItem) (identifier : String) (retain : Bool) :
    List RequestItem :=
  match items with
  | [] => [{ elementIdentifier := identifier, intentToRetain := some retain }]
  | item :: rest =>
    if item.elementIdentifier = identifier then
      { item with intentToRetain := some (item.intentToRetain.getD false || retain) } :: rest
    else item :: addElement rest identifier retain

/-- Adds the elements of an items request. -/
def addRequest (namespaces : RequestedItems) (request : ItemsRequest) : RequestedItems :=
  request.namespaces.entries.foldl (fun namespaces entry =>
    updateOrAppend entry.1 [] (fun items =>
      entry.2.entries.foldl (fun items element => addElement items element.1 element.2) items)
      namespaces) namespaces

/-- What a reader asks for, by document type in the order of the requests. -/
def merge (requests : List ItemsRequest) : List (String × RequestedItems) :=
  requests.foldl (fun merged request =>
    updateOrAppend request.docType [] (fun namespaces => addRequest namespaces request) merged) []

/-- The documents that are asked for. -/
def targets (store : CredentialStore) : DisclosureRequest → List Target
  | .verifier requests selection =>
    (merge requests).map (fun (docType, namespaces) => {
      key := docType
      docType := docType
      credential := store.firstOfType? docType
      namespaces := namespaces
      chosen := selection.map (fun s => (s.find? docType).getD ∅)
      agePolicy := true })
  | .selection selection =>
    selection.entries.map (fun (id, namespaces) =>
      let credential := store.find? id
      { key := id
        docType := (credential.map (·.docType)).getD id
        credential := credential
        namespaces := namespaces.entries.map (fun entry => (entry.1, entry.2.map .named))
        chosen := none
        agePolicy := false })

/-! ### Matching a document -/

/-- What is found in a namespace. -/
structure Match where
  /-- The items to return. -/
  returned : List (Embedded IssuerSignedItem)
  /-- The requested elements that they answer. -/
  valid : List RequestItem
  /-- The requested elements that the holder does not hold. -/
  missing : List RequestItem

/-- An item with the name that the credential shows for it, unless it has one. -/
def withName (credential : Credential) (ns : String) (item : RequestItem) : RequestItem :=
  if item.displayName.isSome then item
  else { item with displayName := credential.elementName? ns item.elementIdentifier }

/-- Matches requested elements against the items `held` in a namespace, of which there is at
least one. -/
def matchHeld (held : List (Embedded IssuerSignedItem)) (requested : List RequestItem)
    (chosen : Option (List String)) (agePolicy : Bool) : Match :=
  let superseded :=
    if agePolicy then AgeAttestation.superseded (requested.map (·.elementIdentifier)) held else []
  let requested := requested.filter (fun r => !superseded.contains r.elementIdentifier)
  let returned := held.filter (fun item =>
    requested.any (fun r => r.elementIdentifier == item.content.elementIdentifier)
      && chosen.all (·.contains item.content.elementIdentifier))
  { returned := returned
    valid := returned.filterMap (fun item =>
      requested.find? (fun r => r.elementIdentifier == item.content.elementIdentifier))
    missing := requested.filter (fun r =>
      !held.any (fun item => item.content.elementIdentifier == r.elementIdentifier)) }

/-- Matches the requested elements of a namespace against a credential. -/
def matchNamespace (credential : Credential) (target : Target) (ns : String)
    (requested : List RequestItem) : Match :=
  let requested := requested.map (withName credential ns)
  let held := credential.issuerSigned.items ns
  if held.isEmpty then ⟨[], [], requested⟩
  else
    let chosen := target.chosen.map (fun chosen => (chosen.find? ns).getD [])
    matchHeld held requested chosen target.agePolicy

/-- The error codes for missing elements. -/
def elementErrors (errors : TextMap (List RequestItem)) : Option ElementErrors :=
  NonEmptyMap.ofMap? (errors.filterMap (fun _ items =>
    NonEmptyMap.ofMap? (TextMap.ofList (items.map (fun item =>
      (item.elementIdentifier, ErrorCode.dataNotReturned))))))

/-- The error code for a document. -/
def documentError (docType : String) : DocumentError :=
  TextMap.ofList [(docType, .dataNotReturned)]

/-- A list that is not empty. -/
def nonEmpty? {α : Type} (as : List α) : Option (List α) :=
  if as.isEmpty then none else some as

/-- What `f` finds under each key, of several entries with the same key the last one. -/
def collect {α β : Type} (f : α → Option β) (entries : List (String × α)) : TextMap β :=
  entries.foldl (fun m entry => match f entry.2 with
    | some b => m.insert entry.1 b
    | none => m) ∅

/-- Adds to a summary, unless there is nothing to add. -/
def insertSummary (m : ItemsByDocument) (key : String) (items : TextMap (List RequestItem)) :
    ItemsByDocument :=
  if items.isEmpty then m else m.insert key items

/-- Adds a document that no credential answers. -/
def discloseNothing (d : Disclosure) (target : Target) : Disclosure :=
  { d with
    documentErrors := d.documentErrors ++ [documentError target.docType]
    errorItems := insertSummary d.errorItems target.key (collect nonEmpty? target.namespaces) }

/-- What a credential answers, by namespace. -/
def Target.answers (target : Target) (credential : Credential) : List (String × Match) :=
  target.namespaces.map (fun (ns, requested) =>
    (ns, matchNamespace credential target ns requested))

/-- The requested items that the holder can return, by namespace. -/
def answeredItems (found : List (String × Match)) : TextMap (List RequestItem) :=
  collect (fun m => nonEmpty? m.valid) found

/-- The requested items that the holder does not hold, by namespace. -/
def missingItems (found : List (String × Match)) : TextMap (List RequestItem) :=
  collect (fun m => nonEmpty? m.missing) found

/-- The document that returns what was found, if anything is returned. -/
def document? (credential : Credential) (found : List (String × Match)) :
    Option DisclosedDocument := do
  let namespaces ← NonEmptyMap.ofMap? (collect (fun m => NonEmptyList.ofList? m.returned) found)
  return {
    documentId := credential.id
    docType := credential.docType
    issuerSigned := { credential.issuerSigned with namespaces := some namespaces }
    errors := elementErrors (missingItems found) }

/-- Adds the answer of a credential. -/
def discloseFrom (d : Disclosure) (target : Target) (credential : Credential) : Disclosure :=
  let found := target.answers credential
  let d := { d with
    documentNames := match credential.displayName with
      | some name => d.documentNames.insert target.key name
      | none => d.documentNames
    errorItems := insertSummary d.errorItems target.key (missingItems found) }
  match document? credential found with
  | some document =>
    { d with
      validItems := d.validItems.insert target.key (answeredItems found)
      documents := d.documents ++ [document] }
  | none => { d with documentErrors := d.documentErrors ++ [documentError credential.docType] }

/-- Adds a document that is asked for. -/
def disclose (d : Disclosure) (target : Target) : Disclosure :=
  match target.credential with
  | some credential => discloseFrom d target credential
  | none => discloseNothing d target

/-- Matches a request against the wallet. -/
def filter (store : CredentialStore) (request : DisclosureRequest) : Disclosure :=
  (targets store request).foldl disclose {}

end Disclosure

end Presentment
