import Presentment.Crypto.PrivateKey
import Presentment.Message.IssuerSigned

/-!
# Credentials

The wallet holds credentials: issuer-signed documents with their device keys.  A
`CredentialStore` holds them by their identifiers.
-/

namespace Presentment

/-- A document in the wallet. -/
structure Credential where
  id : String
  docType : String
  issuerSigned : IssuerSigned
  privateKey : PrivateKey
  /-- What unlocks a device key that is kept in hardware. -/
  unlockData : Option Bytes := none
  displayName : Option String := none
  /-- The names shown for elements, by namespace and element identifier. -/
  elementNames : TextMap (TextMap String) := ∅

/-- The name shown for an element, if there is one. -/
def Credential.elementName? (c : Credential) (ns element : String) : Option String := do
  (← c.elementNames.find? ns).find? element

/-- Credentials by their identifiers. -/
structure CredentialStore where
  credentials : TextMap Credential
  id_eq : ∀ entry ∈ credentials.entries, entry.2.id = entry.1

namespace CredentialStore

/-- The store of some credentials; of those with the same identifier the last one is held. -/
def ofList (credentials : List Credential) : CredentialStore where
  credentials := .ofList (credentials.map (fun c => (c.id, c)))
  id_eq := by
    intro entry h
    obtain ⟨c, _, rfl⟩ := List.mem_map.mp (TextMap.mem_ofList h)
    rfl

def empty : CredentialStore := ofList []

/-- The credential with the given identifier. -/
def find? (s : CredentialStore) (id : String) : Option Credential :=
  s.credentials.find? id

/-- The credentials, in the order of their identifiers. -/
def toList (s : CredentialStore) : List Credential :=
  s.credentials.values

/-- The first credential of a document type. -/
def firstOfType? (s : CredentialStore) (docType : String) : Option Credential :=
  s.toList.find? (fun c => c.docType == docType)

def isEmpty (s : CredentialStore) : Bool :=
  s.credentials.isEmpty

def size (s : CredentialStore) : Nat :=
  s.credentials.size

end CredentialStore

end Presentment
