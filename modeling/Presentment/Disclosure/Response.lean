import Presentment.Disclosure.Filter
import Presentment.Transfer.Error

/-!
# The response

A disclosure becomes a device response.  In a session every document is returned with a
proof of its device key; if one of them cannot be made, there is no response.
-/

namespace Presentment

/-- The session in which device keys are proven. -/
structure DeviceAuthContext where
  transcript : SessionTranscript
  readerKey : Cose.Key
  method : DeviceAuthMethod

namespace Disclosure

/-- The device-signed part of a document. -/
def deviceSigned {κ : Type} (provider : SecurityProvider κ) (store : CredentialStore)
    (context : DeviceAuthContext) (document : DisclosedDocument) :
    Except TransferError DeviceSigned := do
  let failed (cause : SecurityError) : TransferError := .deviceAuthFailed document.docType cause
  let some credential := store.find? document.documentId
    | throw (failed (.deviceAuth "credential is gone"))
  let deviceAuth ← (provider.deviceAuth {
    docType := document.docType
    transcript := context.transcript
    readerKey := context.readerKey
    deviceKey := credential.privateKey
    method := context.method
    unlockData := credential.unlockData }).mapError failed
  let namespaces ← noDeviceNamespaces.mapError
    (fun cause => failed (.deviceAuth (", ".intercalate cause.reasons)))
  return ⟨namespaces, deviceAuth⟩

/-- The document that is returned for a disclosed one, with a proof if a session is given. -/
def answer {κ : Type} (provider : SecurityProvider κ) (store : CredentialStore)
    (context : Option DeviceAuthContext) (document : DisclosedDocument) :
    Except TransferError Document := do
  let deviceSigned ← context.mapM (deviceSigned provider store · document)
  return ⟨document.docType, document.issuerSigned, deviceSigned, document.errors⟩

/-- The response for a disclosure, with proofs if a session is given. -/
def response {κ : Type} (provider : SecurityProvider κ) (store : CredentialStore)
    (context : Option DeviceAuthContext) (d : Disclosure) :
    Except TransferError DeviceResponse := do
  let documents ← d.documents.mapM (answer provider store context)
  return {
    version := DeviceResponse.currentVersion
    documents := NonEmptyList.ofList? documents
    documentErrors := NonEmptyList.ofList? d.documentErrors
    status := .ok }

end Disclosure

end Presentment
