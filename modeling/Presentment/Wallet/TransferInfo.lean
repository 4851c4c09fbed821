import Presentment.Json.Reader
import Presentment.Wallet.Config
import Presentment.Wallet.Credential

/-!
# Transfer information

A presentation starts from the credentials of the wallet, the trust anchors and the
settings.  They are given in one text, with documents and keys in base64.
-/

namespace Presentment

/-- What a presentation starts from. -/
structure TransferInfo where
  credentials : CredentialStore
  anchors : TrustAnchors
  config : TransferConfig

/-- What is wrong with a document. -/
inductive DocumentFault where
  | encoding
  | content (cause : Refusal)
  | keyEncoding
  | key (cause : SecurityError)
  deriving DecidableEq

def DocumentFault.message : DocumentFault → String
  | .encoding => "issuerSigned is not base64"
  | .content cause => "issuerSigned is not valid: " ++ (CodecError.decode cause).message
  | .keyEncoding => "devicePrivateKey is not base64"
  | .key cause => cause.message

/-- The rules that a document breaks. -/
def DocumentFault.reasons : DocumentFault → List String
  | .content cause => cause.reasons
  | _ => []

/-- What is wrong with transfer information. -/
inductive InfoError where
  | syntaxError
  | document (id : String) (fault : DocumentFault)
  | trustAnchor (cause : TrustError)
  deriving DecidableEq

def InfoError.message : InfoError → String
  | .syntaxError => "transfer info is not valid JSON"
  | .document id fault => "document '" ++ id ++ "': " ++ fault.message
  | .trustAnchor cause => cause.message

/-- A document as it is given. -/
structure DocumentFile where
  docType : String
  issuerSigned : String
  devicePrivateKey : String
  displayName : Option String
  elementNames : TextMap (TextMap String)

namespace DocumentFile

/-- The document that a value stands for. -/
def ofJson? (j : Json) : Option DocumentFile := do
  match ← j.fields? ["docType", "issuerSigned", "devicePrivateKey", "displayName",
    "elementNames"] with
  | [some docType, some issuerSigned, some devicePrivateKey, displayName, elementNames] =>
    return {
      docType := ← docType.string?
      issuerSigned := ← issuerSigned.string?
      devicePrivateKey := ← devicePrivateKey.string?
      displayName := ← Json.orDefault? none (Json.nullable? Json.string?) displayName
      elementNames :=
        ← Json.orDefault? ∅ (Json.textMap? (Json.textMap? Json.string?)) elementNames }
  | _ => none

/-- The credential that a document holds. -/
def toCredential (id : String) (file : DocumentFile) : Except DocumentFault Credential := do
  let some issuerSigned := Base64.decode? Base64.standard file.issuerSigned
    | throw .encoding
  let issuerSigned ← (Cbor.decode issuerSigned).mapError .content
  let some key := Base64.decode? Base64.standard file.devicePrivateKey | throw .keyEncoding
  let privateKey ← (PrivateKey.ofBytes key).mapError .key
  return {
    id := id
    docType := file.docType
    issuerSigned := issuerSigned
    privateKey := privateKey
    displayName := file.displayName
    elementNames := file.elementNames }

end DocumentFile

namespace TransferInfo

/-- Documents, trust anchors and settings as they are given. -/
def fields? (j : Json) :
    Option (TextMap DocumentFile × List String × TransferConfig) := do
  match ← j.fields? ["documents", "trustAnchors", "config"] with
  | [some documents, anchors, config] =>
    return (← documents.textMap? DocumentFile.ofJson?,
      ← Json.orDefault? [] (Json.list? Json.string?) anchors,
      ← Json.orDefault? {} TransferConfig.ofJson? config)
  | _ => none

/-- The transfer information in a text. -/
def ofText (text : String) : Except InfoError TransferInfo := do
  let some (documents, anchors, config) := Json.parse? text >>= fields? | throw .syntaxError
  let credentials ← documents.entries.mapM (fun entry =>
    (entry.2.toCredential entry.1).mapError (.document entry.1))
  let anchors ← (TrustAnchors.ofTexts anchors).mapError .trustAnchor
  return ⟨.ofList credentials, anchors, config⟩

end TransferInfo

end Presentment
