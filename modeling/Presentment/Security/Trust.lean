import Presentment.Certificate.Pem
import Presentment.Crypto.Suite

/-!
# Trust anchors

The certificate of a reader is trusted if its validity period contains the present, its
issuer is the subject of a trust anchor, and the key of the anchor made its signature.  Of
several anchors with the same subject the first one counts.
-/

namespace Presentment

/-- Why a certificate is not trusted. -/
inductive TrustError where
  | unreadable
  | unknownIssuer
  | expired (subject : Certificate.Name)
  | notYetValid (subject : Certificate.Name)
  | signature
  deriving DecidableEq

def TrustError.message : TrustError → String
  | .unreadable => "unable to parse certificate"
  | .unknownIssuer => "The certificate issuer does not match any known trusted issuer"
  | .expired subject => "Expired certificate with subject: " ++ subject.toText
  | .notYetValid subject => "Not yet valid certificate with subject: " ++ subject.toText
  | .signature => "certificate signature could not be validated"

namespace Certificate

/-- Checks that the validity period contains the time `now`, both ends included. -/
def checkValidity (c : Certificate) (now : Nat) : Except TrustError Unit := do
  if c.body.notAfter.seconds < now then throw (.expired c.body.subject)
  if c.body.notBefore.seconds > now then throw (.notYetValid c.body.subject)

/-- The public key of the subject. -/
def publicKey (suite : CipherSuite) (c : Certificate) : Except TrustError Cose.Key :=
  match suite.ofPoint? c.body.key.bytes with
  | some key => .ok key
  | none => .error .unreadable

/-- Checks that the key of `issuer` made the signature of `subject`. -/
def checkSignedBy (suite : CipherSuite) (subject issuer : Certificate) :
    Except TrustError Unit := do
  let key ← issuer.publicKey suite
  let some signature := Ecdsa.Signature.ofElement? subject.signature.bytes | throw .signature
  if !suite.verify key subject.body.encode signature.toBytes then throw .signature

end Certificate

/-- The certificates that the signatures of readers are traced back to. -/
structure TrustAnchors where
  certificates : List Certificate
  deriving DecidableEq

namespace TrustAnchors

/-- No trust anchors. -/
def none : TrustAnchors := ⟨[]⟩

/-- The trust anchors in byte strings. -/
def ofBytes (certificates : List Bytes) : Except TrustError TrustAnchors := do
  return ⟨← certificates.mapM (fun bs => match Certificate.ofBytes? bs with
    | some c => .ok c
    | .none => .error .unreadable)⟩

/-- The trust anchors in texts. -/
def ofTexts (certificates : List String) : Except TrustError TrustAnchors := do
  return ⟨← certificates.mapM (fun text => match Certificate.Pem.decode? text with
    | some c => .ok c
    | .none => .error .unreadable)⟩

/-- The anchor that makes `leaf` trusted at the time `now`. -/
def verify (suite : CipherSuite) (now : Nat) (anchors : TrustAnchors) (leaf : Certificate) :
    Except TrustError Certificate := do
  leaf.checkValidity now
  let some anchor := anchors.certificates.find? (fun c => c.body.subject = leaf.body.issuer)
    | throw .unknownIssuer
  Certificate.checkSignedBy suite leaf anchor
  return anchor

end TrustAnchors

end Presentment
