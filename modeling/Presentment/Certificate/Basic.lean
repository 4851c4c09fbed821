import Presentment.Certificate.Name
import Presentment.Cose.Key
import Presentment.Der.Time

/-!
# Certificates

A certificate says that a key belongs to a subject; its issuer signs the `Body`.  The
signature is made over the body in its one distinguished form, so a body that was read is
written out again to check it.
-/

namespace Presentment

open Der (Element ObjectIdentifier BitString Time)

namespace Certificate

/-- An algorithm with its parameters. -/
structure Algorithm where
  oid : ObjectIdentifier
  parameters : Option Element
  deriving DecidableEq

/-- A further property of the subject. -/
structure Extension where
  oid : ObjectIdentifier
  critical : Bool
  value : Bytes
  deriving DecidableEq

/-- What the issuer signs. -/
structure Body where
  version : UInt8
  serialNumber : Bytes
  signatureAlgorithm : Algorithm
  issuer : Name
  notBefore : Time
  notAfter : Time
  subject : Name
  keyAlgorithm : Algorithm
  key : BitString
  issuerId : Option BitString
  subjectId : Option BitString
  extensions : Option (List Extension)
  deriving DecidableEq

end Certificate

/-- A body with a signature. -/
structure Certificate where
  body : Certificate.Body
  algorithm : Certificate.Algorithm
  signature : BitString
  deriving DecidableEq

namespace Certificate

/-! ### Reading -/

/-- Reads an element if there is one. -/
def optionalElement : Der.Parse (Option Element) := do
  if (← get).isEmpty then return none else return some (← Der.element)

namespace Algorithm

/-- Reads an algorithm. -/
def parse : Der.Parse Algorithm := Der.within Der.Tag.sequence do
  return ⟨← ObjectIdentifier.parse, ← optionalElement⟩

end Algorithm

namespace Extension

/-- Reads an extension; one that does not say so is not critical. -/
def parse : Der.Parse Extension := Der.within Der.Tag.sequence do
  let oid ← ObjectIdentifier.parse
  let critical ← Der.optional Der.Tag.boolean Der.boolean
  let value ← Der.content Der.Tag.octetString
  return ⟨oid, critical.getD false, value⟩

end Extension

namespace Body

/-- Reads a version number: 0, 1 or 2. -/
def parseVersion : Der.Parse UInt8 := do
  match ← Der.content Der.Tag.integer with
  | [n] => if n ≤ 2 then return n else failure
  | _ => failure

/-- The longest serial number. -/
def maxSerialNumber : Nat := 21

/-- Reads a serial number. -/
def parseSerialNumber : Der.Parse Bytes := do
  let serialNumber ← Der.content Der.Tag.integer
  guard (Der.isCanonicalInteger serialNumber ∧ serialNumber.length ≤ maxSerialNumber)
  return serialNumber

/-- Reads the bit string with context-specific number `n`, which stands without an element
of its own. -/
def parseId (n : Nat) : Der.Parse (Option BitString) :=
  Der.contextSpecific n do
    let content ← Der.content (0x80 + UInt8.ofNat n)
    match BitString.ofContent? content with
    | some s => return s
    | none => failure

/-- Reads a body. -/
def parse : Der.Parse Body := Der.within Der.Tag.sequence do
  let version ← Der.contextSpecific 0 (Der.within (Der.Tag.context 0) parseVersion)
  let serialNumber ← parseSerialNumber
  let signatureAlgorithm ← Algorithm.parse
  let issuer ← Name.parse
  let (notBefore, notAfter) ← Der.within Der.Tag.sequence do
    return (← Time.parse, ← Time.parse)
  let subject ← Name.parse
  let (keyAlgorithm, key) ← Der.within Der.Tag.sequence do
    return (← Algorithm.parse, ← Der.bitString)
  let issuerId ← parseId 1
  let subjectId ← parseId 2
  let extensions ← Der.contextSpecific 3
    (Der.within (Der.Tag.context 3) (Der.within Der.Tag.sequence (Der.many Extension.parse)))
  return ⟨version.getD 0, serialNumber, signatureAlgorithm, issuer, notBefore, notAfter,
    subject, keyAlgorithm, key, issuerId, subjectId, extensions⟩

end Body

/-- Reads a certificate. -/
def parse : Der.Parse Certificate := Der.within Der.Tag.sequence do
  return ⟨← Body.parse, ← Algorithm.parse, ← Der.bitString⟩

/-- The certificate that fills a byte string. -/
def ofBytes? (bs : Bytes) : Option Certificate :=
  Der.whole parse bs

/-! ### Writing -/

def Algorithm.encode (a : Algorithm) : Bytes :=
  Der.encode Der.Tag.sequence (a.oid.encode ++ (a.parameters.elim [] Element.encode))

def Extension.encode (e : Extension) : Bytes :=
  let critical := if e.critical then Der.encode Der.Tag.boolean [0xFF] else []
  Der.encode Der.Tag.sequence (e.oid.encode ++ critical ++ Der.encode Der.Tag.octetString e.value)

/-- The bytes that the signature of a certificate is made over; the first version is left
out. -/
def Body.encode (b : Body) : Bytes :=
  let version :=
    if b.version = 0 then []
    else Der.encode (Der.Tag.context 0) (Der.encode Der.Tag.integer [b.version])
  let id (n : UInt8) (s : Option BitString) : Bytes :=
    s.elim [] (fun s => Der.encode (0x80 + n) s.content)
  let extensions := b.extensions.elim [] (fun extensions =>
    Der.encode (Der.Tag.context 3)
      (Der.encode Der.Tag.sequence (extensions.flatMap Extension.encode)))
  Der.encode Der.Tag.sequence
    (version ++ Der.encode Der.Tag.integer b.serialNumber ++ b.signatureAlgorithm.encode
      ++ b.issuer.encode
      ++ Der.encode Der.Tag.sequence (b.notBefore.written.encode ++ b.notAfter.written.encode)
      ++ b.subject.encode
      ++ Der.encode Der.Tag.sequence (b.keyAlgorithm.encode ++ b.key.encode)
      ++ id 1 b.issuerId ++ id 2 b.subjectId ++ extensions)

end Certificate

end Presentment
