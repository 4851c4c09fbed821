import Presentment.Text.Hex

/-!
# Universally unique identifiers

A `Uuid` is sixteen bytes, written as five groups of lower-case hexadecimal digits.
`Uuid.random` marks sixteen random bytes as a version 4 identifier.
-/

namespace Presentment

/-- An identifier of sixteen bytes. -/
structure Uuid where
  bytes : Bytes
  length_bytes : bytes.length = 16
  deriving DecidableEq

namespace Uuid

/-- The identifier with the given bytes, if there are sixteen. -/
def ofBytes? (bs : Bytes) : Option Uuid :=
  if h : bs.length = 16 then some ⟨bs, h⟩ else none

/-- The identifier whose number is `n`. -/
def ofNat (n : Nat) : Uuid :=
  ⟨Bytes.ofNat 16 n, Bytes.length_ofNat 16 n⟩

/-- `u` with the version set to 4 and the variant to the standard one. -/
def random (u : Uuid) : Uuid where
  bytes := (u.bytes.modify 6 (· &&& 0x0F ||| 0x40)).modify 8 (· &&& 0x3F ||| 0x80)
  length_bytes := by simp [u.length_bytes]

/-- The hyphenated text of an identifier. -/
def toText (u : Uuid) : String :=
  let digits (start count : Nat) : String := Hex.encode ((u.bytes.drop start).take count)
  "-".intercalate [digits 0 4, digits 4 2, digits 6 2, digits 8 2, digits 10 6]

/-- Reads the hyphenated form: hyphens after 8, 12, 16 and 20 digits and nowhere else. -/
def ofHyphenated? (cs : List Char) : Option Uuid := do
  guard (cs.length = 36)
  guard ([8, 13, 18, 23].all (fun i => cs[i]? == some '-'))
  let bytes ← Hex.decodeChars? (cs.filter (· != '-'))
  ofBytes? bytes

/-- Reads an identifier with or without hyphens; a hyphenated one may stand in braces or
after `urn:uuid:`. -/
def ofText? (s : String) : Option Uuid :=
  let cs := s.toList
  let urn := "urn:uuid:".toList
  if cs.length = 32 then Hex.decodeChars? cs >>= ofBytes?
  else if cs.length = 38 ∧ cs.head? = some '{' ∧ cs.getLast? = some '}' then
    ofHyphenated? cs.tail.dropLast
  else if urn.isPrefixOf cs then ofHyphenated? (cs.drop urn.length)
  else ofHyphenated? cs

end Uuid

end Presentment
