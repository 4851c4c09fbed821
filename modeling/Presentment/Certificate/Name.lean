import Presentment.Der.Registry
import Presentment.Text.Hex

/-!
# Names

A name is a list of parts, each a set of attributes.  As a text it reads from the last part
to the first, with commas between parts and plus signs within them.  An attribute whose type
has a registered name and whose value is a text is written with both, and any other with the
numbers of its type and the bytes of its value.
-/

namespace Presentment.Certificate

open Der (Element ObjectIdentifier)

/-- A type and a value. -/
structure Attribute where
  type : ObjectIdentifier
  value : Element
  deriving DecidableEq

/-- The parts of a name; the attributes of each are in the order of their bytes. -/
structure Name where
  parts : List (List Attribute)
  deriving DecidableEq

namespace Attribute

/-- Reads an attribute. -/
def parse : Der.Parse Attribute := Der.within Der.Tag.sequence do
  return ⟨← ObjectIdentifier.parse, ← Der.element⟩

def encode (a : Attribute) : Bytes :=
  Der.encode Der.Tag.sequence (a.type.encode ++ a.value.encode)

/-- Whether a byte is a character of a printable string. -/
def isPrintable (b : UInt8) : Bool :=
  (0x30 ≤ b && b ≤ 0x39) || (0x41 ≤ b && b ≤ 0x5A) || (0x61 ≤ b && b ≤ 0x7A)
    || (Bytes.ofText " '()+,-./:=?").contains b

/-- The text that a value is. -/
def textOf? (value : Element) : Option String :=
  if value.tag = Der.Tag.utf8String then Bytes.toText? value.content
  else if value.tag = Der.Tag.printableString then
    if value.content.all isPrintable then Bytes.toText? value.content else none
  else if value.tag = Der.Tag.ia5String ∨ value.tag = Der.Tag.teletexString then
    if value.content.all (· < 0x80) then Bytes.toText? value.content else none
  else none

/-- A character of a text value; characters that would end the value, and blanks at its
ends, stand after a backslash. -/
def escapeChar (isFirst isLast : Bool) (c : Char) : String :=
  if (c = '#' ∧ isFirst) ∨ (c = ' ' ∧ (isFirst ∨ isLast))
      ∨ ['"', '+', ',', ';', '<', '>', '\\'].contains c then
    String.ofList ['\\', c]
  else if c.toNat < 0x20 ∨ c.toNat = 0x7F then "\\" ++ Hex.encode [UInt8.ofNat c.toNat]
  else String.singleton c

/-- The characters of a text value after its first one. -/
def escapeRest : List Char → String
  | [] => ""
  | c :: rest => escapeChar false rest.isEmpty c ++ escapeRest rest

/-- A text value. -/
def escape (s : String) : String :=
  match s.toList with
  | [] => ""
  | c :: rest => escapeChar true rest.isEmpty c ++ escapeRest rest

def toText (a : Attribute) : String :=
  match a.type.name?, textOf? a.value with
  | some name, some value => name.toUpper ++ "=" ++ escape value
  | _, _ => a.type.toText ++ "=#" ++ Hex.encode a.value.encode

/-- Whether one attribute is written before another one in its set. -/
def precedes (a b : Attribute) : Bool :=
  a.encode.lex b.encode (· < ·)

end Attribute

namespace Name

/-- Reads a part: attributes in any order, no two of them alike. -/
def parsePart : Der.Parse (List Attribute) := Der.within Der.Tag.set do
  let attributes ← Der.many Attribute.parse
  guard attributes.Nodup
  return attributes.mergeSort (fun a b => !b.precedes a)

/-- Reads a name. -/
def parse : Der.Parse Name := Der.within Der.Tag.sequence do
  return ⟨← Der.many parsePart⟩

def encode (n : Name) : Bytes :=
  Der.encode Der.Tag.sequence (n.parts.flatMap (fun part =>
    Der.encode Der.Tag.set (part.flatMap Attribute.encode)))

def toText (n : Name) : String :=
  ",".intercalate (n.parts.reverse.map (fun part => "+".intercalate (part.map Attribute.toText)))

end Name

end Presentment.Certificate
