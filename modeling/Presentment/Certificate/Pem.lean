import Presentment.Certificate.Basic
import Presentment.Text.Base64

/-!
# Certificates as text

A certificate may be given as text: lines of sixty-four characters of base64, the last one
perhaps shorter, between two boundary lines that name what they enclose.  Text before the
first boundary is passed over.  Lines end with a line feed, a carriage return or both.
-/

namespace Presentment.Certificate.Pem

/-- What the boundaries name. -/
def label : String := "CERTIFICATE"

/-- The line before the text. -/
def opening : List Char := ("-----BEGIN " ++ label ++ "-----").toList

/-- The line after the text. -/
def closing : List Char := ("-----END " ++ label ++ "-----").toList

/-- How long the lines are. -/
def lineWidth : Nat := 64

/-- The text from the first line that starts a boundary. -/
def skipPreamble? (cs : List Char) : Option (List Char) :=
  let start := "-----BEGIN ".toList
  if start.isPrefixOf cs then some cs
  else search start cs
where
  search (start : List Char) : List Char → Option (List Char)
    | [] => none
    | '\x00' :: _ => none
    | '\n' :: rest => if start.isPrefixOf rest then some rest else search start rest
    | _ :: rest => search start rest

/-- What follows a given start. -/
def after? (start cs : List Char) : Option (List Char) :=
  if start.isPrefixOf cs then some (cs.drop start.length) else none

/-- What follows the end of a line. -/
def afterLineEnd? : List Char → Option (List Char)
  | '\r' :: '\n' :: rest => some rest
  | '\r' :: rest => some rest
  | '\n' :: rest => some rest
  | _ => none

/-- What comes before the end of a line at the end of a text, which is given backwards. -/
def beforeLineEnd? : List Char → Option (List Char)
  | '\n' :: '\r' :: rest => some rest
  | '\n' :: rest => some rest
  | '\r' :: rest => some rest
  | _ => none

/-- The characters of lines of full width, the last one perhaps shorter; there are at most
`fuel` lines. -/
def joinLines? : (fuel : Nat) → List Char → Option (List Char)
  | 0, _ => none
  | fuel + 1, cs =>
    if cs.length ≤ lineWidth then some cs
    else do
      let rest ← afterLineEnd? (cs.drop lineWidth)
      return cs.take lineWidth ++ (← joinLines? fuel rest)

/-- The characters between the boundaries. -/
def enclosed? (text : String) : Option (List Char) := do
  let cs ← skipPreamble? text.toList
  let cs ← after? opening cs
  let cs ← afterLineEnd? cs
  let backwards := cs.reverse
  let backwards := (beforeLineEnd? backwards).getD backwards
  let backwards ← after? closing.reverse backwards
  let backwards ← beforeLineEnd? backwards
  joinLines? (backwards.length + 1) backwards.reverse

/-- The certificate in a text. -/
def decode? (text : String) : Option Certificate := do
  let cs ← enclosed? text
  guard (cs.length % 4 = 0)
  let bytes ← Base64.decode? Base64.standard (String.ofList cs)
  let (certificate, _) ← Certificate.parse bytes
  return certificate

end Presentment.Certificate.Pem
