import Presentment.Bytes

/-!
# Base64 text

Three bytes are four characters of six bits each.  Two alphabets are in use, which differ
in the characters for 62 and 63.  Texts are written without padding and read with all,
some or none of it.  Reading refuses characters outside the alphabet, padding that does
not complete a group, a single character in the last group, and bits that belong to no
byte.
-/

namespace Presentment.Base64

/-- The two characters in which the alphabets differ. -/
structure Alphabet where
  char62 : Char
  char63 : Char

/-- The alphabet of certificates and keys. -/
def standard : Alphabet := ⟨'+', '/'⟩

/-- The alphabet of addresses. -/
def url : Alphabet := ⟨'-', '_'⟩

/-- The character for `n < 64`. -/
def Alphabet.char (a : Alphabet) (n : Nat) : Char :=
  if n < 26 then Char.ofNat (65 + n)
  else if n < 52 then Char.ofNat (71 + n)
  else if n < 62 then Char.ofNat (n - 4)
  else if n = 62 then a.char62
  else a.char63

/-- The value of a character of the alphabet. -/
def Alphabet.value? (a : Alphabet) (c : Char) : Option Nat :=
  if 'A' ≤ c ∧ c ≤ 'Z' then some (c.toNat - 65)
  else if 'a' ≤ c ∧ c ≤ 'z' then some (c.toNat - 71)
  else if '0' ≤ c ∧ c ≤ '9' then some (c.toNat + 4)
  else if c = a.char62 then some 62
  else if c = a.char63 then some 63
  else none

/-- The six-bit values of a byte string; unused bits of the last one are zero. -/
def toSextets : Bytes → List Nat
  | [] => []
  | [x] => [x.toNat / 4, x.toNat % 4 * 16]
  | [x, y] => [x.toNat / 4, x.toNat % 4 * 16 + y.toNat / 16, y.toNat % 16 * 4]
  | x :: y :: z :: rest =>
    [x.toNat / 4, x.toNat % 4 * 16 + y.toNat / 16, y.toNat % 16 * 4 + z.toNat / 64, z.toNat % 64]
      ++ toSextets rest

/-- The bytes of a sequence of six-bit values; the bits that no byte uses are zero. -/
def ofSextets? : List Nat → Option Bytes
  | [] => some []
  | [_] => none
  | [a, b] => if b % 16 = 0 then some [UInt8.ofNat (a * 4 + b / 16)] else none
  | [a, b, c] =>
    if c % 4 = 0 then
      some [UInt8.ofNat (a * 4 + b / 16), UInt8.ofNat (b % 16 * 16 + c / 4)]
    else none
  | a :: b :: c :: d :: rest => do
    let bytes ← ofSextets? rest
    return UInt8.ofNat (a * 4 + b / 16) :: UInt8.ofNat (b % 16 * 16 + c / 4)
      :: UInt8.ofNat (c % 4 * 64 + d) :: bytes

/-- The text of a byte string, without padding. -/
def encode (a : Alphabet) (bs : Bytes) : String :=
  String.ofList ((toSextets bs).map a.char)

/-- A text without its padding, which is no longer than the last group needs. -/
def withoutPadding? (cs : List Char) : Option (List Char) :=
  let body := (cs.reverse.dropWhile (· == '=')).reverse
  if cs.length - body.length ≤ (4 - body.length % 4) % 4 then some body else none

/-- The bytes that a text stands for. -/
def decode? (a : Alphabet) (s : String) : Option Bytes := do
  let body ← withoutPadding? s.toList
  let sextets ← body.mapM a.value?
  ofSextets? sextets

end Presentment.Base64
