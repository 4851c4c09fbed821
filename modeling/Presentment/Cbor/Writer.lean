import Presentment.Cbor.Head

/-!
# Writing items

Every item is written with definite lengths and the shortest heads.
-/

namespace Presentment.Cbor

/-- The bytes of an integer; outside the range of a head, those of a bignum. -/
def encodeInt : Int → Bytes
  | .ofNat n =>
    if n < 0x10000000000000000 then Head.encodeArgument 0 n
    else
      let digits := Bytes.minimal n
      Head.encodeArgument 6 2 ++ Head.encodeArgument 2 digits.length ++ digits
  | .negSucc n =>
    if n < 0x10000000000000000 then Head.encodeArgument 1 n
    else
      let digits := Bytes.minimal n
      Head.encodeArgument 6 3 ++ Head.encodeArgument 2 digits.length ++ digits

/-- The bytes of a byte string item. -/
def encodeBytes (bs : Bytes) : Bytes :=
  Head.encodeArgument 2 bs.length ++ bs

/-- The bytes of a text item. -/
def encodeText (s : String) : Bytes :=
  let utf8 := Bytes.ofText s
  Head.encodeArgument 3 utf8.length ++ utf8

namespace Value

mutual

/-- The bytes of an item. -/
def encode : Value → Bytes
  | .int n => encodeInt n
  | .bytes bs => encodeBytes bs
  | .text s => encodeText s
  | .float bits => Head.encodeFloat bits.toNat
  | .bool b => [if b then 0xF5 else 0xF4]
  | .null => [0xF6]
  | .tag number item => Head.encodeArgument 6 number.toNat ++ encode item
  | .array items => Head.encodeArgument 4 items.length ++ encodeItems items
  | .map entries => Head.encodeArgument 5 entries.length ++ encodeEntries entries

/-- The bytes of items in sequence. -/
def encodeItems : List Value → Bytes
  | [] => []
  | item :: items => encode item ++ encodeItems items

/-- The bytes of keys and values in sequence. -/
def encodeEntries : List (Value × Value) → Bytes
  | [] => []
  | (key, value) :: entries => encode key ++ encode value ++ encodeEntries entries

end

end Value

end Presentment.Cbor
