import Presentment.Bytes

/-!
# Items

A CBOR item in memory.  Integers are those of one head, from `-2 ^ 64` to `2 ^ 64 - 1`;
larger ones are byte strings with tag 2 or 3.  Undefined is read as null, a floating-point
number is kept as the bits of its binary64 form, and a map keeps its entries in the order
in which they were read, repeated keys included.
-/

namespace Presentment.Cbor

/-- A CBOR item. -/
inductive Value where
  | int (n : Int)
  | bytes (bs : Bytes)
  | text (s : String)
  | float (bits : UInt64)
  | bool (b : Bool)
  | null
  | tag (number : UInt64) (item : Value)
  | array (items : List Value)
  | map (entries : List (Value × Value))

instance : Inhabited Value := ⟨.null⟩

namespace Value

/-- Whether an integer fits into one head. -/
def fitsHead (n : Int) : Bool :=
  -0x10000000000000000 ≤ n && n < 0x10000000000000000

/-- The integer `n`; outside the range of a head, the bytes of a bignum. -/
def ofInt (n : Int) : Value :=
  if fitsHead n then .int n
  else match n with
    | .ofNat m => .tag 2 (.bytes (Bytes.minimal m))
    | .negSucc m => .tag 3 (.bytes (Bytes.minimal m))

/-- The item under all tags. -/
def untagged : Value → Value
  | .tag _ item => item.untagged
  | item => item

end Value

end Presentment.Cbor
