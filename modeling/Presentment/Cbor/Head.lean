import Presentment.Refusal
import Presentment.Cbor.Value
import Presentment.Cbor.Float

/-!
# Heads

Every item starts with a head: three bits for its kind and an argument, which is a number,
a length or the item itself.  `Head.parse` reads a head from the front of a byte string and
`Head.encode` writes it in its shortest form.
-/

namespace Presentment.Cbor

/-- A reader of the front of a byte string. -/
abbrev Parse := StateT Bytes (Except Refusal)

namespace Parse

/-- Gives up on the input. -/
def refuse {α : Type} (cause : Refusal) : Parse α := fun _ => .error cause

/-- The next `n` bytes. -/
def take (n : Nat) : Parse Bytes := fun input =>
  let front := input.take n
  if front.length = n then .ok (front, input.drop n) else .error .malformed

/-- The number in the next `width` bytes. -/
def nat (width : Nat) : Parse Nat := do
  return Bytes.toNat (← take width)

end Parse

/-- The head of an item. -/
inductive Head where
  | unsigned (n : Nat)
  /-- The integer `-1 - n`. -/
  | negative (n : Nat)
  /-- A byte string of the given length, or in segments up to a stop. -/
  | bytes (length : Option Nat)
  | text (length : Option Nat)
  | array (length : Option Nat)
  | map (length : Option Nat)
  | tag (number : Nat)
  | float (bits : Nat)
  | simple (n : Nat)
  | stop
  deriving DecidableEq

namespace Head

/-- The argument of a head, from the low five bits of its first byte: the bits themselves,
or a number in the one, two, four or eight bytes that follow, or none for an open length. -/
def argument (low : Nat) : Parse (Option Nat) :=
  if low < 24 then return some low
  else if low < 28 then return some (← Parse.nat (1 <<< (low - 24)))
  else if low = 31 then return none
  else Parse.refuse .malformed

/-- The head of kind `major` with the given argument; `low` tells the width of a number of
kind seven. -/
def ofArgument (major low : Nat) : Option Nat → Parse Head
  | some n => match major with
    | 0 => return .unsigned n
    | 1 => return .negative n
    | 2 => return .bytes (some n)
    | 3 => return .text (some n)
    | 4 => return .array (some n)
    | 5 => return .map (some n)
    | 6 => return .tag n
    | _ => return match low with
      | 25 => .float (FloatFormat.half.widen n)
      | 26 => .float (FloatFormat.single.widen n)
      | 27 => .float n
      | _ => .simple n
  | none => match major with
    | 2 => return .bytes none
    | 3 => return .text none
    | 4 => return .array none
    | 5 => return .map none
    | 7 => return .stop
    | _ => Parse.refuse .malformed

/-- Reads a head. -/
def parse : Parse Head := do
  let first ← Parse.nat 1
  let low := first % 32
  let argument ← argument low
  ofArgument (first / 32) low argument

/-- Reads heads up to the first that is not a tag. -/
def parseUntaggedWithin : (fuel : Nat) → Parse Head
  | 0 => Parse.refuse .malformed
  | fuel + 1 => do
    match ← parse with
    | .tag _ => parseUntaggedWithin fuel
    | head => return head

/-- Reads a head, passing over any tags before it. -/
def parseUntagged : Parse Head := do
  parseUntaggedWithin ((← get).length + 1)

/-- The bytes of a head of kind `major` with argument `n`, in as few bytes as possible. -/
def encodeArgument (major n : Nat) : Bytes :=
  let first (low : Nat) : UInt8 := UInt8.ofNat (major * 32 + low)
  if n < 24 then [first n]
  else if n < 0x100 then first 24 :: Bytes.ofNat 1 n
  else if n < 0x10000 then first 25 :: Bytes.ofNat 2 n
  else if n < 0x100000000 then first 26 :: Bytes.ofNat 4 n
  else first 27 :: Bytes.ofNat 8 n

/-- The bytes of a floating-point number, in the narrowest format that holds it. -/
def encodeFloat (bits : Nat) : Bytes :=
  match FloatFormat.half.narrow? bits with
  | some narrow => 0xF9 :: Bytes.ofNat 2 narrow
  | none => match FloatFormat.single.narrow? bits with
    | some narrow => 0xFA :: Bytes.ofNat 4 narrow
    | none => 0xFB :: Bytes.ofNat 8 bits

end Head

end Presentment.Cbor
