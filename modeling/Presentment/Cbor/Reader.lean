import Presentment.Cbor.Head

/-!
# Reading items

`Value.parse levels` reads one item of any shape whose containers and tags nest at most
`levels` deep.  Lengths may be open, byte and text strings may come in segments, and a
bignum of at most sixteen bytes whose byte string has a definite length is an integer.
-/

namespace Presentment.Cbor

/-- Whether another element follows, given how many are announced: `none` at the end and
otherwise the announcement for what comes after it.  An open container ends with a stop. -/
def Parse.more : Option Nat → Parse (Option (Option Nat))
  | some 0 => return none
  | some (n + 1) => return some (some n)
  | none => fun input => match input with
    | 0xFF :: rest => .ok (none, rest)
    | _ => .ok (some none, input)

/-- Reads the announced number of elements, each at least one byte long. -/
def Parse.elementsWithin {α : Type} (element : Parse α) :
    (fuel : Nat) → Option Nat → Parse (List α)
  | 0, _ => Parse.refuse .malformed
  | fuel + 1, announced => do
    match ← Parse.more announced with
    | none => return []
    | some announced => do
      let first ← element
      let others ← elementsWithin element fuel announced
      return first :: others

/-- Reads the announced number of elements. -/
def Parse.elements {α : Type} (element : Parse α) (announced : Option Nat) :
    Parse (List α) := do
  Parse.elementsWithin element ((← get).length + 1) announced

/-- Reads the segments of a string of open length, at `depth` strings still open.  `length?`
tells the heads of segments apart; a segment may itself be of open length. -/
def Parse.segmentsWithin (length? : Head → Option (Option Nat)) :
    (fuel depth : Nat) → Parse (List Bytes)
  | 0, _ => Parse.refuse .malformed
  | fuel + 1, depth => do
    match ← Head.parse with
    | .stop => match depth with
      | 0 => Parse.refuse .malformed
      | 1 => return []
      | depth + 1 => segmentsWithin length? fuel depth
    | head => match length? head with
      | none => Parse.refuse .malformed
      | some none => segmentsWithin length? fuel (depth + 1)
      | some (some n) => do
        let first ← Parse.take n
        let others ← segmentsWithin length? fuel depth
        return first :: others

/-- Reads the segments of a string after its head. -/
def Parse.segments (length? : Head → Option (Option Nat)) : Option Nat → Parse (List Bytes)
  | some n => return [← Parse.take n]
  | none => do Parse.segmentsWithin length? ((← get).length + 1) 1

/-- Reads a byte string after its head. -/
def Parse.bytes (length : Option Nat) : Parse Bytes := do
  let segments ← Parse.segments (fun | .bytes length => some length | _ => none) length
  return segments.flatten

/-- Reads a text after its head; each segment is UTF-8 by itself. -/
def Parse.text (length : Option Nat) : Parse String := do
  let segments ← Parse.segments (fun | .text length => some length | _ => none) length
  match segments.mapM Bytes.toText? with
  | some texts => return String.join texts
  | none => Parse.refuse .malformed

/-- The integer with bignum tag `number` and digits `digits`, if it has at most 128 bits;
a negative one has at most 127. -/
def bignum? (number : Nat) (digits : Bytes) : Option Int :=
  let n := Bytes.toNat digits
  if number = 2 then some n
  else if n < 1 <<< 127 then some (-1 - n)
  else none

/-- Reads the integer that a tag with number 2 or 3 stands for, if a byte string of at most
sixteen bytes and definite length follows; otherwise the input is left alone. -/
def Parse.bignum (number : Nat) : Parse (Option Int) := do
  let start ← get
  match ← Head.parse with
  | .bytes (some length) =>
    if length ≤ 16 then
      match bignum? number (← Parse.take length) with
      | some n => return some n
      | none => Parse.refuse .malformed
    else
      set start
      return none
  | _ =>
    set start
    return none

/-- Reads an item; `nested` reads the items inside it, unless they would nest too deep. -/
def Value.parseOver (nested : Option (Parse Value)) : Parse Value := do
  match ← Head.parse with
  | .unsigned n => return .int n
  | .negative n => return .int (-1 - n)
  | .bytes length => return .bytes (← Parse.bytes length)
  | .text length => return .text (← Parse.text length)
  | .float bits => return .float (UInt64.ofNat bits)
  | .simple 20 => return .bool false
  | .simple 21 => return .bool true
  | .simple 22 => return .null
  | .simple 23 => return .null
  | .simple _ => Parse.refuse .malformed
  | .stop => Parse.refuse .malformed
  | .tag number => do
    let integer ← if number = 2 ∨ number = 3 then Parse.bignum number else pure none
    match integer, nested with
    | some n, _ => return .ofInt n
    | none, some item => return .tag (UInt64.ofNat number) (← item)
    | none, none => Parse.refuse .malformed
  | .array length => match nested with
    | some item => return .array (← Parse.elements item length)
    | none => Parse.refuse .malformed
  | .map length => match nested with
    | some item =>
      let entry : Parse (Value × Value) := do
        let key ← item
        let value ← item
        return (key, value)
      return .map (← Parse.elements entry length)
    | none => Parse.refuse .malformed

/-- Reads an item whose containers and tags nest at most `levels` deep. -/
def Value.parse : (levels : Nat) → Parse Value
  | 0 => Value.parseOver none
  | levels + 1 => Value.parseOver (some (Value.parse levels))

end Presentment.Cbor
