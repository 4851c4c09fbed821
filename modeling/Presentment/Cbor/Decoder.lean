import Presentment.NonEmpty
import Presentment.Cbor.Reader
import Presentment.Cbor.Writer

/-!
# Decoders

A `Decoder α` reads an item of a known shape, either from the front of a byte string or
from an item in memory.  Reading from bytes goes head by head, without an item in between:
tags before a value of known shape are passed over, containers nest at most `levels` deep,
and a list that is longer than the shape leaves its surplus elements in the input.

`Wire α` is the class of the types with a shape: `toValue` is the item of a value, `encode`
its bytes, and `decode` reads the bytes back.
-/

namespace Presentment.Cbor

/-- A reader of items of one shape. -/
structure Decoder (α : Type) where
  /-- Reads the item at the front of a byte string, nesting at most `levels` deep. -/
  parse : (levels : Nat) → Parse α
  /-- Reads an item in memory. -/
  ofValue : Value → Except Refusal α

namespace Decoder

variable {α β γ : Type}

/-- Refuses every item. -/
def refuse (cause : Refusal) : Decoder α where
  parse _ := Parse.refuse cause
  ofValue _ := .error cause

/-- Reads with `d`, then checks and converts what was read. -/
def refine (d : Decoder α) (f : α → Except Refusal β) : Decoder β where
  parse levels := do
    match f (← d.parse levels) with
    | .ok b => return b
    | .error cause => Parse.refuse cause
  ofValue item := d.ofValue item >>= f

/-- Reads with `d` and converts what was read. -/
def map (f : α → β) (d : Decoder α) : Decoder β :=
  d.refine (fun a => .ok (f a))

/-- Reads any item. -/
def value : Decoder Value where
  parse := Value.parse
  ofValue := .ok

/-- Reads an integer from `low` to `high`, written in a head or as a bignum. -/
def integer (low high : Int) : Decoder Int where
  parse _ := do
    let n ← integerWithin ((← get).length + 1)
    if low ≤ n ∧ n ≤ high then return n else Parse.refuse .malformed
  ofValue item := do
    let n ← match item with
      | .int n => .ok n
      | .tag 2 (.bytes digits) => ofDigits 2 digits
      | .tag 3 (.bytes digits) => ofDigits 3 digits
      | _ => .error .malformed
    if low ≤ n ∧ n ≤ high then .ok n else .error .malformed
where
  ofDigits (number : Nat) (digits : Bytes) : Except Refusal Int :=
    if Bytes.toNat digits < 1 <<< 128 then
      .ok (if number = 2 then Bytes.toNat digits else -1 - Bytes.toNat digits)
    else .error .malformed
  integerWithin : (fuel : Nat) → Parse Int
    | 0 => Parse.refuse .malformed
    | fuel + 1 => do
      match ← Head.parse with
      | .unsigned n => return n
      | .negative n => return -1 - n
      | .tag number =>
        if number = 2 ∨ number = 3 then
          match ← Head.parse with
          | .bytes length =>
            match ofDigits number (← Parse.bytes length) with
            | .ok n => return n
            | .error cause => Parse.refuse cause
          | _ => Parse.refuse .malformed
        else integerWithin fuel
      | _ => Parse.refuse .malformed

/-- Reads a number of 64 bits. -/
def uint64 : Decoder UInt64 :=
  (integer 0 0xFFFFFFFFFFFFFFFF).map (fun n => UInt64.ofNat n.toNat)

/-- Reads a signed number of 64 bits. -/
def int64 : Decoder Int :=
  integer (-0x8000000000000000) 0x7FFFFFFFFFFFFFFF

/-- Reads a byte written as a number. -/
def byte : Decoder UInt8 :=
  (integer 0 255).map (fun n => UInt8.ofNat n.toNat)

/-- Reads a truth value. -/
def bool : Decoder Bool where
  parse _ := do
    match ← Head.parseUntagged with
    | .simple 20 => return false
    | .simple 21 => return true
    | _ => Parse.refuse .malformed
  ofValue item := match item.untagged with
    | .bool b => .ok b
    | _ => .error .malformed

/-- Reads a text. -/
def text : Decoder String where
  parse _ := do
    match ← Head.parseUntagged with
    | .text length => Parse.text length
    | _ => Parse.refuse .malformed
  ofValue item := match item.untagged with
    | .text s => .ok s
    | _ => .error .malformed

/-- Reads a byte string, which in a byte string may also be written as a list of numbers. -/
def bytes : Decoder Bytes where
  parse levels := do
    match ← Head.parseUntagged, levels with
    | .bytes length, _ => Parse.bytes length
    | .array length, levels + 1 => Parse.elements (byte.parse levels) length
    | _, _ => Parse.refuse .malformed
  ofValue item := match item.untagged with
    | .bytes bs => .ok bs
    | _ => .error .malformed

/-- Reads with `d` what is not null. -/
def nullable (d : Decoder α) : Decoder (Option α) where
  parse levels := fun input =>
    match Head.parse input with
    | .ok (.simple 22, rest) => .ok (none, rest)
    | .ok (.simple 23, rest) => .ok (none, rest)
    | .ok _ => (do return some (← d.parse levels) : Parse (Option α)) input
    | .error cause => .error cause
  ofValue
    | .null => .ok none
    | item => some <$> d.ofValue item

/-! ### Lists -/

/-- Reads a list of items of one shape; a byte string counts as the list of its bytes when
it is read from a byte string. -/
def list (d : Decoder α) : Decoder (List α) where
  parse levels := do
    match ← Head.parseUntagged, levels with
    | .array length, levels + 1 => Parse.elements (d.parse levels) length
    | .bytes length, _ => do
      let bs ← Parse.bytes length
      match bs.mapM (fun b => d.ofValue (.int b.toNat)) with
      | .ok elements => return elements
      | .error cause => Parse.refuse cause
    | _, _ => Parse.refuse .malformed
  ofValue item := match item.untagged with
    | .array items => items.mapM d.ofValue
    | _ => .error .malformed

/-- Reads a list with at least one element. -/
def nonEmptyList (d : Decoder α) : Decoder (NonEmptyList α) :=
  d.list.refine (fun as => match NonEmptyList.ofList? as with
    | some as => .ok as
    | none => .error .emptyList)

/-- A reader of the first elements of a list. -/
structure Elements (α : Type) where
  parse : (levels : Nat) → (announced : Option Nat) → Parse (α × Option Nat)
  ofValues : List Value → Except Refusal (α × List Value)

/-- Reads one element. -/
def Elements.one (d : Decoder α) : Elements α where
  parse levels announced := do
    match ← Parse.more announced with
    | some announced => return (← d.parse levels, announced)
    | none => Parse.refuse .malformed
  ofValues
    | [] => .error .malformed
    | item :: items => do return (← d.ofValue item, items)

/-- Reads what `first` reads and after it what `second` reads. -/
def Elements.pair (first : Elements α) (second : Elements β) : Elements (α × β) where
  parse levels announced := do
    let (a, announced) ← first.parse levels announced
    let (b, announced) ← second.parse levels announced
    return ((a, b), announced)
  ofValues items := do
    let (a, items) ← first.ofValues items
    let (b, items) ← second.ofValues items
    return ((a, b), items)

/-- Reads a list of fixed length.  Elements beyond its length stay in the input when it is
read from a byte string. -/
def tuple (elements : Elements α) : Decoder α where
  parse levels := do
    match ← Head.parseUntagged, levels with
    | .array length, levels + 1 => return (← elements.parse levels length).1
    | .bytes length, _ => do
      let bs ← Parse.bytes length
      match elements.ofValues (bs.map (fun b => .int b.toNat)) with
      | .ok (a, _) => return a
      | .error cause => Parse.refuse cause
    | _, _ => Parse.refuse .malformed
  ofValue item := match item.untagged with
    | .array items => return (← elements.ofValues items).1
    | _ => .error .malformed

/-! ### Maps -/

/-- Reads a map with text keys; of entries with the same key the last one counts. -/
def textMap (d : Decoder α) : Decoder (TextMap α) where
  parse levels := do
    match ← Head.parseUntagged, levels with
    | .map length, levels + 1 => do
      let entry : Parse (String × α) := do
        let key ← text.parse levels
        let a ← d.parse levels
        return (key, a)
      return TextMap.ofList (← Parse.elements entry length)
    | _, _ => Parse.refuse .malformed
  ofValue item := match item.untagged with
    | .map entries => do
      let entries ← entries.mapM (fun entry => do
        let key ← text.ofValue entry.1
        let a ← d.ofValue entry.2
        return (key, a))
      return TextMap.ofList entries
    | _ => .error .malformed

/-- Reads a map with text keys and at least one entry. -/
def nonEmptyMap (d : Decoder α) : Decoder (NonEmptyMap α) :=
  d.textMap.refine (fun m => match NonEmptyMap.ofMap? m with
    | some m => .ok m
    | none => .error .emptyMap)

/-- The longest name of a field that is read from a byte string. -/
def maxFieldName : Nat := 4096

/-- Reads the name of a field: a text or, in a byte string, the bytes of one, written in
one segment. -/
def fieldName : Decoder String where
  parse _ := do
    match ← Head.parseUntagged with
    | .text (some length) =>
      if length ≤ maxFieldName then Parse.text (some length) else Parse.refuse .malformed
    | .bytes (some length) =>
      if length ≤ maxFieldName then
        return ((← Parse.take length).toText?).getD ""
      else Parse.refuse .malformed
    | _ => Parse.refuse .malformed
  ofValue := text.ofValue

/-- Reads a record: a map from names to fields of shapes of their own.  `field` gives the
reader of a named field, which adds the field to those gathered so far; fields without a
reader are passed over. -/
def record (start : γ) (field : γ → String → Option (Decoder γ))
    (finish : γ → Except Refusal α) : Decoder α :=
  refine
    { parse := fun levels => do
        match ← Head.parseUntagged, levels with
        | .map length, levels + 1 =>
          parseFields levels ((← get).length + 1) length start
        | _, _ => Parse.refuse .malformed
      ofValue := fun item => match item.untagged with
        | .map entries => entries.foldlM (fun gathered entry => do
            let name ← fieldName.ofValue entry.1
            match field gathered name with
            | some d => d.ofValue entry.2
            | none => .ok gathered) start
        | _ => .error .malformed }
    finish
where
  parseFields (levels : Nat) : (fuel : Nat) → Option Nat → γ → Parse γ
    | 0, _, _ => Parse.refuse .malformed
    | fuel + 1, announced, gathered => do
      match ← Parse.more announced with
      | none => return gathered
      | some announced => do
        let name ← fieldName.parse levels
        match field gathered name with
        | some d => do
          let gathered ← d.parse levels
          parseFields levels fuel announced gathered
        | none => do
          let _ ← value.parse levels
          parseFields levels fuel announced gathered

/-- The reader of a field that was gathered as `old`: a field occurs once. -/
def once (old : Option α) (d : Decoder α) (put : α → γ) : Option (Decoder γ) :=
  some (if old.isSome then refuse .malformed else d.map put)

/-- A field that has to be present. -/
def required (field : Option α) : Except Refusal α :=
  match field with
  | some a => .ok a
  | none => .error .malformed

/-- Reads one of several alternatives: a map from the name of the alternative to its
content. -/
def variant (content : String → Option (Decoder α)) : Decoder α where
  parse levels := do
    let parseContent (levels : Nat) : Parse α := do
      match content (← fieldName.parse levels) with
      | some d => d.parse levels
      | none => Parse.refuse .malformed
    parseHead parseContent levels ((← get).length + 1)
  ofValue item := match item.untagged with
    | .map [(key, item)] => do
      match content (← fieldName.ofValue key) with
      | some d => d.ofValue item
      | none => .error .malformed
    | .text name => match content name with
      | some d => d.ofValue (.text name)
      | none => .error .malformed
    | _ => .error .malformed
where
  /-- Passes over tags up to the head of a map with one entry, or up to a bare name, which
  the content follows. -/
  parseHead (parseContent : Nat → Parse α) (levels : Nat) : (fuel : Nat) → Parse α
    | 0 => Parse.refuse .malformed
    | fuel + 1 => do
      let start ← get
      match ← Head.parse, levels with
      | .tag _, _ => parseHead parseContent levels fuel
      | .map (some 1), levels + 1 => parseContent levels
      | .text _, levels + 1 => do
        set start
        parseContent levels
      | _, _ => Parse.refuse .malformed

end Decoder

/-! ### Types with a shape -/

/-- How deep the containers of a message nest at most. -/
def maxLevels : Nat := 256

/-- The types whose values are items of one shape. -/
class Wire (α : Type) where
  decoder : Decoder α
  toValue : α → Value

/-- The bytes of a value. -/
def encode {α : Type} [Wire α] (a : α) : Bytes :=
  (Wire.toValue a).encode

/-- The value whose bytes stand at the front of `bs`; what follows it is not looked at. -/
def decode {α : Type} [Wire α] (bs : Bytes) : Except Refusal α :=
  match (Wire.decoder.parse maxLevels : Parse α) bs with
  | .ok (a, _) => .ok a
  | .error cause => .error cause

/-- The value of an item in memory. -/
def ofValue {α : Type} [Wire α] (item : Value) : Except Refusal α :=
  Wire.decoder.ofValue item

instance : Wire Value := ⟨Decoder.value, id⟩
instance : Wire Bool := ⟨Decoder.bool, .bool⟩
instance : Wire String := ⟨Decoder.text, .text⟩
instance : Wire UInt64 := ⟨Decoder.uint64, fun n => .int n.toNat⟩
instance : Wire Bytes := ⟨Decoder.bytes, .bytes⟩

instance {α : Type} [Wire α] : Wire (NonEmptyList α) where
  decoder := Decoder.nonEmptyList Wire.decoder
  toValue as := .array (as.toList.map Wire.toValue)

/-- The item of a map with text keys. -/
def textMapValue {α : Type} [Wire α] (m : TextMap α) : Value :=
  .map (m.entries.map (fun entry => (.text entry.1, Wire.toValue entry.2)))

instance {α : Type} [Wire α] : Wire (TextMap α) where
  decoder := Decoder.textMap Wire.decoder
  toValue := textMapValue

instance {α : Type} [Wire α] : Wire (NonEmptyMap α) where
  decoder := Decoder.nonEmptyMap Wire.decoder
  toValue m := textMapValue m.toMap

/-- The item of a record with the given fields; absent ones are left out. -/
def recordValue (fields : List (String × Option Value)) : Value :=
  .map (fields.filterMap (fun field => field.2.map (.text field.1, ·)))

end Presentment.Cbor
