import Presentment.Cbor.Decoder
import Presentment.Cose.Registry
import Presentment.Text.Blank

/-!
# Headers

A header maps labels, which are 64-bit integers or texts, to items.  Labels 1 to 7 have a
meaning and a shape of their own.  `Header.ofValue` checks these shapes and brings the
entries into the order in which they are written: labels 1 to 7 first, all others after
them in the order in which they were read.  A single counter signature is written without
a list around it.
-/

namespace Presentment.Cose

open Cbor (Value)

/-- Why an item is not a COSE structure. -/
inductive Error where
  /-- The bytes are no item. -/
  | notCbor
  /-- An item of another shape than the structure asks for. -/
  | unexpectedItem
  /-- A label or number out of range, unassigned or repeated, or bytes after the item. -/
  | notAllowed
  deriving DecidableEq, Repr

/-- The name of a header entry. -/
inductive Label where
  | int (n : Int)
  | text (s : String)
  deriving DecidableEq, Repr

/-- The entries of a header, in the order in which they are written. -/
structure Header where
  entries : List (Label × Value)

namespace Label

/-- The label that an item stands for. -/
def ofValue : Value → Except Error Label
  | .int n =>
    if -0x8000000000000000 ≤ n ∧ n < 0x8000000000000000 then .ok (.int n)
    else .error .notAllowed
  | .text s => .ok (.text s)
  | _ => .error .unexpectedItem

def toValue : Label → Value
  | .int n => .int n
  | .text s => .text s

def algorithm : Label := .int 1
def critical : Label := .int 2
def contentType : Label := .int 3
def keyId : Label := .int 4
def iv : Label := .int 5
def partialIv : Label := .int 6
def counterSignature : Label := .int 7

/-- The certificate chain of the signer, leaf first. -/
def x5chain : Label := .int 33

/-- Where an entry is written: the place of a label with a meaning, and the place after all
of them for the others. -/
def rank : Label → Nat
  | .int n => if 1 ≤ n ∧ n ≤ 7 then n.toNat else 8
  | .text _ => 8

end Label

namespace Header

/-- The header without entries. -/
def empty : Header := ⟨[]⟩

/-- What a label stands for. -/
def find? (h : Header) (label : Label) : Option Value :=
  (h.entries.find? (fun entry => entry.1 = label)).map (·.2)

def toValue (h : Header) : Value :=
  .map (h.entries.map (fun entry => (entry.1.toValue, entry.2)))

/-- Checks a number against a registry; texts are always allowed. -/
def checkAssigned (assigned : Int → Bool) : Value → Except Error Unit
  | .int n => if assigned n then .ok () else .error .notAllowed
  | .text _ => .ok ()
  | _ => .error .unexpectedItem

/-- A media type: two names with a slash between them and no blanks around. -/
def checkMediaType (s : String) : Except Error Unit :=
  if s.isEmpty ∨ Text.trim s ≠ s ∨ s.toList.count '/' ≠ 1 then .error .unexpectedItem
  else .ok ()

/-- A byte string that is not empty. -/
def checkNonEmptyBytes : Value → Except Error Unit
  | .bytes (_ :: _) => .ok ()
  | _ => .error .unexpectedItem

/-- Checks the shape of an entry and brings its item into the form in which it is written;
`signature` does so for a counter signature. -/
def normalizeEntry (signature : Value → Except Error Value) (label : Label) (item : Value) :
    Except Error Value := do
  match label with
  | .int 1 => checkAssigned isAlgorithm item
  | .int 2 => match item with
    | .array [] => throw .unexpectedItem
    | .array labels => labels.forM (checkAssigned isHeaderParameter)
    | _ => throw .unexpectedItem
  | .int 3 =>
    checkAssigned isContentFormat item
    match item with
    | .text s => checkMediaType s
    | _ => pure ()
  | .int 4 => checkNonEmptyBytes item
  | .int 5 => checkNonEmptyBytes item
  | .int 6 => checkNonEmptyBytes item
  | .int 7 => match item with
    | .array (.bytes _ :: _) => return ← signature item
    | .array signatures@(.array _ :: _) =>
      match ← signatures.mapM signature with
      | [single] => return single
      | signatures => return .array signatures
    | _ => throw .unexpectedItem
  | _ => pure ()
  return item

/-- Reads the entries one after the other; `seen` are the entries already read. -/
def readEntries (signature : Value → Except Error Value) (seen : List (Label × Value)) :
    List (Value × Value) → Except Error (List (Label × Value))
  | [] => .ok seen.reverse
  | (key, item) :: rest => do
    let label ← Label.ofValue key
    if seen.any (fun entry => entry.1 = label) then throw .notAllowed
    let item ← normalizeEntry signature label item
    let seen := (label, item) :: seen
    if seen.any (fun entry => entry.1 = .iv) ∧ seen.any (fun entry => entry.1 = .partialIv) then
      throw .unexpectedItem
    readEntries signature seen rest

/-- Reads an item that fills a byte string. -/
def itemOfBytes (bs : Bytes) : Except Error Value :=
  match Value.parse Cbor.maxLevels bs with
  | .ok (item, []) => .ok item
  | .ok (_, _ :: _) => .error .notAllowed
  | .error _ => .error .notCbor

mutual

/-- The header of an item that holds at most `fuel` headers inside each other. -/
def ofValueWithin (fuel : Nat) (item : Value) : Except Error Header := do
  match item with
  | .map entries =>
    let entries ← readEntries (signatureWithin fuel) [] entries
    return ⟨entries.mergeSort (fun a b => a.1.rank ≤ b.1.rank)⟩
  | _ => throw .unexpectedItem
termination_by 3 * fuel + 2

/-- A counter signature in the form in which it is written: protected header, unprotected
header and signature. -/
def signatureWithin (fuel : Nat) (item : Value) : Except Error Value := do
  match item with
  | .array [protectedHeader, unprotectedHeader, signature] =>
    let .bytes _ := signature | throw .unexpectedItem
    match fuel with
    | 0 => throw .notAllowed
    | fuel + 1 =>
      let unprotectedHeader ← ofValueWithin fuel unprotectedHeader
      match protectedHeader with
      | .bytes bs =>
        discard <| ofBytesWithin fuel bs
        return .array [protectedHeader, unprotectedHeader.toValue, signature]
      | _ => throw .unexpectedItem
  | _ => throw .unexpectedItem
termination_by 3 * fuel + 1

/-- The header that the bytes of a protected header hold; no bytes hold the empty one. -/
def ofBytesWithin (fuel : Nat) (bs : Bytes) : Except Error Header := do
  if bs.isEmpty then return empty
  else ofValueWithin fuel (← itemOfBytes bs)
termination_by 3 * fuel + 3

end

/-- The header that an item stands for.  A header inside it takes up at least one of its
bytes. -/
def ofValue (item : Value) : Except Error Header :=
  ofValueWithin item.encode.length item

/-- The header in the bytes of a protected header. -/
def ofBytes (bs : Bytes) : Except Error Header :=
  ofBytesWithin bs.length bs

/-- Whether the header can be written: no label stands twice. -/
def isWritable (h : Header) : Bool :=
  decide (h.entries.map (·.1)).Nodup

/-- The bytes of a protected header. -/
def toBytes (h : Header) : Bytes :=
  if h.entries.isEmpty then [] else h.toValue.encode

end Header

end Presentment.Cose
