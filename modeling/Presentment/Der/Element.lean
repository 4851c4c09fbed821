import Presentment.Bytes

/-!
# Distinguished elements

Private keys and certificates are trees of elements.  An element is an identifier octet,
the length of its content, and its content; lengths have exactly one form.  A reader takes
an element off the front of a byte string, and refuses by answering nothing.
-/

namespace Presentment.Der

/-- A reader of the front of a byte string. -/
abbrev Parse (α : Type) := StateT Bytes Option α

/-- An element whose content is not looked into. -/
structure Element where
  tag : UInt8
  content : Bytes
  deriving DecidableEq

namespace Tag

def boolean : UInt8 := 0x01
def integer : UInt8 := 0x02
def bitString : UInt8 := 0x03
def octetString : UInt8 := 0x04
def objectIdentifier : UInt8 := 0x06
def utf8String : UInt8 := 0x0C
def printableString : UInt8 := 0x13
def teletexString : UInt8 := 0x14
def ia5String : UInt8 := 0x16
def utcTime : UInt8 := 0x17
def generalizedTime : UInt8 := 0x18
def sequence : UInt8 := 0x30
def set : UInt8 := 0x31

/-- The universal types that are told apart. -/
def universal : List UInt8 :=
  [0x01, 0x02, 0x03, 0x04, 0x05, 0x06, 0x09, 0x0A, 0x0C, 0x12, 0x13, 0x14, 0x15, 0x16, 0x17,
    0x18, 0x1A, 0x1E, 0x30, 0x31]

/-- Whether an octet is an identifier octet: that of a universal type, or of another class
with a number that fits into the octet. -/
def isTag (b : UInt8) : Bool :=
  universal.contains b || (b ≥ 0x40 && b % 32 < 31)

/-- The number of a context-specific identifier octet. -/
def contextNumber? (b : UInt8) : Option Nat :=
  if b ≥ 0x80 ∧ b < 0xC0 then some (b % 32).toNat else none

/-- The identifier octet of the constructed element with context-specific number `n`. -/
def context (n : Nat) : UInt8 :=
  0xA0 + UInt8.ofNat n

end Tag

/-! ### Reading -/

/-- The longest content. -/
def maxLength : Nat := 0xFFFFFFF

/-- Reads one octet. -/
def octet : Parse UInt8 := fun
  | [] => none
  | b :: rest => some (b, rest)

/-- Reads `n` octets. -/
def take (n : Nat) : Parse Bytes := fun input =>
  if n ≤ input.length then some (input.take n, input.drop n) else none

/-- Reads a length, written in as few octets as possible. -/
def length : Parse Nat := do
  let first ← octet
  if first < 0x80 then return first.toNat
  else
    let count := first.toNat - 0x80
    guard (1 ≤ count ∧ count ≤ 4)
    let n := Bytes.toNat (← take count)
    guard (0x80 ≤ n ∧ Bytes.capacity (count - 1) ≤ n ∧ n ≤ maxLength)
    return n

/-- Reads any element. -/
def element : Parse Element := do
  let tag ← octet
  guard (Tag.isTag tag)
  let n ← length
  return ⟨tag, ← take n⟩

/-- Reads an element of the given kind and answers its content. -/
def content (tag : UInt8) : Parse Bytes := do
  let e ← element
  guard (e.tag = tag)
  return e.content

/-- What `p` reads if it reads all of a byte string. -/
def whole {α : Type} (p : Parse α) (bs : Bytes) : Option α := do
  let (a, rest) ← p bs
  guard rest.isEmpty
  return a

/-- Reads an element of the given kind whose content `p` reads. -/
def within {α : Type} (tag : UInt8) (p : Parse α) : Parse α := do
  match whole p (← content tag) with
  | some a => return a
  | none => failure

/-- Reads elements up to the end, of which there are at most `fuel`. -/
def manyWithin {α : Type} (p : Parse α) : (fuel : Nat) → Parse (List α)
  | 0 => return []
  | fuel + 1 => do
    if (← get).isEmpty then return []
    else
      let first ← p
      return first :: (← manyWithin p fuel)

/-- Reads elements up to the end. -/
def many {α : Type} (p : Parse α) : Parse (List α) := do
  manyWithin p (← get).length

/-- Reads with `p` if the next element is of the given kind. -/
def optional {α : Type} (tag : UInt8) (p : Parse α) : Parse (Option α) := do
  match ← get with
  | [] => return none
  | first :: _ =>
    guard (Tag.isTag first)
    if first = tag then return some (← p) else return none

/-- Reads with `p` the element with context-specific number `n`, if it comes before those
with higher numbers.  Elements with lower numbers are passed over. -/
def contextSpecific {α : Type} (n : Nat) (p : Parse α) : Parse (Option α) := do
  search ((← get).length + 1)
where
  search : (fuel : Nat) → Parse (Option α)
    | 0 => failure
    | fuel + 1 => do
      match ← get with
      | [] => return none
      | first :: _ =>
        guard (Tag.isTag first)
        match Tag.contextNumber? first with
        | none => return none
        | some m =>
          if m > n then return none
          else if m = n then return some (← p)
          else
            let _ ← element
            search fuel

/-! ### Writing -/

/-- A length in as few octets as possible. -/
def encodeLength (n : Nat) : Bytes :=
  if n < 0x80 then [UInt8.ofNat n]
  else
    let digits := Bytes.minimal n
    UInt8.ofNat (0x80 + digits.length) :: digits

/-- The bytes of an element. -/
def encode (tag : UInt8) (content : Bytes) : Bytes :=
  tag :: encodeLength content.length ++ content

/-- The bytes of an element. -/
def Element.encode (e : Element) : Bytes :=
  Der.encode e.tag e.content

/-! ### Bit strings and truth values -/

/-- A bit string in whole octets, of the last of which some bits may be unused. -/
structure BitString where
  unused : UInt8
  bytes : Bytes
  deriving DecidableEq

/-- The bit string with the given content. -/
def BitString.ofContent? : Bytes → Option BitString
  | [] => none
  | unused :: bytes =>
    if unused ≤ 7 ∧ (unused = 0 ∨ bytes ≠ []) then some ⟨unused, bytes⟩ else none

/-- The content of a bit string. -/
def BitString.content (s : BitString) : Bytes :=
  s.unused :: s.bytes

/-- Reads a bit string. -/
def bitString : Parse BitString := do
  match BitString.ofContent? (← content Tag.bitString) with
  | some s => return s
  | none => failure

def BitString.encode (s : BitString) : Bytes :=
  Der.encode Tag.bitString s.content

/-- Reads a truth value. -/
def boolean : Parse Bool := do
  match ← content Tag.boolean with
  | [0x00] => return false
  | [0xFF] => return true
  | _ => failure

/-- Whether the content of an integer has no superfluous octet. -/
def isCanonicalInteger : Bytes → Bool
  | [] => false
  | [_] => true
  | first :: second :: _ => !((first == 0x00 && second < 0x80) || (first == 0xFF && second ≥ 0x80))

/-- Reads a positive integer. -/
def positive : Parse Nat := do
  let bs ← content Tag.integer
  guard (isCanonicalInteger bs ∧ bs.head?.any (· < 0x80))
  return Bytes.toNat bs

end Presentment.Der
