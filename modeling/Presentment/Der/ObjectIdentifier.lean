import Presentment.Der.Element

/-!
# Object identifiers

An object identifier is a path of numbers.  Its first octet holds two of them; every other
number is written in groups of seven bits, all but the last with the high bit set.
-/

namespace Presentment.Der

/-- A path of numbers, in its written form. -/
structure ObjectIdentifier where
  bytes : Bytes
  deriving DecidableEq

namespace ObjectIdentifier

/-- Whether octets are numbers in groups of seven bits, each of at most five groups; `length`
groups of the current number have been seen.  A fifth group holds at most four bits. -/
def areNumbers (length : Nat) : Bytes → Bool
  | [] => length == 0
  | b :: rest =>
    if b ≥ 0x80 then length < 4 && areNumbers (length + 1) rest
    else (length < 4 || b < 16) && areNumbers 0 rest

/-- The identifier with the given content. -/
def ofContent? : Bytes → Option ObjectIdentifier
  | [] => none
  | first :: rest =>
    if 2 ≤ rest.length ∧ rest.length ≤ 38 ∧ first < 120 ∧ areNumbers 0 rest then
      some ⟨first :: rest⟩
    else none

/-- Reads an identifier. -/
def parse : Parse ObjectIdentifier := do
  match ofContent? (← content Tag.objectIdentifier) with
  | some oid => return oid
  | none => failure

def encode (oid : ObjectIdentifier) : Bytes :=
  Der.encode Tag.objectIdentifier oid.bytes

/-- The numbers that octets stand for, each modulo `2 ^ 32`; `n` is what has been read of the
current one. -/
def numbers (n : Nat) : Bytes → List Nat
  | [] => []
  | b :: rest =>
    let n := (n * 128 + (b % 128).toNat) % 0x100000000
    if b ≥ 0x80 then numbers n rest else n :: numbers 0 rest

/-- The path. -/
def arcs (oid : ObjectIdentifier) : List Nat :=
  match oid.bytes with
  | [] => []
  | first :: rest => first.toNat / 40 :: first.toNat % 40 :: numbers 0 rest

/-- The groups in front of the last one of a number, where `n` is the number without its lowest
seven bits. -/
def leadingGroups (n : Nat) : Bytes :=
  if n = 0 then [] else leadingGroups (n / 128) ++ [UInt8.ofNat (0x80 + n % 128)]

/-- A number in as few groups as possible. -/
def groups (n : Nat) : Bytes :=
  leadingGroups (n / 128) ++ [UInt8.ofNat (n % 128)]

/-- The identifier of a path in its shortest form. -/
def ofArcs : List Nat → ObjectIdentifier
  | first :: second :: rest => ⟨UInt8.ofNat (40 * first + second) :: rest.flatMap groups⟩
  | _ => ⟨[]⟩

/-- The numbers of the path with dots between them. -/
def toText (oid : ObjectIdentifier) : String :=
  ".".intercalate (oid.arcs.map toString)

end ObjectIdentifier

end Presentment.Der
