import Presentment.Text.Hex

/-!
# Fragments

A message longer than one update of the channel travels as fragments.  Each fragment is a
header byte, telling whether more fragments follow, and at least one byte of the message.
`frame` cuts a message into blocks and `reassemble?` puts it back together.
-/

namespace Presentment

/-- How many bytes of a message one fragment carries; at least one. -/
structure BlockSize where
  size : Nat
  size_pos : 0 < size := by decide
  deriving DecidableEq

/-- `n` as a block size, one byte when `n` is zero. -/
def BlockSize.atLeastOne (n : Nat) : BlockSize where
  size := max n 1
  size_pos := Nat.le_max_right n 1

namespace Fragment

/-- Whether more fragments of the message follow. -/
inductive Header where
  | more
  | last
  deriving DecidableEq, Repr

/-- Why a byte string is not a fragment. -/
inductive Error where
  | empty
  | invalidHeader (byte : UInt8)
  deriving DecidableEq

def Error.message : Error → String
  | .empty => "empty fragment"
  | .invalidHeader byte => "invalid fragment header 0x" ++ Hex.encode [byte]

/-- The header byte. -/
def Header.byte : Header → UInt8
  | .more => 0x01
  | .last => 0x00

/-- The header a byte stands for. -/
def Header.ofByte (byte : UInt8) : Except Error Header :=
  if byte = 0x01 then .ok .more
  else if byte = 0x00 then .ok .last
  else .error (.invalidHeader byte)

/-- How many fragments a message of `len` bytes takes. -/
def count (len : Nat) (block : BlockSize) : Nat :=
  (len + (block.size - 1)) / block.size

/-- The bytes of block `index` of a message, and whether they reach its end. -/
def slice (data : Bytes) (index : Nat) (block : BlockSize) : Bytes × Bool :=
  let rest := data.drop (index * block.size)
  (rest.take block.size, (rest.drop block.size).isEmpty)

/-- The fragments of a message, in order; none for the empty message. -/
def frame (data : Bytes) (block : BlockSize) : List Bytes :=
  if data.isEmpty then []
  else if (data.drop block.size).isEmpty then [Header.last.byte :: data]
  else (Header.more.byte :: data.take block.size) :: frame (data.drop block.size) block
termination_by data.length
decreasing_by
  rename_i h
  have := block.size_pos
  rw [List.isEmpty_iff, ← List.length_eq_zero_iff, List.length_drop] at h
  rw [List.length_drop]
  omega

/-- The header of a fragment and the part of the message it carries. -/
def parse : Bytes → Except Error (Header × Bytes)
  | [] => .error .empty
  | first :: payload => do
    let header ← Header.ofByte first
    return (header, payload)

/-- Adds the payload of a fragment to the bytes received so far. -/
def append (buffer fragment : Bytes) : Except Error (Header × Bytes) := do
  let (header, payload) ← parse fragment
  return (header, buffer ++ payload)

/-- The message whose fragments follow those gathered in `buffer`, if its last fragment is
among them.  What comes after the last fragment is not looked at. -/
def reassembleFrom (buffer : Bytes) : List Bytes → Except Error (Option Bytes)
  | [] => .ok none
  | fragment :: rest => do
    let (header, buffer) ← append buffer fragment
    match header with
    | .last => return some buffer
    | .more => reassembleFrom buffer rest

/-- The message carried by `fragments`, if its last fragment is among them. -/
def reassemble? (fragments : List Bytes) : Except Error (Option Bytes) :=
  reassembleFrom [] fragments

end Fragment

end Presentment
