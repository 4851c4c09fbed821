/-!
# Bytes

Messages, keys and certificates are lists of bytes.  A number is written in a byte
string big-endian: `Bytes.ofNat width n` writes the low `8 * width` bits of `n` and
`Bytes.toNat` reads them back.  Text is written in UTF-8.
-/

namespace Presentment

/-- A byte string. -/
abbrev Bytes := List UInt8

namespace Bytes

/-- The number written big-endian in `bs`. -/
def toNat (bs : Bytes) : Nat :=
  bs.foldl (fun n b => n * 256 + b.toNat) 0

/-- How many numbers `width` bytes can hold. -/
def capacity : (width : Nat) → Nat
  | 0 => 1
  | width + 1 => 256 * capacity width

/-- The low `8 * width` bits of `n`, big-endian, in exactly `width` bytes. -/
def ofNat : (width n : Nat) → Bytes
  | 0, _ => []
  | width + 1, n => ofNat width (n / 256) ++ [UInt8.ofNat n]

@[simp]
theorem length_ofNat (width n : Nat) :
  (ofNat width n).length = width
  := by
  induction width generalizing n with
  | zero => rfl
  | succ width ih => simp [ofNat, ih]

theorem toNat_append_singleton (bs : Bytes) (b : UInt8) :
  toNat (bs ++ [b]) = toNat bs * 256 + b.toNat
  := by
  simp [toNat, List.foldl_append]

/-- A number that does not fit is read back modulo how many numbers fit. -/
theorem toNat_ofNat (width n : Nat) :
  toNat (ofNat width n) = n % capacity width
  := by
  induction width generalizing n with
  | zero => exact (Nat.mod_one n).symm
  | succ width ih =>
    rw [ofNat, toNat_append_singleton, ih, capacity, Nat.mod_mul, UInt8.toNat_ofNat']
    apply (Nat.add_comm ..).trans
    rw [Nat.mul_comm]

/-- The bytes of `n` without leading zeros; none for zero. -/
def minimal (n : Nat) : Bytes :=
  (ofNat ((Nat.log2 n) / 8 + 1) n).dropWhile (· == 0)

/-- The UTF-8 encoding of `s`. -/
def ofText (s : String) : Bytes :=
  s.toUTF8.data.toList

/-- The text whose UTF-8 encoding is `bs`, if there is one. -/
def toText? (bs : Bytes) : Option String :=
  String.fromUTF8? ⟨bs.toArray⟩

/-- Bytewise exclusive or, as long as the shorter operand. -/
def xor (xs ys : Bytes) : Bytes :=
  List.zipWith (· ^^^ ·) xs ys

/-- `bs` extended on the left with zeros to `width` bytes. -/
def padLeft (width : Nat) (bs : Bytes) : Bytes :=
  List.replicate (width - bs.length) 0 ++ bs

end Bytes

end Presentment
