import Presentment.Cbor.Value

/-!
# Numbers in texts

A number is written in decimal digits, perhaps with a point and an exponent.  As an integer
it counts only when it is written without either.  Any other number is read as a binary64
number: its leading digits, as many as fit into 64 bits, are rounded, and then their product
or quotient with the rounded power of ten.
-/

namespace Presentment

/-! ### Rounding to binary64 numbers, which are given by their bits without the sign -/

namespace Binary64

/-- The bits of infinity. -/
def infinity : Nat := 0x7FF <<< 52

/-- The quotient of two numbers rounded to the nearest integer, a half to the even one. -/
def roundQuotient (n d : Nat) : Nat :=
  let q := n / d
  let r := n % d
  if 2 * r > d ∨ (2 * r = d ∧ q % 2 = 1) then q + 1 else q

/-- The bits of the number nearest to the quotient of two numbers. -/
def ofQuotient (n d : Nat) : Nat :=
  if n = 0 then 0
  else
    let e : Int := (n.log2 : Int) - d.log2
    let atLeast : Bool := if e ≥ 0 then n ≥ d <<< e.toNat else n <<< (-e).toNat ≥ d
    let e := if atLeast then e else e - 1
    let q := max (e - 52) (-1074)
    let m :=
      if q ≥ 0 then roundQuotient n (d <<< q.toNat) else roundQuotient (n <<< (-q).toNat) d
    min ((q + 1074).toNat <<< 52 + m) infinity

/-- Numerator and denominator of a finite number. -/
def toQuotient (bits : Nat) : Nat × Nat :=
  let exponent := bits >>> 52
  let fraction := bits % (1 <<< 52)
  if exponent = 0 then (fraction, 1 <<< 1074)
  else if exponent ≥ 1075 then ((1 <<< 52 + fraction) <<< (exponent - 1075), 1)
  else (1 <<< 52 + fraction, 1 <<< (1075 - exponent))

/-- A power of ten. -/
def tenTo : Nat → Nat
  | 0 => 1
  | n + 1 => 10 * tenTo n

/-- The bits of a power of ten, up to the highest one that is finite. -/
def powerOfTen (n : Nat) : Nat :=
  ofQuotient (tenTo (min n 308)) 1

/-- The bits of a product. -/
def multiply (a b : Nat) : Nat :=
  let (n, d) := toQuotient a
  let (n', d') := toQuotient b
  ofQuotient (n * n') (d * d')

/-- The bits of a quotient. -/
def divide (a b : Nat) : Nat :=
  let (n, d) := toQuotient a
  let (n', d') := toQuotient b
  ofQuotient (n * d') (d * n')

/-- The bits of a decimal number: its digits and the power of ten are rounded first, and a
power that is too high for one division is divided by in two steps. -/
def ofDecimal (digits : Nat) (exponent : Int) : Nat :=
  let bits := ofQuotient digits 1
  let n := exponent.natAbs
  if exponent ≥ 0 then multiply bits (powerOfTen n)
  else if n ≤ 308 then divide bits (powerOfTen n)
  else divide (divide bits (powerOfTen 308)) (powerOfTen (n - 308))

end Binary64

namespace Json

/-- A number as it is written. -/
structure Number where
  negative : Bool
  digits : Nat
  /-- The power of ten by which the digits are multiplied. -/
  exponent : Int
  /-- Whether the number has neither point nor exponent. -/
  isWhole : Bool
  deriving DecidableEq, Repr

namespace Number

/-- The whole number `n`. -/
def ofNat (n : Nat) : Number := ⟨false, n, 0, true⟩

/-- The whole number `n`. -/
def ofInt (n : Int) : Number := ⟨n < 0, n.natAbs, 0, true⟩

/-- The number as an unsigned integer of 64 bits. -/
def unsigned? (n : Number) : Option Nat :=
  if n.isWhole ∧ n.negative = false ∧ n.digits < 0x10000000000000000 then some n.digits else none

/-- The number as a negative integer of 64 bits. -/
def negative? (n : Number) : Option Int :=
  if n.isWhole ∧ n.negative ∧ 0 < n.digits ∧ n.digits ≤ 0x8000000000000000 then some (-n.digits)
  else none

/-- The highest power of ten by which digits other than zero are multiplied. -/
def maxExponent : Int := 308

/-- The leading digits that fit into 64 bits, and the power of ten by which they are
multiplied. -/
def leading (digits : Nat) (exponent : Int) : Nat × Int :=
  if digits < 0x10000000000000000 then (digits, exponent) else leading (digits / 10) (exponent + 1)
termination_by digits

/-- The number as the bits of a binary64 number, if it is finite. -/
def bits? (n : Number) : Option UInt64 :=
  let (digits, exponent) := leading n.digits n.exponent
  let magnitude :=
    if digits = 0 then 0
    else if exponent > maxExponent then Binary64.infinity
    else Binary64.ofDecimal digits exponent
  if magnitude < Binary64.infinity then
    some (UInt64.ofNat (magnitude + if n.negative then 0x8000000000000000 else 0))
  else none

/-- The item that a number stands for. -/
def toItem? (n : Number) : Option Cbor.Value :=
  match n.unsigned?, n.negative? with
  | some m, _ => some (.int m)
  | _, some m => some (.int m)
  | none, none => n.bits?.map .float

end Number

end Json

end Presentment
