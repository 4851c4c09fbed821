import Presentment.Bytes

/-!
# The curve P-256

Points of the curve `y ^ 2 = x ^ 3 - 3 * x + b` over the integers modulo a prime, as pairs
of coordinates or, for multiplication, in projective form: `(x, y, z)` stands for
`(x / z ^ 2, y / z ^ 3)` and is the point at infinity when `z` is zero.
-/

namespace Presentment.Curve

/-- The prime that coordinates are taken modulo. -/
def p : Nat :=
  0xFFFFFFFF00000001000000000000000000000000FFFFFFFFFFFFFFFFFFFFFFFF

/-- The number of points. -/
def order : Nat :=
  0xFFFFFFFF00000000FFFFFFFFFFFFFFFFBCE6FAADA7179E84F3B9CAC2FC632551

/-- The constant term of the equation. -/
def b : Nat :=
  0x5AC635D8AA3A93E7B3EBBD55769886BC651D06B0CC53B0F63BCE3C3E27D2604B

/-- A power modulo `m`. -/
def powMod (base exponent m : Nat) : Nat :=
  if exponent = 0 then 1 % m
  else
    let half := powMod (base * base % m) (exponent / 2) m
    if exponent % 2 = 0 then half else base * half % m
termination_by exponent

/-- The inverse modulo a prime. -/
def inverse (n m : Nat) : Nat :=
  powMod n (m - 2) m

/-- The difference modulo `p` of numbers below `p`. -/
def sub (x y : Nat) : Nat :=
  (x + p - y) % p

/-- The right-hand side of the equation. -/
def equation (x : Nat) : Nat :=
  sub ((x * x % p * x + b) % p) (3 * x % p)

/-- Whether two coordinates below `p` are those of a point. -/
def isOnCurve (x y : Nat) : Bool :=
  x < p && y < p && y * y % p == equation x

/-- A square root modulo `p`, if there is one. -/
def sqrt? (n : Nat) : Option Nat :=
  let root := powMod n ((p + 1) / 4) p
  if root * root % p = n then some root else none

/-- A point in projective form. -/
structure Point where
  x : Nat
  y : Nat
  z : Nat

namespace Point

/-- The neutral point. -/
def infinity : Point := ⟨1, 1, 0⟩

/-- The point with the given coordinates. -/
def ofCoordinates (x y : Nat) : Point := ⟨x, y, 1⟩

/-- The generator of the group. -/
def generator : Point := .ofCoordinates
  0x6B17D1F2E12C4247F8BCE6E563A440F277037D812DEB33A0F4A13945D898C296
  0x4FE342E2FE1A7F9B8EE7EB4A7C0F9E162BCE33576B315ECECBB6406837BF51F5

/-- The coordinates of a point other than infinity. -/
def coordinates? (q : Point) : Option (Nat × Nat) :=
  if q.z % p = 0 then none
  else
    let i := inverse q.z p
    let i2 := i * i % p
    some (q.x * i2 % p, q.y * i2 % p * i % p)

/-- Twice a point. -/
def double (q : Point) : Point :=
  if q.z = 0 ∨ q.y = 0 then infinity
  else
    let zz := q.z * q.z % p
    let yy := q.y * q.y % p
    let s := 4 * q.x * yy % p
    let m := 3 * (sub q.x zz * ((q.x + zz) % p) % p) % p
    let x := sub (m * m % p) (2 * s % p)
    ⟨x, sub (m * sub s x % p) (8 * (yy * yy % p) % p), 2 * q.y * q.z % p⟩

/-- The sum of two points. -/
def add (q r : Point) : Point :=
  if q.z = 0 then r
  else if r.z = 0 then q
  else
    let qzz := q.z * q.z % p
    let rzz := r.z * r.z % p
    let u1 := q.x * rzz % p
    let u2 := r.x * qzz % p
    let s1 := q.y * rzz % p * r.z % p
    let s2 := r.y * qzz % p * q.z % p
    if u1 = u2 then
      if s1 = s2 then double q else infinity
    else
      let h := sub u2 u1
      let t := sub s2 s1
      let hh := h * h % p
      let hhh := hh * h % p
      let v := u1 * hh % p
      let x := sub (sub (t * t % p) hhh) (2 * v % p)
      ⟨x, sub (t * sub v x % p) (s1 * hhh % p), q.z * r.z % p * h % p⟩

/-- The multiple of a point by the lowest `bits` bits of `n`. -/
def multiplyBits (q : Point) (n : Nat) : (bits : Nat) → Point
  | 0 => infinity
  | bits + 1 =>
    let twice := (multiplyBits q (n / 2) bits).double
    if n % 2 = 0 then twice else twice.add q

/-- The multiple of a point by a number of 256 bits. -/
def multiply (q : Point) (n : Nat) : Point :=
  q.multiplyBits n 256

end Point

end Presentment.Curve
