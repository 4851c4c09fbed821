import Presentment.Cose.Key
import Presentment.Crypto.Curve
import Presentment.Der.ObjectIdentifier

/-!
# Keys of the curve

A private key is a number from 1 to the order of the curve, and its public key the multiple
of the generator by it.  A private key is read from its number alone or from an element
with the number, the curve and the public key.  A public key is read from an encoded point:
both coordinates, or the first one and the parity of the second.
-/

namespace Presentment

open Curve (Point order)

namespace Cose.Key

/-- The public key with the given coordinates. -/
def ofCoordinates (x y : Nat) : Key :=
  ⟨Bytes.ofNat 32 x, Bytes.ofNat 32 y⟩

/-- Whether a public key is a point of the curve, written in full width. -/
def isOnCurve (key : Key) : Bool :=
  key.x.length == 32 && key.y.length == 32
    && Curve.isOnCurve (Bytes.toNat key.x) (Bytes.toNat key.y)

/-- The encoded point with both coordinates. -/
def toPoint (key : Key) : Bytes :=
  0x04 :: key.x ++ key.y

/-- The encoded point with the parity of the second coordinate. -/
def toCompressedPoint (key : Key) : Bytes :=
  (if Bytes.toNat key.y % 2 = 0 then 0x02 else 0x03) :: key.x

/-- The public key with first coordinate `x`; `choose` takes one of both second ones. -/
def ofFirstCoordinate? (x : Bytes) (choose : (y y' : Nat) → Nat) : Option Key := do
  guard (x.length = 32 ∧ Bytes.toNat x < Curve.p)
  let y ← Curve.sqrt? (Curve.equation (Bytes.toNat x))
  return ⟨x, Bytes.ofNat 32 (choose y ((Curve.p - y) % Curve.p))⟩

/-- The public key in an encoded point.  The point may also name its first coordinate only,
which then stands for the smaller second one. -/
def ofPoint? : Bytes → Option Key
  | 0x04 :: bs =>
    let key : Key := ⟨bs.take 32, bs.drop 32⟩
    if key.isOnCurve then some key else none
  | 0x02 :: x => ofFirstCoordinate? x (fun y y' => if y % 2 = 0 then y else y')
  | 0x03 :: x => ofFirstCoordinate? x (fun y y' => if y % 2 = 1 then y else y')
  | 0x05 :: x => ofFirstCoordinate? x min
  | _ => none

end Cose.Key

/-- A private key. -/
structure PrivateKey where
  scalar : Nat
  scalar_pos : 0 < scalar
  scalar_lt : scalar < order

namespace PrivateKey

theorem eq_of_scalar_eq {a b : PrivateKey} (h : a.scalar = b.scalar) :
  a = b
  := by
  cases a
  cases b
  cases h
  rfl

instance : DecidableEq PrivateKey := fun a b =>
  if h : a.scalar = b.scalar then isTrue (eq_of_scalar_eq h)
  else isFalse (fun e => h (congrArg scalar e))

/-- The private key with the given number, if it is in range. -/
def ofScalar? (n : Nat) : Option PrivateKey :=
  if h : 0 < n ∧ n < order then some ⟨n, h.1, h.2⟩ else none

instance : Inhabited PrivateKey := ⟨⟨1, by decide, by decide⟩⟩

/-- The private key with the given number in 24 to 32 bytes. -/
def ofNumber? (bs : Bytes) : Option PrivateKey :=
  if 24 ≤ bs.length ∧ bs.length ≤ 32 then ofScalar? (Bytes.toNat bs) else none

/-- The number of a private key. -/
def toBytes (d : PrivateKey) : Bytes :=
  Bytes.ofNat 32 d.scalar

/-- The public key that belongs to a private key. -/
def publicKey (d : PrivateKey) : Cose.Key :=
  match (Point.generator.multiply d.scalar).coordinates? with
  | some (x, y) => .ofCoordinates x y
  | none => .ofCoordinates 0 0

/-- Reads a private key element: version 1, the number, and perhaps the curve and the public
key, which has to be the right one. -/
def parseElement : Der.Parse PrivateKey := Der.within Der.Tag.sequence do
  guard ((← Der.content Der.Tag.integer) = [1])
  let number ← Der.content Der.Tag.octetString
  let _ ← Der.contextSpecific 0 (Der.within (Der.Tag.context 0) Der.ObjectIdentifier.parse)
  let point ← Der.contextSpecific 1 (Der.within (Der.Tag.context 1) Der.bitString)
  match ofNumber? number, point with
  | none, _ => failure
  | some d, none => return d
  | some d, some point =>
    guard (point.unused = 0)
    guard (point.bytes = d.publicKey.toPoint ∨ point.bytes = d.publicKey.toCompressedPoint)
    return d

/-- The private key in a byte string, which is an element or the number alone. -/
def ofBytes? (bs : Bytes) : Option PrivateKey :=
  Der.whole parseElement bs <|> ofNumber? bs

end PrivateKey

end Presentment
