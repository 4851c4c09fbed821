/-!
# Floating-point heads

A floating-point number is held as the bits of its binary64 form.  It may be written in a
narrower format that holds the same number; `widen` reads such a format and `narrow?`
finds the bits to write.  A number that is not a number keeps its payload, and reading it
from a narrower format makes it quiet.
-/

namespace Presentment.Cbor

/-- A binary floating-point format: sign bit, exponent, fraction. -/
structure FloatFormat where
  exponentBits : Nat
  fractionBits : Nat

namespace FloatFormat

/-- Two bytes. -/
def half : FloatFormat := ⟨5, 10⟩

/-- Four bytes. -/
def single : FloatFormat := ⟨8, 23⟩

/-- What is added to an exponent to store it. -/
def bias (f : FloatFormat) : Nat :=
  1 <<< (f.exponentBits - 1) - 1

/-- The stored exponent of infinities and of what is not a number. -/
def topExponent (f : FloatFormat) : Nat :=
  1 <<< f.exponentBits - 1

/-- The binary64 bits of the number with bits `bits` in format `f`. -/
def widen (f : FloatFormat) (bits : Nat) : Nat :=
  let fraction := bits % (1 <<< f.fractionBits)
  let exponent := (bits >>> f.fractionBits) % (1 <<< f.exponentBits)
  let sign := (bits >>> (f.fractionBits + f.exponentBits)) <<< 63
  let shifted := fraction <<< (52 - f.fractionBits)
  if exponent = f.topExponent then
    sign + 0x7FF <<< 52 + (if fraction = 0 then 0 else shifted ||| (1 <<< 51))
  else if exponent ≠ 0 then
    sign + (exponent + 1023 - f.bias) <<< 52 + shifted
  else if fraction = 0 then sign
  else
    let k := fraction.log2
    sign + (k + 1024 - f.bias - f.fractionBits) <<< 52 + (fraction - 1 <<< k) <<< (52 - k)

/-- The only bits in format `f` that can stand for the number with binary64 bits `bits`. -/
def candidate (f : FloatFormat) (bits : Nat) : Nat :=
  let fraction := bits % (1 <<< 52)
  let exponent := (bits >>> 52) % (1 <<< 11)
  let sign := (bits >>> 63) <<< (f.fractionBits + f.exponentBits)
  let kept := fraction >>> (52 - f.fractionBits)
  if exponent = 0x7FF then sign + f.topExponent <<< f.fractionBits + kept
  else if exponent + f.bias > 1023 then
    sign + (min (exponent + f.bias - 1023) f.topExponent) <<< f.fractionBits + kept
  else
    sign + (1 <<< 52 + fraction) >>> (52 - f.fractionBits + (1024 - f.bias - exponent))

/-- The bits in format `f` of the number with binary64 bits `bits`, if it has any. -/
def narrow? (f : FloatFormat) (bits : Nat) : Option Nat :=
  let narrow := f.candidate bits
  if f.widen narrow = bits then some narrow else none

end FloatFormat

end Presentment.Cbor
