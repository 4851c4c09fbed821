import Presentment.Cbor.Decoder

/-!
# Public keys

A key is a point of the curve P-256, given by both coordinates, in a map with integer
labels.  Labels that are not known, and entries whose item is not of the kind that the
label asks for, are passed over; of entries with the same label the last one counts.
-/

namespace Presentment.Cose

open Cbor (Value)

/-- A public key, not necessarily a point of the curve. -/
structure Key where
  x : Bytes
  y : Bytes
  deriving DecidableEq

namespace Key

/-- The last entry with label `label` whose item `f` accepts. -/
def lastEntry? {α : Type} (entries : List (Value × Value)) (label : Int)
    (f : Value → Option α) : Option α :=
  entries.reverse.findSome? (fun
    | (.int n, item) => if n = label then f item else none
    | _ => none)

/-- The integer that an item is. -/
def int? : Value → Option Int
  | .int n => some n
  | _ => none

/-- The byte string that an item is. -/
def bytes? : Value → Option Bytes
  | .bytes bs => some bs
  | _ => none

/-- The key that an item stands for: of type 2, on curve 1, with coordinates labelled `-2`
and `-3`. -/
def ofValue : Value → Except KeyError Key
  | .map entries => do
    if lastEntry? entries 1 int? ≠ some 2 then throw .unsupportedKeyType
    if lastEntry? entries (-1) int? ≠ some 1 then throw .unsupportedCurve
    let some x := lastEntry? entries (-2) bytes? | throw .missingX
    let some y := lastEntry? entries (-3) bytes? | throw .missingY
    return ⟨x, y⟩
  | _ => .error .notAMap

def toValue (key : Key) : Value :=
  .map [(.int 1, .int 2), (.int (-1), .int 1), (.int (-2), .bytes key.x), (.int (-3), .bytes key.y)]

instance : Cbor.Wire Key where
  decoder := Cbor.Decoder.value.refine (fun item => (ofValue item).mapError .key)
  toValue := toValue

end Key

end Presentment.Cose
