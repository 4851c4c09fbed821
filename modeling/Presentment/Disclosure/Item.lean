import Presentment.TextMap

/-!
# Requested items

What a reader asks for and what a holder returns is told element by element, grouped by
document and namespace.  Two items stand for the same element when their identifiers agree,
whatever else is known about them.
-/

namespace Presentment

/-- A data element of a request. -/
structure RequestItem where
  elementIdentifier : String
  displayName : Option String := none
  intentToRetain : Option Bool := none
  isOptional : Option Bool := none
  deriving DecidableEq

/-- Element identifiers by document and namespace. -/
abbrev Selection := TextMap (TextMap (List String))

/-- Requested items by document and namespace. -/
abbrev ItemsByDocument := TextMap (TextMap (List RequestItem))

namespace RequestItem

/-- The item of an element about which nothing else is known. -/
def named (elementIdentifier : String) : RequestItem := { elementIdentifier }

/-- Whether two items stand for the same element. -/
def isSameElement (a b : RequestItem) : Bool :=
  a.elementIdentifier == b.elementIdentifier

/-- The items in the order of their identifiers; those of one element keep their order. -/
def sort (items : List RequestItem) : List RequestItem :=
  items.mergeSort (fun a b => a.elementIdentifier ≤ b.elementIdentifier)

/-- The identifiers that occur, in order. -/
def identifiers (items : List RequestItem) : List String :=
  (TextMap.ofList (items.map (fun item => (item.elementIdentifier, ())))).keys

end RequestItem

/-- The selection of all items of a summary. -/
def Selection.ofItems (items : ItemsByDocument) : Selection :=
  items.map (fun _ namespaces => namespaces.map (fun _ items => items.map (·.elementIdentifier)))

end Presentment
