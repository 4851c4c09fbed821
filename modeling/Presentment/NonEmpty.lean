import Presentment.TextMap

/-!
# Lists and maps with an element

Several messages must not carry an empty list or map; these types have at least one
element.
-/

namespace Presentment

/-- A list with at least one element. -/
structure NonEmptyList (α : Type u) where
  toList : List α
  ne_nil : toList ≠ []
  deriving DecidableEq

namespace NonEmptyList

variable {α : Type u}

/-- The list with the single element `a`. -/
def singleton (a : α) : NonEmptyList α := ⟨[a], List.cons_ne_nil a []⟩

/-- `as` as a list with an element, if it has one. -/
def ofList? : List α → Option (NonEmptyList α)
  | [] => none
  | a :: as => some ⟨a :: as, List.cons_ne_nil a as⟩

end NonEmptyList

/-- A map with at least one entry. -/
structure NonEmptyMap (β : Type u) where
  toMap : TextMap β
  nonempty : toMap.isEmpty = false
  deriving DecidableEq

namespace NonEmptyMap

variable {β : Type u}

/-- `m` as a map with an entry, if it has one. -/
def ofMap? (m : TextMap β) : Option (NonEmptyMap β) :=
  if h : m.isEmpty = false then some ⟨m, h⟩ else none

/-- What `key` stands for. -/
def find? (m : NonEmptyMap β) (key : String) : Option β :=
  m.toMap.find? key

/-- The entries, in the order of their keys. -/
def entries (m : NonEmptyMap β) : List (String × β) :=
  m.toMap.entries

end NonEmptyMap

end Presentment
