import Presentment.Json.Basic
import Presentment.TextMap

/-!
# Reading values of known shape

A value of known shape is read from structured text, or refused.  A record is an object with
the names of its fields, of which none is repeated and unknown ones are passed over, or the
list of its fields in order.  An ill-formed value can only be passed over.
-/

namespace Presentment.Json

variable {α : Type}

def string? : Json → Option String
  | .string s => some s
  | _ => none

def bool? : Json → Option Bool
  | .bool b => some b
  | _ => none

/-- The unsigned integer of 64 bits that a value is. -/
def unsigned? : Json → Option Nat
  | .number n => n.unsigned?
  | _ => none

/-- What `f` reads, and nothing from null. -/
def nullable? (f : Json → Option α) : Json → Option (Option α)
  | .null => some none
  | j => (f j).map some

/-- The list of what `f` reads from each item. -/
def list? (f : Json → Option α) : Json → Option (List α)
  | .array items => items.mapM f
  | _ => none

/-- The map of what `f` reads from each entry; of entries with the same key the last one
counts. -/
def textMap? (f : Json → Option α) : Json → Option (TextMap α)
  | .object entries => do
    let entries ← entries.mapM (fun entry => do
      let a ← f entry.2
      return (entry.1, a))
    return TextMap.ofList entries
  | _ => none

/-- The fields of a record, in the order of their names; missing ones are left empty. -/
def fields? (names : List String) : Json → Option (List (Option Json))
  | .object entries => do
    guard (names.all (fun name => (entries.filter (fun entry => entry.1 == name)).length ≤ 1))
    return names.map (fun name => (entries.find? (fun entry => entry.1 == name)).map (·.2))
  | .array items => do
    guard (items.length ≤ names.length)
    return items.map some ++ List.replicate (names.length - items.length) none
  | _ => none

/-- What `f` reads from a field, or `default` if the field is missing. -/
def orDefault? (default : α) (f : Json → Option α) : Option Json → Option α
  | some j => f j
  | none => some default

/-- The name of an alternative without content, which is a string, or an object with the
name and null. -/
def alternative? : Json → Option String
  | .string name => some name
  | .object [(name, .null)] => some name
  | _ => none

mutual

/-- The item that a value stands for, if it nests at most `levels` deep. -/
def toItem? (levels : Nat) : Json → Option Cbor.Value
  | .null => some .null
  | .bool b => some (.bool b)
  | .number n => n.toItem?
  | .string s => some (.text s)
  | .array items => match levels with
    | 0 => none
    | levels + 1 => (toItems? levels items).map .array
  | .object entries => match levels with
    | 0 => none
    | levels + 1 => (toEntries? levels entries).map .map
  | .illFormed => none

/-- The items that a list of values stands for. -/
def toItems? (levels : Nat) : List Json → Option (List Cbor.Value)
  | [] => some []
  | j :: js => do return (← toItem? levels j) :: (← toItems? levels js)

/-- The entries that the entries of an object stand for. -/
def toEntries? (levels : Nat) : List (String × Json) → Option (List (Cbor.Value × Cbor.Value))
  | [] => some []
  | (key, j) :: entries => do
    return (.text key, ← toItem? levels j) :: (← toEntries? levels entries)

end

end Presentment.Json
