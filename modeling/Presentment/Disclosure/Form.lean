import Presentment.Disclosure.Item
import Presentment.Json.Decoder

/-!
# Requested items as structured text

An item is written as an object that leaves out what is not known, and selections and
summaries as objects by document and namespace.
-/

namespace Presentment

namespace RequestItem

/-- The item that a value stands for. -/
def ofJson? (j : Json) : Option RequestItem := do
  match ← j.fields? ["elementIdentifier", "displayName", "intentToRetain", "isOptional"] with
  | [some elementIdentifier, displayName, intentToRetain, isOptional] =>
    let elementIdentifier ← elementIdentifier.string?
    let displayName ← Json.orDefault? none (Json.nullable? Json.string?) displayName
    let intentToRetain ← Json.orDefault? none (Json.nullable? Json.bool?) intentToRetain
    let isOptional ← Json.orDefault? none (Json.nullable? Json.bool?) isOptional
    return { elementIdentifier, displayName, intentToRetain, isOptional }
  | _ => none

/-- An item, with its fields in alphabetical order. -/
def toJson (item : RequestItem) : Json :=
  let field (name : String) (value : Option Json) : Option (String × Json) :=
    value.map (name, ·)
  .object ([field "displayName" (item.displayName.map .string),
    field "elementIdentifier" (some (.string item.elementIdentifier)),
    field "intentToRetain" (item.intentToRetain.map .bool),
    field "isOptional" (item.isOptional.map .bool)].filterMap id)

end RequestItem

namespace Json

/-- An object by the keys of a map. -/
def ofMap {α : Type} (f : α → Json) (m : TextMap α) : Json :=
  .object (m.entries.map (fun entry => (entry.1, f entry.2)))

/-- A list. -/
def ofList {α : Type} (f : α → Json) (as : List α) : Json :=
  .array (as.map f)

end Json

/-- The selection that a value stands for. -/
def Selection.ofJson? : Json → Option Selection :=
  Json.textMap? (Json.textMap? (Json.list? Json.string?))

def Selection.toJson : Selection → Json :=
  Json.ofMap (Json.ofMap (Json.ofList .string))

/-- The summary that a value stands for. -/
def ItemsByDocument.ofJson? : Json → Option ItemsByDocument :=
  Json.textMap? (Json.textMap? (Json.list? RequestItem.ofJson?))

def ItemsByDocument.toJson : ItemsByDocument → Json :=
  Json.ofMap (Json.ofMap (Json.ofList RequestItem.toJson))

end Presentment
