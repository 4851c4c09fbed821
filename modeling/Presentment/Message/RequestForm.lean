import Presentment.Json.Decoder
import Presentment.Message.Request

/-!
# Items requests as structured text

An items request is written as an object with the fields `docType`, `nameSpaces` and
perhaps `requestInfo`.
-/

namespace Presentment

namespace Json

/-- The map of what `f` reads from each entry of an object that is not empty. -/
def nonEmptyMap? {α : Type} (f : Json → Option α) (j : Json) : Option (NonEmptyMap α) := do
  NonEmptyMap.ofMap? (← textMap? f j)

end Json

namespace ItemsRequest

/-- How deep the further information of a request nests at most. -/
def maxInfoLevels : Nat := 124

/-- The items request that a value stands for. -/
def ofJson? (j : Json) : Option ItemsRequest := do
  match ← j.fields? ["docType", "nameSpaces", "requestInfo"] with
  | [some docType, some namespaces, requestInfo] =>
    let docType ← docType.string?
    let namespaces ← namespaces.nonEmptyMap? (Json.nonEmptyMap? Json.bool?)
    let requestInfo ← Json.orDefault? none
      (Json.nullable? (Json.textMap? (Json.toItem? maxInfoLevels))) requestInfo
    return ⟨docType, namespaces, requestInfo⟩
  | _ => none

end ItemsRequest

end Presentment
