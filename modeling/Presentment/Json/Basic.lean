import Presentment.Json.Number

/-!
# Structured text

Settings, requests and summaries are exchanged as structured text: null, truth values,
numbers, strings, lists, and objects whose entries keep the order in which they are written.
A string may be written with half of a surrogate pair; nothing is known of such a value but
that it is there.
-/

namespace Presentment

/-- A value of structured text. -/
inductive Json where
  | null
  | bool (b : Bool)
  | number (n : Json.Number)
  | string (s : String)
  | array (items : List Json)
  | object (entries : List (String × Json))
  /-- A string that is no text, or an object with a key that is none. -/
  | illFormed

namespace Json

instance : Inhabited Json := ⟨.null⟩

/-- The whole number `n`. -/
def nat (n : Nat) : Json := .number (.ofNat n)

end Json

end Presentment
