import Presentment.Disclosure.Filter
import Presentment.Disclosure.Form
import Presentment.Security.Provider

/-!
# Prompts

Before anything is disclosed the user is asked for consent.  A prompt shows which of the
requested items the holder can return, which ones it does not hold, and what is known about
the reader.
-/

namespace Presentment

/-- What the user is asked to consent to. -/
structure Prompt where
  validItems : ItemsByDocument
  errorItems : ItemsByDocument
  documentNames : TextMap String
  /-- The judgement of the reader's signature, if the request was signed. -/
  readerAuth : Option ReaderAuthOutcome

namespace Prompt

/-- The prompt for a disclosure. -/
def ofDisclosure (d : Disclosure) (readerAuth : Option ReaderAuthOutcome) : Prompt :=
  ⟨d.validItems, d.errorItems, d.documentNames, readerAuth⟩

/-- A text, or null if there is none. -/
def textJson : Option String → Json
  | some s => .string s
  | none => .null

/-- What is known about the reader as structured text. -/
def readerAuthJson (o : ReaderAuthOutcome) : Json :=
  .object [("validated", .bool o.validated),
    ("certificateIssuer", textJson o.certificateIssuer),
    ("certificateSubject", textJson o.certificateSubject),
    ("message", textJson o.message)]

/-- A prompt as structured text. -/
def toJson (p : Prompt) : Json :=
  .object [("validItemsRequested", p.validItems.toJson),
    ("errorItemsRequested", p.errorItems.toJson),
    ("documentNames", Json.ofMap .string p.documentNames),
    ("readerAuth", p.readerAuth.elim .null readerAuthJson)]

end Prompt

end Presentment
