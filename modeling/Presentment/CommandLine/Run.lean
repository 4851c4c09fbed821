import Presentment.CommandLine.Invocation
import Presentment.Disclosure.Filter
import Presentment.Disclosure.Form
import Presentment.Json.Printer
import Presentment.Message.RequestForm
import Presentment.Text.Blank
import Presentment.Wallet.TransferInfo

/-!
# Running an invocation

What an invocation prints depends on its arguments, on the files it names and on the
standard input, all of which `Inputs` holds.
-/

namespace Presentment.CommandLine

/-- What an invocation reads. -/
structure Inputs where
  /-- The text of a file, if it can be read. -/
  file? : (name : String) → Option String
  standardInput : String

/-- Why an invocation fails. -/
inductive Failure where
  | documentNotBase64
  | malformedDocument
  | unusableInfo
  | unreadableRequest
  | malformedRequest
  | messageNotHex
  | sizeTooSmall
  deriving DecidableEq, Repr

def Failure.message : Failure → String
  | documentNotBase64 => "issuer signed data is not base64"
  | malformedDocument => "could not parse issuer signed data"
  | unusableInfo => "could not load transfer info"
  | unreadableRequest => "could not read request"
  | malformedRequest => "could not parse request"
  | messageNotHex => "message is not hex"
  | sizeTooSmall => "fragment size must be at least 2"

/-- What came of an invocation. -/
inductive Outcome where
  | printed (text : String)
  | failed (failure : Failure)
  /-- The arguments stand for no invocation. -/
  | misused
  deriving DecidableEq, Repr

namespace Outcome

def exitCode : Outcome → Nat
  | printed _ => 0
  | failed _ => 1
  | misused => 2

/-- What goes to the standard output. -/
def output : Outcome → String
  | printed text => text
  | _ => ""

/-- What goes to the standard error. -/
def report : Outcome → String
  | printed _ => ""
  | failed failure => "Error: " ++ failure.message
  | misused => "error: the arguments are not those of any command"

end Outcome

/-- The text of a source, without blanks at its ends. -/
def Source.text (inputs : Inputs) : Source → String
  | argument text => Text.trim text
  | standardInput => Text.trim inputs.standardInput

/-- A text that ends its line. -/
def line (text : String) : String := text ++ "\n"

/-- The namespaces of a document with their elements, in order. -/
def elementsByNamespace (d : IssuerSigned) : TextMap (List String) :=
  d.elementIdentifiers.foldl (fun m entry => m.alter entry.1 (fun elements =>
    elements.getD [] ++ [entry.2])) ∅

/-- Lists the elements of an issuer-signed document. -/
def namespaces (text : String) : Except Failure String := do
  let some bytes := Base64.decode? Base64.standard text | throw .documentNotBase64
  let document : IssuerSigned ← (Cbor.decode bytes).mapError (fun _ => .malformedDocument)
  return line (Json.ofMap (Json.ofList .string) (elementsByNamespace document)).pretty

/-- An error code as structured text. -/
def errorCodeJson (code : ErrorCode) : Json :=
  .number (.ofInt code.code)

/-- What a disclosure shows, without the documents. -/
def summary (d : Disclosure) : Json :=
  .object [("documentErrors", Json.ofList (Json.ofMap errorCodeJson) d.documentErrors),
    ("errorItems", d.errorItems.toJson), ("validItems", d.validItems.toJson)]

/-- Shows what a request discloses. -/
def disclose (info request : Option String) : Except Failure String := do
  let some info := info >>= fun text => (TransferInfo.ofText text).toOption
    | throw .unusableInfo
  let some request := request | throw .unreadableRequest
  let some requests := Json.parse? request >>= Json.list? ItemsRequest.ofJson?
    | throw .malformedRequest
  let disclosure := Disclosure.filter info.credentials (.verifier requests none)
  return line (summary disclosure).pretty

/-- Cuts a message into fragments of a length, which includes the header. -/
def fragments (size : Nat) (message : String) : Except Failure String := do
  let some message := Hex.decode? message | throw .messageNotHex
  if size < 2 then throw .sizeTooSmall
  return String.join
    ((Fragment.frame message (.atLeastOne (size - 1))).map (fun f => line (Hex.encode f)))

/-- What an invocation prints, or why it fails. -/
def Invocation.run (inputs : Inputs) : Invocation → Except Failure String
  | namespaces issuerSigned => CommandLine.namespaces (issuerSigned.text inputs)
  | disclose info request => CommandLine.disclose (inputs.file? info) (inputs.file? request)
  | fragments size message => CommandLine.fragments size (message.text inputs)
  | help topic => .ok topic.page.toText
  | version => .ok versionLine

/-- What comes of an invocation with the given arguments. -/
def run (arguments : List String) (inputs : Inputs) : Outcome :=
  match Invocation.ofArguments? arguments with
  | none => .misused
  | some invocation => match invocation.run inputs with
    | .ok text => .printed text
    | .error failure => .failed failure

end Presentment.CommandLine
