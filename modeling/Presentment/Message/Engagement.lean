import Presentment.Cose.Key
import Presentment.Embedded
import Presentment.Text.Base64
import Presentment.Text.Uuid

/-!
# Device engagement

The holder starts a presentation by publishing a device engagement: its ephemeral key and
the ways in which it can be reached.  The engagement is a map with integer labels, of
which those that are not known are passed over and of repeated ones the last counts.  It
is shown as an address with the scheme `mdoc:`.
-/

namespace Presentment

open Cbor (Value Wire)

/-- Where the holder can be reached over the radio: the service it offers as a peripheral,
and the service it looks for as a central. -/
structure BleOptions where
  peripheral : Option Uuid
  central : Option Uuid
  deriving DecidableEq

/-- A cipher suite and the ephemeral key of the holder. -/
structure EngagementSecurity where
  suite : UInt64
  key : Embedded Cose.Key

/-- What the holder publishes; its version is always 1.0. -/
structure DeviceEngagement where
  security : EngagementSecurity
  methods : Option (NonEmptyList BleOptions)

instance : Wire EngagementSecurity where
  decoder :=
    (Cbor.Decoder.tuple
      (.pair (.one Cbor.Decoder.uint64) (.one Wire.decoder))).map
      (fun fields => ⟨fields.1, fields.2⟩)
  toValue s := .array [.int s.suite.toNat, s.key.toValue]

/-- What the last entry with integer label `label` stands for. -/
def labelled? (entries : List (Value × Value)) (label : Int) : Option Value :=
  Cose.Key.lastEntry? entries label some

/-- Whether all labels of a map are integers. -/
def integerLabelled (entries : List (Value × Value)) : Bool :=
  entries.all (fun
    | (.int _, _) => true
    | _ => false)

namespace BleOptions

/-- The service that an entry names, if it is there. -/
def service? : Option Value → Except EngagementError (Option Uuid)
  | none => .ok none
  | some (.bytes bs) => match Uuid.ofBytes? bs with
    | some uuid => .ok (some uuid)
    | none => .error .malformed
  | some _ => .error .malformed

/-- The options in a map: a service counts only if its mode is switched on. -/
def ofEntries (entries : List (Value × Value)) : Except EngagementError BleOptions := do
  if !integerLabelled entries then throw .malformed
  let switchedOn (label : Int) : Bool := labelled? entries label matches some (.bool true)
  let peripheral ← service? (labelled? entries 10)
  let central ← service? (labelled? entries 11)
  return ⟨peripheral.filter (fun _ => switchedOn 0), central.filter (fun _ => switchedOn 1)⟩

/-- The options in a retrieval method, which names transport 2 and its version 1.  What
follows the options is passed over. -/
def ofValue : Value → Except EngagementError BleOptions
  | .array (transport :: version :: options :: _) => do
    if Cose.Key.int? transport ≠ some 2 then throw .unsupportedRetrieval
    if Cose.Key.int? version ≠ some 1 then throw .malformed
    match options with
    | .map entries => ofEntries entries
    | _ => throw .malformed
  | _ => .error .malformed

/-- The retrieval method with these options. -/
def toValue (options : BleOptions) : Value :=
  let modes := [(.int 0, .bool options.peripheral.isSome), (.int 1, .bool options.central.isSome)]
  let service (label : Int) (uuid : Option Uuid) : List (Value × Value) :=
    uuid.toList.map (fun uuid => (.int label, .bytes uuid.bytes))
  .array [.int 2, .int 1,
    .map (modes ++ service 10 options.peripheral ++ service 11 options.central)]

end BleOptions

namespace DeviceEngagement

/-- The version of every engagement. -/
def version : String := "1.0"

/-- The engagement that an item stands for. -/
def ofValue : Value → Except EngagementError DeviceEngagement
  | .map entries => do
    if !integerLabelled entries then throw .malformed
    match labelled? entries 0 with
    | some (.text s) => if s ≠ version then throw .unsupportedVersion
    | _ => throw .malformed
    let some security := labelled? entries 1 | throw .malformed
    let security ← (Cbor.ofValue security).mapError (fun _ => .malformed)
    let methods ← match labelled? entries 2 with
      | none => pure none
      | some (.array methods) => do
        match NonEmptyList.ofList? (← methods.mapM BleOptions.ofValue) with
        | some methods => pure (some methods)
        | none => throw .malformed
      | some _ => throw .malformed
    return ⟨security, methods⟩
  | _ => .error .notAMap

def toValue (e : DeviceEngagement) : Value :=
  let methods := e.methods.toList.map
    (fun methods => (Value.int 2, Value.array (methods.toList.map BleOptions.toValue)))
  .map ([(.int 0, .text version), (.int 1, Wire.toValue e.security)] ++ methods)

instance : Wire DeviceEngagement where
  decoder := Cbor.Decoder.value.refine (fun item => (ofValue item).mapError .engagement)
  toValue := toValue

/-- The engagement of a holder that offers `service` as a peripheral. -/
def peripheral (key : Embedded Cose.Key) (service : Uuid) : DeviceEngagement where
  security := ⟨1, key⟩
  methods := some (.singleton ⟨some service, none⟩)

/-- The first service that the holder offers as a peripheral. -/
def peripheralService? (e : DeviceEngagement) : Option Uuid :=
  e.methods.bind (fun methods => methods.toList.findSome? (·.peripheral))

/-! ### Addresses -/

/-- The scheme of an engagement's address. -/
def scheme : String := "mdoc:"

/-- Why a text is not the address of an engagement. -/
inductive UriError where
  | scheme
  | encoding
  | content (cause : Refusal)
  deriving DecidableEq, Repr

def UriError.message : UriError → String
  | .scheme => "QR code does not start with 'mdoc:'"
  | .encoding => "QR code payload is not base64url"
  | .content _ => "Something went wrong parsing a tag24: " ++ Embedded.unreadable

/-- The rules that the engagement at an address breaks. -/
def UriError.reasons : UriError → List String
  | .content (.embedded cause) => cause.reasons
  | .content cause => cause.reasons
  | _ => []

/-- The address of an engagement. -/
def toUri (e : Embedded DeviceEngagement) : String :=
  scheme ++ Base64.encode Base64.url e.bytes

/-- The engagement at an address. -/
def ofUri (uri : String) : Except UriError (Embedded DeviceEngagement) := do
  if !scheme.toList.isPrefixOf uri.toList then throw .scheme
  let encoded := String.ofList (uri.toList.drop scheme.length)
  let some bytes := Base64.decode? Base64.url encoded | throw .encoding
  (Embedded.ofBytes bytes).mapError .content

end DeviceEngagement

end Presentment
