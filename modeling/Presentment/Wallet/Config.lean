import Presentment.Json.Decoder
import Presentment.Security.Provider
import Presentment.Transfer.Channel

/-!
# Settings

How a presentation is carried out.  Settings that are not given have their default.
-/

namespace Presentment

/-- The settings of a presentation. -/
structure TransferConfig where
  /-- The longest notification, header included. -/
  maxFragmentSize : Nat := Channel.maxUpdateLength
  deviceAuthMethod : DeviceAuthMethod := .mac
  /-- Whether to start over after an error. -/
  autoRecover : Bool := false
  /-- After how many seconds without activity the reader counts as idle. -/
  idleTimeout : Nat := 60
  /-- Whether events are accepted without being acted on. -/
  preview : Bool := false
  deriving DecidableEq, Repr

namespace DeviceAuthMethod

def name : DeviceAuthMethod → String
  | .mac => "deviceMac"
  | .signature => "deviceSignature"

def ofName? : String → Option DeviceAuthMethod
  | "deviceMac" => some .mac
  | "deviceSignature" => some .signature
  | _ => none

end DeviceAuthMethod

/-- Settings as structured text. -/
def TransferConfig.toJson (c : TransferConfig) : Json :=
  .object [("maxFragmentSize", .nat c.maxFragmentSize),
    ("deviceAuthMethod", .string c.deviceAuthMethod.name),
    ("autoRecover", .bool c.autoRecover),
    ("idleTimeoutSecs", .nat c.idleTimeout),
    ("preview", .bool c.preview)]

/-- The settings that a value stands for. -/
def TransferConfig.ofJson? (j : Json) : Option TransferConfig := do
  let default : TransferConfig := {}
  match ← j.fields? ["maxFragmentSize", "deviceAuthMethod", "autoRecover", "idleTimeoutSecs",
    "preview"] with
  | [maxFragmentSize, deviceAuthMethod, autoRecover, idleTimeout, preview] =>
    return {
      maxFragmentSize :=
        ← Json.orDefault? default.maxFragmentSize Json.unsigned? maxFragmentSize
      deviceAuthMethod :=
        ← Json.orDefault? default.deviceAuthMethod
          (fun j => j.alternative? >>= DeviceAuthMethod.ofName?) deviceAuthMethod
      autoRecover := ← Json.orDefault? default.autoRecover Json.bool? autoRecover
      idleTimeout := ← Json.orDefault? default.idleTimeout Json.unsigned? idleTimeout
      preview := ← Json.orDefault? default.preview Json.bool? preview }
  | _ => none

end Presentment
