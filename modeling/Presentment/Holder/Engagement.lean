import Presentment.Security.SessionKey

/-!
# The engagement of the holder

For every presentation the holder makes an ephemeral key and an identifier of the service
that it offers, and publishes both as a device engagement.  Keys and identifiers come from
a `Supply`, from which each is drawn once.
-/

namespace Presentment

/-- Ephemeral keys and identifiers that are still to be drawn: the `n`-th of each is the one
drawn after `n` others. -/
structure Supply where
  key : Nat → PrivateKey
  uuid : Nat → Uuid
  keysDrawn : Nat := 0
  uuidsDrawn : Nat := 0

namespace Supply

/-- Draws a key. -/
def drawKey (s : Supply) : PrivateKey × Supply :=
  (s.key s.keysDrawn, { s with keysDrawn := s.keysDrawn + 1 })

/-- Draws an identifier. -/
def drawUuid (s : Supply) : Uuid × Supply :=
  (s.uuid s.uuidsDrawn, { s with uuidsDrawn := s.uuidsDrawn + 1 })

end Supply

/-- Why an engagement could not be made. -/
inductive HolderError where
  | key (reason : String)
  | encoding (reason : String)
  | session (cause : SessionError)
  deriving DecidableEq, Repr

def HolderError.message : HolderError → String
  | .key reason => "unable to encode the ephemeral device key: " ++ reason
  | .encoding reason => "unable to encode the device engagement: " ++ reason
  | .session cause => cause.message

/-- A published engagement with its private key. -/
structure Engagement where
  secret : PrivateKey
  deviceEngagement : Embedded DeviceEngagement
  service : Uuid

namespace Engagement

/-- The engagement with the given key and service. -/
def of (suite : CipherSuite) (secret : PrivateKey) (service : Uuid) :
    Except HolderError Engagement := do
  let key ← (Embedded.ofContent (suite.publicKey secret)).mapError
    (fun cause => .key (", ".intercalate cause.reasons))
  let deviceEngagement ← (Embedded.ofContent (DeviceEngagement.peripheral key service)).mapError
    (fun cause => .encoding (", ".intercalate cause.reasons))
  return ⟨secret, deviceEngagement, service⟩

/-- An engagement with a fresh key and a fresh service. -/
def generate (suite : CipherSuite) (supply : Supply) :
    Except HolderError Engagement × Supply :=
  let (secret, supply) := supply.drawKey
  let (service, supply) := supply.drawUuid
  (of suite secret service, supply)

/-- The address of the engagement. -/
def uri (e : Engagement) : String :=
  DeviceEngagement.toUri e.deviceEngagement

/-- The value by which the reader recognises the holder. -/
def ident (suite : CipherSuite) (e : Engagement) : Bytes :=
  bleIdent suite e.deviceEngagement.content.security.key

end Engagement

end Presentment
