import Presentment.Message.IssuerSigned

/-!
# Age attestations

An element `age_over_NN` attests whether the holder is older than `NN` years.  Of more than
two that are requested together, only the nearest ones are returned: the lowest age that
the holder has passed and the highest one that the holder has not.  The others are
superseded.
-/

namespace Presentment

namespace AgeAttestation

/-- What the identifiers of age attestations start with. -/
def identifierStart : String := "age_over_"

/-- The number from 0 to 255 that a text stands for; it may have a plus sign in front. -/
def byteOf? (cs : List Char) : Option Nat :=
  let ds := match cs with
    | '+' :: rest => rest
    | cs => cs
  if ds.isEmpty || !ds.all Char.isDigit then none
  else
    let n := ds.foldl (fun n d => 10 * n + (d.toNat - '0'.toNat)) 0
    if n ≤ 255 then some n else none

/-- The age that an identifier speaks of, if it is that of an age attestation. -/
def age? (identifier : String) : Option Nat :=
  let start := identifierStart.toList
  let cs := identifier.toList
  if start.isPrefixOf cs then byteOf? (cs.drop start.length) else none

/-- What an age attestation says: the truth value of the first element of its name. -/
def attested? (held : List (Embedded IssuerSignedItem)) (identifier : String) : Option Bool :=
  match held.find? (fun item => item.content.elementIdentifier == identifier) with
  | some item => match item.content.elementValue with
    | .bool b => some b
    | _ => none
  | none => none

/-- An age attestation that is requested: the age and the identifier. -/
abbrev Requested := Nat × String

/-- The first attestation of the lowest age. -/
def lowest? : List Requested → Option Requested
  | [] => none
  | first :: rest => match lowest? rest with
    | some best => if best.1 < first.1 then some best else some first
    | none => some first

/-- The last attestation of the highest age. -/
def highest? : List Requested → Option Requested
  | [] => none
  | first :: rest => match highest? rest with
    | some best => if best.1 < first.1 then some first else some best
    | none => some first

/-- The age attestations among requested identifiers. -/
def requested (identifiers : List String) : List Requested :=
  identifiers.filterMap (fun identifier => (age? identifier).map (·, identifier))

/-- The attestations that are returned if they are requested with others. -/
def nearest (held : List (Embedded IssuerSignedItem)) (requested : List Requested) :
    List String :=
  let passed := requested.filter (fun r => attested? held r.2 == some true)
  let notPassed := requested.filter (fun r => attested? held r.2 == some false)
  ((lowest? passed).toList ++ (highest? notPassed).toList).map (·.2)

/-- The requested identifiers of attestations that are superseded. -/
def superseded (identifiers : List String) (held : List (Embedded IssuerSignedItem)) :
    List String :=
  let requested := requested identifiers
  if requested.length ≤ 2 then []
  else
    let nearest := nearest held requested
    (requested.map (·.2)).filter (fun identifier => !nearest.contains identifier)

end AgeAttestation

end Presentment
