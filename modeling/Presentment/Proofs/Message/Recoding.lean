import Presentment.Proofs.Cose.Nesting
import Presentment.Proofs.Message.Engagement
import Presentment.Proofs.Message.Request
import Presentment.Proofs.Message.Response
import Presentment.Proofs.Message.Session

/-!
# Messages written again

A message that was received is written again in other bytes: in shortest heads, in the order of its
fields, and without what was passed over.  But it is the same message, whatever it was read from,
and whatever is embedded in it still stands there in the bytes in which it came.  Only what has no
shape of its own, items and signed messages, has to be read back from its own bytes.
-/

namespace Presentment

open Cbor (Wire Decoder Survives Nests Recodes)
open Cbor.Decoder.Elements (restores_one)
open Cbor.Decoder (restores_text restores_tuple yields_true yields_record yields_passed
  yields_variant)

variable {levels : Nat}

/-! ### What messages carry -/

/-- The further information consists of items that are read back from their own bytes. -/
def ItemsRequest.RecodesWithin (r : ItemsRequest) : Prop :=
  ∀ info ∈ r.requestInfo, ∀ entry ∈ info.entries, Recodes entry.2

/-- The signature of the reader is read back from its own bytes. -/
def DocRequest.RecodesWithin (r : DocRequest) : Prop :=
  ∀ readerAuth ∈ r.readerAuth, Recodes readerAuth

def DeviceRequest.RecodesWithin (r : DeviceRequest) : Prop :=
  ∀ doc ∈ r.docRequests.toList, doc.RecodesWithin

/-- The signature of the issuer is read back from its own bytes. -/
def IssuerSigned.RecodesWithin (s : IssuerSigned) : Prop :=
  Recodes s.issuerAuth

/-- The proof of the device key is read back from its own bytes. -/
def DeviceAuth.RecodesWithin : DeviceAuth → Prop
  | .signature message => Recodes message
  | .mac message => Recodes message

def DeviceSigned.RecodesWithin (s : DeviceSigned) : Prop :=
  s.deviceAuth.RecodesWithin

/-- All signatures and proofs of a document are read back from their own bytes. -/
structure Document.RecodesWithin (d : Document) : Prop where
  issuerSigned : d.issuerSigned.RecodesWithin
  deviceSigned : ∀ deviceSigned ∈ d.deviceSigned, deviceSigned.RecodesWithin

def DeviceResponse.RecodesWithin (r : DeviceResponse) : Prop :=
  ∀ documents ∈ r.documents, ∀ d ∈ documents.toList, d.RecodesWithin

/-! ### Requests -/

theorem ItemsRequest.yields_survives :
  Wire.decoder.Yields (levels + 3)
    (fun r : ItemsRequest => r.RecodesWithin → Survives (levels + 3) r)
  := by
  refine yields_record (R := fun draft : Draft => ∀ info ∈ draft.requestInfo.join,
    ∀ entry ∈ info.entries, Nests (levels + 1) entry.2) ?start ?fields ?finish
  case start => rintro _ ⟨⟩
  case fields =>
    intro draft name hdraft
    simp only [Decoder.fieldOf]
    split
    · exact (yields_true _ _).once fun _ _ => hdraft
    · exact (yields_true _ _).once fun _ _ => hdraft
    · exact (Cbor.yields_value _).textMap.nullable.once fun _ nests => nests
    · exact yields_passed hdraft
  case finish =>
    intro draft r hdraft hr recodes
    obtain ⟨docType, -, hr⟩ := Except.bind_eq_ok_iff.mp hr
    obtain ⟨namespaces, -, hr⟩ := Except.bind_eq_ok_iff.mp hr
    cases hr
    apply ItemsRequest.survives
    intro info hinfo entry mem
    exact (hdraft info hinfo entry mem).survives_value (recodes info hinfo entry mem)

theorem DocRequest.yields_nests :
  Wire.decoder.Yields (levels + 2)
    (fun r : DocRequest => ∀ readerAuth ∈ r.readerAuth, Nests (levels + 1) readerAuth)
  := by
  refine yields_record (R := fun draft : Draft => ∀ readerAuth ∈ draft.readerAuth.join,
    Nests (levels + 1) readerAuth) ?start ?fields ?finish
  case start => rintro _ ⟨⟩
  case fields =>
    intro draft name hdraft
    simp only [Decoder.fieldOf]
    split
    · exact (yields_true _ _).once fun _ _ => hdraft
    · exact (Cose.Message.yields_nests _ _).nullable.once fun _ nests => nests
    · exact yields_passed hdraft
  case finish =>
    intro draft r hdraft hr
    obtain ⟨itemsRequest, -, hr⟩ := Except.bind_eq_ok_iff.mp hr
    cases hr
    exact hdraft

theorem DocRequest.yields_survives :
  Wire.decoder.Yields (levels + 2)
    (fun r : DocRequest => r.RecodesWithin → Survives (levels + 2) r)
  := yields_nests.imp fun r nests recodes => r.survives fun readerAuth mem =>
    Cose.Message.survives_of_nests (nests readerAuth mem) (recodes readerAuth mem)

theorem DeviceRequest.yields_survives :
  Wire.decoder.Yields (levels + 4)
    (fun r : DeviceRequest => r.RecodesWithin → Survives (levels + 4) r)
  := by
  refine yields_record (R := fun draft : Draft => ∀ docRequests ∈ draft.docRequests,
    ∀ doc ∈ docRequests.toList, ∀ readerAuth ∈ doc.readerAuth, Nests (levels + 1) readerAuth)
    ?start ?fields ?finish
  case start => rintro _ ⟨⟩
  case fields =>
    intro draft name hdraft
    simp only [Decoder.fieldOf]
    split
    · exact (yields_true _ _).once fun _ _ => hdraft
    · refine (DocRequest.yields_nests.nonEmptyList fun _ _ h => by cases h).once ?_
      rintro docRequests nests _ ⟨⟩
      exact nests
    · exact yields_passed hdraft
  case finish =>
    intro draft r hdraft hr recodes
    obtain ⟨version, -, hr⟩ := Except.bind_eq_ok_iff.mp hr
    obtain ⟨docRequests, hdocRequests, hr⟩ := Except.bind_eq_ok_iff.mp hr
    cases hr
    apply DeviceRequest.survives
    intro doc mem readerAuth mem'
    have nests := hdraft docRequests (Decoder.required_eq_ok_iff.mp hdocRequests) doc mem
    exact Cose.Message.survives_of_nests (nests readerAuth mem') (recodes doc mem readerAuth mem')

/-! ### Responses -/

theorem ErrorCode.yields_isProper :
  Wire.decoder.Yields levels ErrorCode.IsProper
  := by
  refine (Cbor.Decoder.yields_integer _ _).map fun n range => ?_
  have code_eq : (ofCode n).code = n := by
    rw [ofCode]
    split
    · rename_i zero
      exact zero.symm
    · rfl
  constructor
  case ofCode_eq => rw [code_eq]
  case low =>
    rw [code_eq]
    exact range.1
  case high =>
    rw [code_eq]
    exact range.2

theorem ElementErrors.yields_isProper :
  Wire.decoder.Yields (levels + 2) ElementErrors.IsProper
  := ErrorCode.yields_isProper.nonEmptyMap.nonEmptyMap

theorem DocumentError.yields_isProper :
  Wire.decoder.Yields (levels + 1)
    (fun error : DocumentError => ∀ entry ∈ error.entries, entry.2.IsProper)
  := ErrorCode.yields_isProper.textMap

theorem IssuerSigned.yields_nests :
  Wire.decoder.Yields (levels + 4) (fun s : IssuerSigned => Nests (levels + 3) s.issuerAuth)
  := by
  refine yields_record (R := fun draft : Draft => ∀ issuerAuth ∈ draft.issuerAuth,
    Nests (levels + 3) issuerAuth) ?start ?fields ?finish
  case start => rintro _ ⟨⟩
  case fields =>
    intro draft name hdraft
    simp only [Decoder.fieldOf]
    split
    · exact (yields_true _ _).once fun _ _ => hdraft
    · refine (Cose.Message.yields_nests _ _).once ?_
      rintro issuerAuth nests _ ⟨⟩
      exact nests
    · exact yields_passed hdraft
  case finish =>
    intro draft s hdraft hs
    obtain ⟨issuerAuth, hissuerAuth, hs⟩ := Except.bind_eq_ok_iff.mp hs
    cases hs
    exact hdraft issuerAuth (Decoder.required_eq_ok_iff.mp hissuerAuth)

theorem IssuerSigned.yields_survives :
  Wire.decoder.Yields (levels + 4)
    (fun s : IssuerSigned => s.RecodesWithin → Survives (levels + 4) s)
  := yields_nests.imp fun s nests recodes =>
    s.survives (Cose.Message.survives_of_nests nests recodes)

theorem DeviceAuth.yields_survives :
  Wire.decoder.Yields (levels + 1)
    (fun auth : DeviceAuth => auth.RecodesWithin → Survives (levels + 1) auth)
  := by
  apply yields_variant
  intro name d hd
  split at hd
  · cases hd
    exact (Cose.Message.yields_nests _ _).map fun message nests recodes =>
      survives_signature (Cose.Message.survives_of_nests nests recodes)
  · cases hd
    exact (Cose.Message.yields_nests _ _).map fun message nests recodes =>
      survives_mac (Cose.Message.survives_of_nests nests recodes)
  · cases hd

theorem DeviceSigned.yields_survives :
  Wire.decoder.Yields (levels + 2)
    (fun s : DeviceSigned => s.RecodesWithin → Survives (levels + 2) s)
  := by
  refine yields_record (R := fun draft : Draft => ∀ auth ∈ draft.deviceAuth,
    auth.RecodesWithin → Survives (levels + 1) auth) ?start ?fields ?finish
  case start => rintro _ ⟨⟩
  case fields =>
    intro draft name hdraft
    simp only [Decoder.fieldOf]
    split
    · exact (yields_true _ _).once fun _ _ => hdraft
    · refine DeviceAuth.yields_survives.once ?_
      rintro auth survives _ ⟨⟩
      exact survives
    · exact yields_passed hdraft
  case finish =>
    intro draft s hdraft hs recodes
    obtain ⟨namespaces, -, hs⟩ := Except.bind_eq_ok_iff.mp hs
    obtain ⟨auth, hauth, hs⟩ := Except.bind_eq_ok_iff.mp hs
    cases hs
    apply DeviceSigned.survives
    exact hdraft auth (Decoder.required_eq_ok_iff.mp hauth) recodes

/-- What was gathered of a document survives if it is read back from its own bytes. -/
structure Document.Draft.IsReadable (levels : Nat) (draft : Draft) : Prop where
  issuerSigned : ∀ issuerSigned ∈ draft.issuerSigned, Nests (levels + 3) issuerSigned.issuerAuth
  deviceSigned : ∀ deviceSigned ∈ draft.deviceSigned.join,
    deviceSigned.RecodesWithin → Survives (levels + 4) deviceSigned
  errors : ∀ errors ∈ draft.errors.join, ElementErrors.IsProper errors

theorem Document.yields_isReadable :
  Wire.decoder.Yields (levels + 5)
    (fun d : Document => d.RecodesWithin → d.IsReadable levels)
  := by
  refine yields_record (R := Draft.IsReadable levels) ?start ?fields ?finish
  case start => exact ⟨by rintro _ ⟨⟩, by rintro _ ⟨⟩, by rintro _ ⟨⟩⟩
  case fields =>
    intro draft name hdraft
    simp only [Decoder.fieldOf]
    split
    · refine (yields_true _ _).once fun docType _ => ?_
      exact ⟨hdraft.issuerSigned, hdraft.deviceSigned, hdraft.errors⟩
    · refine IssuerSigned.yields_nests.once fun issuerSigned nests => ?_
      refine ⟨?_, hdraft.deviceSigned, hdraft.errors⟩
      rintro _ ⟨⟩
      exact nests
    · refine DeviceSigned.yields_survives.nullable.once fun deviceSigned survives => ?_
      exact ⟨hdraft.issuerSigned, survives, hdraft.errors⟩
    · refine ElementErrors.yields_isProper.nullable.once fun errors proper => ?_
      exact ⟨hdraft.issuerSigned, hdraft.deviceSigned, proper⟩
    · exact yields_passed hdraft
  case finish =>
    intro draft d hdraft hd recodes
    obtain ⟨docType, -, hd⟩ := Except.bind_eq_ok_iff.mp hd
    obtain ⟨issuerSigned, hissuerSigned, hd⟩ := Except.bind_eq_ok_iff.mp hd
    cases hd
    constructor
    case issuerAuth =>
      have nests := hdraft.issuerSigned issuerSigned (Decoder.required_eq_ok_iff.mp hissuerSigned)
      exact Cose.Message.survives_of_nests nests recodes.issuerSigned
    case deviceSigned =>
      intro deviceSigned mem
      exact hdraft.deviceSigned deviceSigned mem (recodes.deviceSigned deviceSigned mem)
    case errors => exact hdraft.errors

theorem Document.yields_survives :
  Wire.decoder.Yields (levels + 5)
    (fun d : Document => d.RecodesWithin → Survives (levels + 5) d)
  := yields_isReadable.imp fun _ readable recodes => survives (readable recodes)

/-- What was gathered of a response survives if it is read back from its own bytes. -/
structure DeviceResponse.Draft.IsReadable (levels : Nat) (draft : Draft) : Prop where
  documents : ∀ documents ∈ draft.documents.join, ∀ d ∈ documents.toList,
    d.RecodesWithin → d.IsReadable levels
  documentErrors : ∀ errors ∈ draft.documentErrors.join, ∀ error ∈ errors.toList,
    ∀ entry ∈ error.entries, entry.2.IsProper

theorem DeviceResponse.yields_survives :
  Wire.decoder.Yields (levels + 7)
    (fun r : DeviceResponse => r.RecodesWithin → Survives (levels + 7) r)
  := by
  refine yields_record (R := Draft.IsReadable levels) ?start ?fields ?finish
  case start => exact ⟨by rintro _ ⟨⟩, by rintro _ ⟨⟩⟩
  case fields =>
    intro draft name hdraft
    simp only [Decoder.fieldOf]
    split
    · exact (yields_true _ _).once fun _ _ => ⟨hdraft.documents, hdraft.documentErrors⟩
    · refine (Document.yields_isReadable.nonEmptyList fun _ _ h => by cases h).nullable.once ?_
      exact fun _ readable => ⟨readable, hdraft.documentErrors⟩
    · refine (DocumentError.yields_isProper.nonEmptyList fun _ _ h => by cases h).nullable.once ?_
      exact fun _ proper => ⟨hdraft.documents, proper⟩
    · exact (yields_true _ _).once fun _ _ => ⟨hdraft.documents, hdraft.documentErrors⟩
    · exact yields_passed hdraft
  case finish =>
    intro draft r hdraft hr recodes
    obtain ⟨version, -, hr⟩ := Except.bind_eq_ok_iff.mp hr
    obtain ⟨status, -, hr⟩ := Except.bind_eq_ok_iff.mp hr
    cases hr
    apply DeviceResponse.survives
    constructor
    case documents =>
      intro documents hdocuments d mem
      exact hdraft.documents documents hdocuments d mem (recodes documents hdocuments d mem)
    case documentErrors => exact hdraft.documentErrors

/-! ### Lists of fixed length -/

theorem Handover.survives (handover : Handover) :
  Survives levels handover
  := by
  cases handover with
  | qr => exact Cbor.Decoder.Restores.refine Cbor.survives_null rfl

theorem SessionTranscript.survives (t : SessionTranscript) :
  Survives (levels + 2) t
  := by
  have engagement : Survives (levels + 1) t.engagement := t.engagement.survives
  have readerKey : Survives (levels + 1) t.readerKey := t.readerKey.survives
  have handover : Survives (levels + 1) t.handover := t.handover.survives
  exact (restores_tuple ((restores_one engagement).pair
    ((restores_one readerKey).pair (restores_one handover)))).map _

theorem DeviceAuthentication.survives (a : DeviceAuthentication) :
  Survives (levels + 3) a
  := by
  have context : Survives (levels + 2) a.context := restores_text a.context
  have transcript : Survives (levels + 2) a.transcript := a.transcript.survives
  have docType : Survives (levels + 2) a.docType := restores_text a.docType
  have namespaces : Survives (levels + 2) a.namespaces := a.namespaces.survives
  exact (restores_tuple ((restores_one context).pair ((restores_one transcript).pair
    ((restores_one docType).pair (restores_one namespaces))))).map _

theorem ReaderAuthentication.survives (a : ReaderAuthentication) :
  Survives (levels + 3) a
  := by
  have context : Survives (levels + 2) a.context := restores_text a.context
  have transcript : Survives (levels + 2) a.transcript := a.transcript.survives
  have itemsRequest : Survives (levels + 2) a.itemsRequest := a.itemsRequest.survives
  exact (restores_tuple ((restores_one context).pair
    ((restores_one transcript).pair (restores_one itemsRequest)))).map _

/-! ### Every message -/

/-- Whatever is decoded as an `α` is read back from its own bytes, if what it carries is, as
`carried` tells.  A head has to be able to count these bytes, as it can those of any byte string in
memory.  Equal messages have equal bytes embedded in them. -/
def Reproduces (α : Type) [Wire α] (carried : α → Prop) : Prop :=
  ∀ (bs : Bytes) (a : α), Cbor.decode bs = .ok a → carried a →
    (Cbor.encode a).length < Cbor.headCapacity → Recodes a

theorem Reproduces.of_survives {α : Type} [Wire α] {carried : α → Prop}
    (h : ∀ a : α, Survives Cbor.maxLevels a) :
  Reproduces α carried
  := fun _ a _ _ short => (h a).decode_encode short

theorem Reproduces.of_yields {α : Type} [Wire α] {carried : α → Prop}
    (h : Wire.decoder.Yields Cbor.maxLevels (fun a : α => carried a → Survives Cbor.maxLevels a)) :
  Reproduces α carried
  := by
  intro bs a decoded hcarried short
  rw [Cbor.decode] at decoded
  split at decoded
  · rename_i read
    cases decoded
    exact (h _ _ _ read hcarried).decode_encode short
  · cases decoded

/-- Writing a message that was received again does not change it. -/
theorem reproduces_messages :
  Reproduces SessionEstablishment (fun _ => True)
    ∧ Reproduces SessionData (fun _ => True)
    ∧ Reproduces SessionTranscript (fun _ => True)
    ∧ Reproduces DeviceEngagement (fun _ => True)
    ∧ Reproduces Cose.Key (fun _ => True)
    ∧ Reproduces DeviceRequest DeviceRequest.RecodesWithin
    ∧ Reproduces DocRequest DocRequest.RecodesWithin
    ∧ Reproduces ItemsRequest ItemsRequest.RecodesWithin
    ∧ Reproduces IssuerSigned IssuerSigned.RecodesWithin
    ∧ Reproduces DeviceSigned DeviceSigned.RecodesWithin
    ∧ Reproduces Document Document.RecodesWithin
    ∧ Reproduces DeviceResponse DeviceResponse.RecodesWithin
    ∧ Reproduces DeviceAuthentication (fun _ => True)
    ∧ Reproduces ReaderAuthentication (fun _ => True)
  := ⟨.of_survives fun m => m.survives, .of_survives fun m => m.survives,
    .of_survives fun t => t.survives, .of_survives fun e => e.survives,
    .of_survives fun key => key.survives, .of_yields DeviceRequest.yields_survives,
    .of_yields DocRequest.yields_survives, .of_yields ItemsRequest.yields_survives,
    .of_yields IssuerSigned.yields_survives, .of_yields DeviceSigned.yields_survives,
    .of_yields Document.yields_survives, .of_yields DeviceResponse.yields_survives,
    .of_survives fun a => a.survives, .of_survives fun a => a.survives⟩

/-- An items request in bytes that are never written so: its further information is a map of open
length with a number that is longer than it needs to be, after an unknown field, and another byte
follows. -/
def unusualRequest : Bytes :=
  [0xA4, 0x61, 0x78, 0x00, 0x67, 0x64, 0x6F, 0x63, 0x54, 0x79, 0x70, 0x65, 0x61, 0x64,
    0x6A, 0x6E, 0x61, 0x6D, 0x65, 0x53, 0x70, 0x61, 0x63, 0x65, 0x73,
    0xA1, 0x61, 0x6E, 0xA1, 0x61, 0x65, 0xF4,
    0x6B, 0x72, 0x65, 0x71, 0x75, 0x65, 0x73, 0x74, 0x49, 0x6E, 0x66, 0x6F,
    0xBF, 0x61, 0x68, 0x19, 0x00, 0x01, 0xFF, 0x00]

/-- It is written in other bytes, and is the same request when these are read. -/
theorem reproduces_messages_unusual :
  ∃ r : ItemsRequest, Cbor.decode unusualRequest = .ok r ∧ r.requestInfo.isSome
    ∧ (Cbor.encode r).length < unusualRequest.length ∧ Cbor.decode (Cbor.encode r) = .ok r
  := by
  have run : (Cbor.decode unusualRequest).toOption.map (fun r : ItemsRequest =>
      (r.requestInfo.map (fun info => info.entries.map (fun entry => Cose.Key.int? entry.2)),
        (Cbor.encode r).length)) = some (some [some 1], 45) := by
    decide +kernel
  obtain ⟨r, decoded, read⟩ := Option.map_eq_some_iff.mp run
  have decoded := Except.toOption_eq_some_iff.mp decoded
  simp only [Prod.mk.injEq] at read
  obtain ⟨info_eq, length_eq⟩ := read
  have present : r.requestInfo.isSome := by
    rw [← Option.isSome_map, info_eq]
    rfl
  have numbers : r.RecodesWithin := by
    intro info hinfo entry mem
    rw [hinfo, Option.map_some] at info_eq
    have number := List.mem_map_of_mem (f := fun entry => Cose.Key.int? entry.2) mem
    rw [Option.some.inj info_eq, List.mem_singleton] at number
    obtain ⟨key, v⟩ := entry
    cases v with
    | int n =>
      cases number
      exact (Cbor.survives_int rfl).decode_encode (by decide)
    | _ => cases number
  have short : (Cbor.encode r).length < Cbor.headCapacity := length_eq.trans_lt (by decide)
  obtain ⟨-, -, -, -, -, -, -, requests, -⟩ := reproduces_messages
  exact ⟨r, decoded, present, length_eq.trans_lt (by decide), requests _ r decoded numbers short⟩

end Presentment
