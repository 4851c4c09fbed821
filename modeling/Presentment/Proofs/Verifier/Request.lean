import Presentment.Proofs.Crypto.Suite
import Presentment.Proofs.Except
import Presentment.Proofs.Message.Request
import Presentment.Verifier.ReaderSession

/-!
# Requests of a reader

A reader puts its items requests into one message, in order, each with its signature if it has
a key.  The holder reads the same items requests.
-/

namespace Presentment

open Cbor (Survives)

variable {levels : Nat}

/-- Certificates may stand in a header. -/
theorem Cose.Header.isEntry_x5chain (item : Cbor.Value) :
  Header.IsEntry .x5chain item
  := by
  constructor
  case label_eq => rfl
  case item_eq => exact fun _ => rfl
  case ne_iv => decide

namespace ReaderAuthKey

theorem survives_chainValue (chain : List Bytes) :
  Survives (levels + 1) (chainValue chain)
  := by
  unfold chainValue
  split
  · exact Cbor.survives_bytes _
  · apply Cbor.survives_array
    intro item hitem
    obtain ⟨bs, -, rfl⟩ := List.mem_map.mp hitem
    exact Cbor.survives_bytes bs

/-- The signature of a reader is read back from its bytes. -/
theorem survives_sign (suite : CipherSuite) (key : ReaderAuthKey) (transcript : SessionTranscript)
    (itemsRequest : Embedded ItemsRequest) :
  Survives (levels + 3) (key.sign suite transcript itemsRequest)
  := by
  apply Cose.Message.IsReadable.survives
  apply Cose.Message.isReadable_detached rfl rfl (by decide)
  · exact Cose.Header.ofValueWithin_singleton (Cose.Header.isEntry_x5chain _) _
  · apply Cbor.survives_map
    intro entry hentry
    rw [List.mem_singleton.mp hentry]
    exact ⟨Cbor.survives_int rfl, survives_chainValue key.x5chain⟩

end ReaderAuthKey

/-! ### Lengths -/

theorem DocRequest.length_itemsRequest_le (doc : DocRequest) :
  doc.itemsRequest.bytes.length ≤ (Cbor.encode doc).length
  := by
  have bytes := (Cbor.Value.length_encode_bytes doc.itemsRequest.bytes).1
  have tagged := (Cbor.Value.length_encode_tag 24 (.bytes doc.itemsRequest.bytes)).1
  have field : (Cbor.Value.tag 24 (.bytes doc.itemsRequest.bytes)).encode.length
      ≤ (Cbor.encode doc).length :=
    Cbor.Decoder.length_encode_le_of_field "itemsRequest" List.mem_cons_self
  exact Nat.le_trans bytes (Nat.le_trans tagged field)

theorem DeviceRequest.length_docRequest_le {r : DeviceRequest} {doc : DocRequest}
    (h : doc ∈ r.docRequests.toList) :
  (Cbor.encode doc).length ≤ (Cbor.encode r).length
  := by
  have item := Cbor.Value.length_encode_le_of_mem (List.mem_map_of_mem (f := Cbor.Wire.toValue) h)
  have field : (Cbor.Value.array (r.docRequests.toList.map Cbor.Wire.toValue)).encode.length
      ≤ (Cbor.encode r).length :=
    Cbor.Decoder.length_encode_le_of_field "docRequests"
      (List.mem_cons_of_mem _ List.mem_cons_self)
  exact Nat.le_trans item field

/-! ### The request -/

/-- The further information in an items request is read back from its bytes. -/
def ItemsRequest.IsReadable (levels : Nat) (request : ItemsRequest) : Prop :=
  ∀ info ∈ request.requestInfo, ∀ entry ∈ info.entries, Survives (levels + 1) entry.2

namespace ReaderSession

variable {suite : CipherSuite} {requests : List ItemsRequest} {key : Option ReaderAuthKey}
  {r : ReaderSession} {bytes : Bytes}

/-- A request can be made for every list of items requests that are read back from their bytes. -/
theorem exists_deviceRequest (r : ReaderSession) (key : Option ReaderAuthKey)
    (nonempty : requests ≠ [])
    (readable : ∀ request ∈ requests, request.IsReadable 253
      ∧ (Cbor.encode request).length < Cbor.headCapacity) :
  ∃ text, r.deviceRequest suite requests key = .ok text
  := by
  have made : ∀ request ∈ requests, ∃ doc, (do
      let itemsRequest ← (Embedded.ofContent request).mapError ReaderError.ofRefusal
      let sign := fun key => ReaderAuthKey.sign suite key r.transcript itemsRequest
      return (⟨itemsRequest, key.map sign⟩ : DocRequest))
        = .ok doc := by
    intro request hrequest
    obtain ⟨levels, short⟩ := readable request hrequest
    obtain ⟨itemsRequest, embedded⟩ := Embedded.exists_ofContent (request.survives levels) short
    exact ⟨_, Except.bind_eq_ok_iff.mpr
      ⟨itemsRequest, Except.mapError_eq_ok_iff.mpr embedded, rfl⟩⟩
  obtain ⟨docs, hdocs⟩ := Except.exists_mapM made
  cases docs with
  | nil =>
    have length_eq := (Except.mapM_eq_ok_iff.mp hdocs).length_eq
    exact absurd (List.eq_nil_of_length_eq_zero length_eq) nonempty
  | cons doc docs => exact ⟨_, Except.bind_eq_ok_iff.mpr ⟨doc :: docs, hdocs, rfl⟩⟩

theorem deviceRequest_eq_ok (h : r.deviceRequest suite requests key = .ok bytes) :
  ∃ request : DeviceRequest, bytes = Cbor.encode request
    ∧ List.Forall₂ (fun items (doc : DocRequest) => Embedded.ofContent items = .ok doc.itemsRequest
        ∧ doc.readerAuth = key.map (·.sign suite r.transcript doc.itemsRequest))
      requests request.docRequests.toList
  := by
  obtain ⟨docRequests, hdocs, h⟩ := Except.bind_eq_ok_iff.mp h
  split at h
  · rename_i nonempty hnonempty
    cases h
    use ⟨DeviceRequest.currentVersion, nonempty⟩, rfl
    rw [NonEmptyList.ofList?_eq_some_iff] at hnonempty
    subst hnonempty
    apply (Except.mapM_eq_ok_iff.mp hdocs).imp
    intro items doc hdoc
    obtain ⟨itemsRequest, hitems, hdoc⟩ := Except.bind_eq_ok_iff.mp hdoc
    cases hdoc
    exact ⟨Except.mapError_eq_ok_iff.mp hitems, rfl⟩
  · cases h

theorem contents_eq {docs : List DocRequest}
    (h : List.Forall₂
      (fun items (doc : DocRequest) => Embedded.ofContent items = .ok doc.itemsRequest
        ∧ doc.readerAuth = key.map (·.sign suite r.transcript doc.itemsRequest)) requests docs)
    (readable : ∀ request ∈ requests, request.IsReadable 253)
    (short : ∀ doc ∈ docs, doc.itemsRequest.bytes.length < Cbor.headCapacity) :
  docs.map (fun doc => doc.itemsRequest.content) = requests
  := by
  induction h with
  | nil => rfl
  | @cons items doc requests docs hdoc _ ih =>
    obtain ⟨readable, readables⟩ := List.forall_mem_cons.mp readable
    obtain ⟨short, shorts⟩ := List.forall_mem_cons.mp short
    rw [Embedded.bytes_of_ofBytes hdoc.1] at short
    have content_eq := Embedded.content_of_ofContent hdoc.1 (items.survives readable) short
    rw [List.map_cons, content_eq, ih readables shorts]

/-- The holder reads the items requests of the reader as they were made. -/
theorem decode_deviceRequest (h : r.deviceRequest suite requests key = .ok bytes)
    (readable : ∀ request ∈ requests, request.IsReadable 253)
    (short : bytes.length < Cbor.headCapacity) :
  ∃ request : DeviceRequest, Cbor.decode bytes = .ok request ∧ request.itemsRequests = requests
  := by
  obtain ⟨request, rfl, hdocs⟩ := deviceRequest_eq_ok h
  use request
  constructor
  · apply (request.survives _).decode_encode short
    intro doc hdoc readerAuth hreaderAuth
    obtain ⟨items, -, -, readerAuth_eq⟩ := exists_of_mem_of_forall₂ hdocs hdoc
    rw [readerAuth_eq, Option.mem_def, Option.map_eq_some_iff] at hreaderAuth
    obtain ⟨key, -, rfl⟩ := hreaderAuth
    exact key.survives_sign suite r.transcript doc.itemsRequest
  · apply contents_eq hdocs readable
    intro doc hdoc
    have doc_le := doc.length_itemsRequest_le
    have request_le := DeviceRequest.length_docRequest_le hdoc
    omega

end ReaderSession

end Presentment
