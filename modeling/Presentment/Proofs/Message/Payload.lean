import Presentment.Message.DeviceSigned
import Presentment.Message.Request
import Presentment.Proofs.Message.Engagement

/-!
# Payloads are unambiguous

Signatures, authentication tags and the salts of session keys are made from `taggedBytes`, and bind
nothing but bytes.  The items of the payloads are all read back from the bytes in which they are
written, so these bytes tell the items; and an item tells everything that its payload is made of,
and which kind of payload it is.
-/

namespace Presentment

open Cbor (Value Wire Survives)

variable {levels : Nat}

namespace Cbor

/-- What is read back from its bytes is told by them. -/
theorem Survives.eq_of_encode_eq {α : Type} [Wire α] {a b : α} (ha : Survives levels a)
    (hb : Survives levels b) (short : (encode a).length < headCapacity)
    (heq : encode a = encode b) :
  a = b
  := by
  have short' : (encode b).length < headCapacity := heq ▸ short
  have read := ha short []
  have read' := hb short' []
  change Wire.decoder.parse levels (encode a ++ []) = _ at read
  change Wire.decoder.parse levels (encode b ++ []) = _ at read'
  rw [heq, read'] at read
  cases read
  rfl

end Cbor

/-! ### Items of payloads -/

/-- Tagged bytes hold at least the bytes that they tag. -/
theorem length_encode_le_taggedBytes {α : Type} [Wire α] (a : α) :
  (Cbor.encode a).length ≤ (taggedBytes a).length
  := Nat.le_trans (Value.length_encode_bytes _).1 (Value.length_encode_tag _ _).1

/-- The tagged bytes of values tell their items, whatever types the values are of. -/
theorem toValue_eq_of_taggedBytes_eq {α β : Type} [Wire α] [Wire β] {a : α} {b : β}
    (ha : Survives levels (Wire.toValue a)) (hb : Survives levels (Wire.toValue b))
    (short : (taggedBytes a).length < Cbor.headCapacity) (heq : taggedBytes a = taggedBytes b) :
  Wire.toValue a = Wire.toValue b
  := by
  have survives (bs : Bytes) : Survives 1 (Value.tag 24 (.bytes bs)) :=
    Cbor.survives_tag (Cbor.survives_bytes bs) (by decide) (by decide)
  have item_eq := (survives (Cbor.encode a)).eq_of_encode_eq (survives (Cbor.encode b)) short heq
  injection item_eq with _ item_eq
  injection item_eq with encode_eq
  exact ha.eq_of_encode_eq hb (Nat.lt_of_le_of_lt (length_encode_le_taggedBytes a) short) encode_eq

theorem Embedded.survives_toValue {α : Type} [Wire α] (e : Embedded α) :
  Survives (levels + 1) e.toValue
  := Cbor.survives_tag (Cbor.survives_bytes e.bytes) (by decide) (by decide)

/-- Embedded values in the same item have the same bytes. -/
theorem Embedded.bytes_eq_of_toValue_eq {α : Type} [Wire α] {e e' : Embedded α}
    (heq : e.toValue = e'.toValue) :
  e.bytes = e'.bytes
  := by
  injection heq with _ item_eq
  injection item_eq

theorem SessionTranscript.survives_toValue (t : SessionTranscript) :
  Survives (levels + 2) (Wire.toValue t)
  := by
  apply Cbor.survives_array
  intro item mem
  simp only [List.mem_cons, List.not_mem_nil, or_false] at mem
  obtain rfl | rfl | rfl := mem
  · exact t.engagement.survives_toValue
  · exact t.readerKey.survives_toValue
  · exact Cbor.survives_null

theorem DeviceAuthentication.survives_toValue (a : DeviceAuthentication) :
  Survives (levels + 3) (Wire.toValue a)
  := by
  apply Cbor.survives_array
  intro item mem
  simp only [List.mem_cons, List.not_mem_nil, or_false] at mem
  obtain rfl | rfl | rfl | rfl := mem
  · exact Cbor.survives_text a.context
  · exact a.transcript.survives_toValue
  · exact Cbor.survives_text a.docType
  · exact a.namespaces.survives_toValue

theorem ReaderAuthentication.survives_toValue (a : ReaderAuthentication) :
  Survives (levels + 3) (Wire.toValue a)
  := by
  apply Cbor.survives_array
  intro item mem
  simp only [List.mem_cons, List.not_mem_nil, or_false] at mem
  obtain rfl | rfl | rfl := mem
  · exact Cbor.survives_text a.context
  · exact a.transcript.survives_toValue
  · exact a.itemsRequest.survives_toValue

/-! ### What the items tell -/

/-- Two transcripts hold the same bytes of the engagement and of the key of the reader. -/
structure SessionTranscript.HoldsSame (t t' : SessionTranscript) : Prop where
  engagement : t.engagement.bytes = t'.engagement.bytes
  readerKey : t.readerKey.bytes = t'.readerKey.bytes

theorem SessionTranscript.holdsSame_of_toValue_eq {t t' : SessionTranscript}
    (heq : Wire.toValue t = Wire.toValue t') :
  t.HoldsSame t'
  := by
  injection heq with heq
  injection heq with engagement_eq heq
  injection heq with readerKey_eq _
  exact ⟨Embedded.bytes_eq_of_toValue_eq engagement_eq,
    Embedded.bytes_eq_of_toValue_eq readerKey_eq⟩

theorem DeviceAuthentication.eq_of_toValue_eq {a a' : DeviceAuthentication}
    (heq : Wire.toValue a = Wire.toValue a') :
  a.docType = a'.docType ∧ a.namespaces.bytes = a'.namespaces.bytes
    ∧ a.transcript.HoldsSame a'.transcript
  := by
  injection heq with heq
  injection heq with _ heq
  injection heq with transcript_eq heq
  injection heq with docType_eq heq
  injection heq with namespaces_eq _
  injection docType_eq with docType_eq
  exact ⟨docType_eq, Embedded.bytes_eq_of_toValue_eq namespaces_eq,
    SessionTranscript.holdsSame_of_toValue_eq transcript_eq⟩

theorem ReaderAuthentication.eq_of_toValue_eq {a a' : ReaderAuthentication}
    (heq : Wire.toValue a = Wire.toValue a') :
  a.itemsRequest.bytes = a'.itemsRequest.bytes ∧ a.transcript.HoldsSame a'.transcript
  := by
  injection heq with heq
  injection heq with _ heq
  injection heq with transcript_eq heq
  injection heq with itemsRequest_eq _
  exact ⟨Embedded.bytes_eq_of_toValue_eq itemsRequest_eq,
    SessionTranscript.holdsSame_of_toValue_eq transcript_eq⟩

/-! ### Which kind of payload it is -/

/-- A device authentication has one element more than a reader authentication. -/
theorem DeviceAuthentication.toValue_ne_reader (a : DeviceAuthentication)
    (b : ReaderAuthentication) :
  Wire.toValue a ≠ Wire.toValue b
  := by
  intro heq
  injection heq with heq
  injection heq with _ heq
  injection heq with _ heq
  injection heq with _ heq
  cases heq

/-- It begins with a text, and a transcript with an embedded engagement. -/
theorem DeviceAuthentication.toValue_ne_transcript (a : DeviceAuthentication)
    (t : SessionTranscript) :
  Wire.toValue a ≠ Wire.toValue t
  := by
  intro heq
  injection heq with heq
  injection heq with context_eq _
  cases context_eq

theorem ReaderAuthentication.toValue_ne_transcript (a : ReaderAuthentication)
    (t : SessionTranscript) :
  Wire.toValue a ≠ Wire.toValue t
  := by
  intro heq
  injection heq with heq
  injection heq with context_eq _
  cases context_eq

/-! ### Payloads -/

section

variable {t₁ t₂ : SessionTranscript} {docType₁ docType₂ : String}
  {namespaces₁ namespaces₂ : Embedded DeviceNamespaces} {request₁ request₂ : Embedded ItemsRequest}

/-- What is signed or authenticated, and what session keys are salted with, tells everything that
it is made of, and which kind of payload it is. -/
theorem taggedBytes_unambiguous
    (device : (taggedBytes (DeviceAuthentication.of t₁ docType₁ namespaces₁)).length
      < Cbor.headCapacity)
    (reader : (taggedBytes (ReaderAuthentication.of t₁ request₁)).length < Cbor.headCapacity)
    (transcript : (taggedBytes t₁).length < Cbor.headCapacity) :
  (taggedBytes (DeviceAuthentication.of t₁ docType₁ namespaces₁)
      = taggedBytes (DeviceAuthentication.of t₂ docType₂ namespaces₂) →
    docType₁ = docType₂ ∧ namespaces₁.bytes = namespaces₂.bytes ∧ t₁.HoldsSame t₂)
    ∧ (taggedBytes (ReaderAuthentication.of t₁ request₁)
        = taggedBytes (ReaderAuthentication.of t₂ request₂) →
      request₁.bytes = request₂.bytes ∧ t₁.HoldsSame t₂)
    ∧ (taggedBytes t₁ = taggedBytes t₂ → t₁.HoldsSame t₂)
    ∧ taggedBytes (DeviceAuthentication.of t₁ docType₁ namespaces₁)
      ≠ taggedBytes (ReaderAuthentication.of t₂ request₂)
    ∧ taggedBytes (DeviceAuthentication.of t₁ docType₁ namespaces₁) ≠ taggedBytes t₂
    ∧ taggedBytes (ReaderAuthentication.of t₁ request₁) ≠ taggedBytes t₂
  := by
  have deviceItem (a : DeviceAuthentication) : Survives 3 (Wire.toValue a) := a.survives_toValue
  have readerItem (a : ReaderAuthentication) : Survives 3 (Wire.toValue a) := a.survives_toValue
  have transcriptItem (t : SessionTranscript) : Survives 3 (Wire.toValue t) := t.survives_toValue
  refine ⟨?_, ?_, ?_, ?_, ?_, ?_⟩
  · intro heq
    exact DeviceAuthentication.eq_of_toValue_eq
      (toValue_eq_of_taggedBytes_eq (deviceItem _) (deviceItem _) device heq)
  · intro heq
    exact ReaderAuthentication.eq_of_toValue_eq
      (toValue_eq_of_taggedBytes_eq (readerItem _) (readerItem _) reader heq)
  · intro heq
    exact SessionTranscript.holdsSame_of_toValue_eq
      (toValue_eq_of_taggedBytes_eq (transcriptItem _) (transcriptItem _) transcript heq)
  · intro heq
    exact DeviceAuthentication.toValue_ne_reader _ _
      (toValue_eq_of_taggedBytes_eq (deviceItem _) (readerItem _) device heq)
  · intro heq
    exact DeviceAuthentication.toValue_ne_transcript _ _
      (toValue_eq_of_taggedBytes_eq (deviceItem _) (transcriptItem _) device heq)
  · intro heq
    exact ReaderAuthentication.toValue_ne_transcript _ _
      (toValue_eq_of_taggedBytes_eq (readerItem _) (transcriptItem _) reader heq)

end

/-- A transcript, the elements of a device and an items request with as little as they can hold. -/
def shortestParts :
    Except Refusal (SessionTranscript × Embedded DeviceNamespaces × Embedded ItemsRequest) := do
  let key ← Embedded.ofContent (⟨[], []⟩ : Cose.Key)
  let engagement ← Embedded.ofContent (DeviceEngagement.peripheral key (.ofNat 0))
  let elements : RequestedElements := ⟨.ofList [("", ⟨.ofList [("", false)], rfl⟩)], rfl⟩
  return (⟨engagement, key, .qr⟩, ← noDeviceNamespaces, ← Embedded.ofContent ⟨"", elements, none⟩)

/-- The payloads that can be made of them differ, also when only the type of the document does. -/
theorem taggedBytes_unambiguous_shortest :
  ∃ t namespaces request, shortestParts.toOption = some (t, namespaces, request)
    ∧ taggedBytes (DeviceAuthentication.of t "" namespaces)
      ≠ taggedBytes (DeviceAuthentication.of t "doc" namespaces)
    ∧ taggedBytes (DeviceAuthentication.of t "" namespaces)
      ≠ taggedBytes (ReaderAuthentication.of t request)
    ∧ taggedBytes (DeviceAuthentication.of t "" namespaces) ≠ taggedBytes t
    ∧ taggedBytes (ReaderAuthentication.of t request) ≠ taggedBytes t
  := by
  have run : shortestParts.toOption.map (fun parts =>
      ((taggedBytes (DeviceAuthentication.of parts.1 "" parts.2.1)).length,
        (taggedBytes (ReaderAuthentication.of parts.1 parts.2.2)).length,
        (taggedBytes parts.1).length)) = some (98, 123, 71) := by
    decide +kernel
  obtain ⟨⟨t, namespaces, request⟩, parts_eq, lengths_eq⟩ := Option.map_eq_some_iff.mp run
  simp only [Prod.mk.injEq] at lengths_eq
  obtain ⟨device, reader, transcript⟩ := lengths_eq
  obtain ⟨told, -, -, apart, apart', apart''⟩ := taggedBytes_unambiguous
    (device.trans_lt (by decide)) (reader.trans_lt (by decide))
    (transcript.trans_lt (by decide))
  refine ⟨t, namespaces, request, parts_eq, ?_, apart, apart', apart''⟩
  intro heq
  exact absurd (told heq).1 (by decide)

end Presentment
