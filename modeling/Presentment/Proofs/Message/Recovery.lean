import Presentment.Proofs.Cbor.Recovery
import Presentment.Proofs.Message.Response

/-!
# What is recovered of a response

Signatures and proofs may be read back as others, or not at all: their headers hold items of any
kind.  But a response that is read from the bytes of another returns the same documents with the
same items, and with the same proofs of their device keys if those can be read back at all.
-/

namespace Presentment

open Cbor (Wire Survives)
open Cbor.Decoder (Recovers GathersOnly recovers_value recovers_integer recovers_nonEmptyList
  recovers_textMap recovers_nonEmptyMap recovers_record recovers_variant)

variable {levels : Nat}

theorem Cose.Message.recovers {kind : Proof} (m : Message kind) :
  (Wire.decoder : Cbor.Decoder (Message kind)).Recovers levels m.toValue (fun _ => True)
  := (recovers_value _).refine fun _ _ _ _ => trivial

/-- The items of a credential are recovered whether its signature is or not. -/
theorem IssuerSigned.recovers (s : IssuerSigned) :
  Wire.decoder.Recovers (levels + 4) (Wire.toValue s)
    (fun read : IssuerSigned => read.namespaces = s.namespaces)
  := by
  refine recovers_record
    (P := fun draft : Draft => draft.namespaces.join = s.namespaces) ?fields ?finish
  case fields =>
    apply GathersOnly.optional (fun draft : Draft => draft.namespaces.join = s.namespaces)
      (by decide) rfl (R := fun namespaces read => read = namespaces)
    · exact fun namespaces => (IssuerNamespaces.survives namespaces).recovers rfl
    · exact fun _ => rfl
    · exact fun absent => absent.symm
    · rintro namespaces present _ rfl
      exact present.symm
    · intro draft hdraft
      apply GathersOnly.required (by decide) rfl s.issuerAuth.recovers
      exact fun _ _ => hdraft
  case finish =>
    intro draft read hdraft hread
    obtain ⟨issuerAuth, -, heq⟩ := Except.bind_eq_ok_iff.mp hread
    cases heq
    exact hdraft

theorem DeviceAuth.recovers (auth : DeviceAuth) :
  Wire.decoder.Recovers (levels + 1) (Wire.toValue auth) (fun _ : DeviceAuth => True)
  := by
  cases auth with
  | signature message =>
    exact recovers_variant (by decide) rfl ((Cose.Message.recovers message).map fun _ _ => trivial)
  | mac message =>
    exact recovers_variant (by decide) rfl ((Cose.Message.recovers message).map fun _ _ => trivial)

/-- What the holder proves is recovered as it is, if it can be read back. -/
theorem DeviceSigned.recovers (s : DeviceSigned) :
  Wire.decoder.Recovers (levels + 2) (Wire.toValue s)
    (fun read : DeviceSigned => Survives (levels + 2) s → read = s)
  := by
  have whole : Wire.decoder.Recovers (levels + 2) (Wire.toValue s)
      (fun _ : DeviceSigned => True) := by
    refine recovers_record (P := fun _ => True) ?fields fun _ _ _ _ => trivial
    case fields =>
      apply GathersOnly.required (by decide) rfl (s.namespaces.survives.recovers (P := (· = _)) rfl)
      intro _ _
      apply GathersOnly.required (by decide) rfl s.deviceAuth.recovers
      exact fun _ _ => trivial
  exact whole.restored.imp fun _ recovered => recovered s

theorem ErrorCode.recovers (c : ErrorCode) :
  Wire.decoder.Recovers levels (Wire.toValue c) (fun _ : ErrorCode => True)
  := (recovers_integer _ _ _).map fun _ _ => trivial

theorem ElementErrors.recovers (errors : ElementErrors) :
  Wire.decoder.Recovers (levels + 2) (Wire.toValue errors) (fun _ : ElementErrors => True)
  := by
  apply recovers_nonEmptyMap
  intro entry _
  apply recovers_nonEmptyMap
  exact fun entry' _ => entry'.2.recovers

/-! ### Documents -/

/-- Two documents of one type hold the same items, and the same proof of the device key if the one
of the first survives. -/
structure Document.HoldsSame (d d' : Document) : Prop where
  docType : d'.docType = d.docType
  namespaces : d'.issuerSigned.namespaces = d.issuerSigned.namespaces
  deviceSigned : (∀ signed ∈ d.deviceSigned, ∀ levels, Survives (levels + 4) signed) →
    d'.deviceSigned = d.deviceSigned

theorem Document.HoldsSame.items_eq {d d' : Document} (h : d.HoldsSame d') (ns : String) :
  d'.issuerSigned.items ns = d.issuerSigned.items ns
  := by
  rw [IssuerSigned.items, IssuerSigned.items, h.namespaces]

/-- What was gathered of a document: its type, its items, and the proof of its device key. -/
structure Document.Draft.IsOf (levels : Nat) (d : Document) (draft : Draft) : Prop where
  docType : draft.docType = some d.docType
  namespaces : draft.issuerSigned.map (·.namespaces) = some d.issuerSigned.namespaces
  deviceSigned : (∀ signed ∈ d.deviceSigned, Survives (levels + 4) signed) →
    draft.deviceSigned.join = d.deviceSigned

theorem Document.recovers (d : Document) :
  Wire.decoder.Recovers (levels + 5) (Wire.toValue d) d.HoldsSame
  := by
  refine recovers_record (P := Draft.IsOf levels d) ?fields ?finish
  case fields =>
    apply GathersOnly.required (by decide) rfl
      ((Cbor.Decoder.restores_text d.docType).recovers (P := (· = d.docType)) rfl)
    rintro _ rfl
    apply GathersOnly.required (by decide) rfl d.issuerSigned.recovers
    intro issuerSigned hissuerSigned
    apply GathersOnly.optional (Draft.IsOf levels d) (by decide) rfl DeviceSigned.recovers
      (fun _ => rfl)
    · exact fun absent => ⟨rfl, congrArg some hissuerSigned, fun _ => absent.symm⟩
    · intro signed present read hread
      refine ⟨rfl, congrArg some hissuerSigned, ?_⟩
      intro survives
      rw [Option.mem_def.mp present, ← hread (survives signed present)]
      rfl
    intro draft hdraft
    apply GathersOnly.optional (Draft.IsOf levels d) (by decide) rfl ElementErrors.recovers
      (fun _ => rfl)
    · exact fun _ => hdraft
    · exact fun _ _ _ _ => ⟨hdraft.docType, hdraft.namespaces, hdraft.deviceSigned⟩
    exact fun _ hdraft => hdraft
  case finish =>
    intro draft read hdraft hread
    obtain ⟨docType, hdocType, hread⟩ := Except.bind_eq_ok_iff.mp hread
    obtain ⟨issuerSigned, hissuerSigned, hread⟩ := Except.bind_eq_ok_iff.mp hread
    cases hread
    have docType_eq := Cbor.Decoder.required_eq_ok_iff.mp hdocType
    have issuerSigned_eq := Cbor.Decoder.required_eq_ok_iff.mp hissuerSigned
    have namespaces_eq := hdraft.namespaces
    rw [issuerSigned_eq] at namespaces_eq
    exact ⟨Option.some.inj (docType_eq.symm.trans hdraft.docType), Option.some.inj namespaces_eq,
      fun survives => hdraft.deviceSigned fun signed present => survives signed present levels⟩

/-! ### The response -/

/-- The documents of two responses hold the same, one after the other. -/
def Document.AllHoldSame (documents documents' : Option (NonEmptyList Document)) : Prop :=
  Option.Rel (fun written read => List.Forall₂ HoldsSame written.toList read.toList)
    documents documents'

theorem Document.AllHoldSame.forall₂ {documents documents' : Option (NonEmptyList Document)}
    (h : AllHoldSame documents documents') :
  List.Forall₂ HoldsSame (documents.elim [] NonEmptyList.toList)
    (documents'.elim [] NonEmptyList.toList)
  := by
  cases h with
  | none => exact .nil
  | some holds => exact holds

/-- The documents that are read from the bytes of a response are those that were written. -/
theorem DeviceResponse.recovers (r : DeviceResponse) :
  Wire.decoder.Recovers (levels + 7) (Wire.toValue r)
    (fun read : DeviceResponse => Document.AllHoldSame r.documents read.documents)
  := by
  refine recovers_record
    (P := fun draft : Draft => Document.AllHoldSame r.documents draft.documents.join)
    ?fields ?finish
  case fields =>
    apply GathersOnly.required (by decide) rfl
      ((Cbor.Decoder.restores_text r.version).recovers (P := (· = _)) rfl)
    intro version _
    apply GathersOnly.optional
      (fun draft : Draft => Document.AllHoldSame r.documents draft.documents.join) (by decide) rfl
    · exact fun documents => recovers_nonEmptyList fun d _ => d.recovers
    · exact fun _ => rfl
    · intro absent
      rw [absent]
      exact .none
    · intro written present documents h
      rw [present]
      exact .some h
    intro draft hdraft
    apply GathersOnly.optional
      (fun draft : Draft => Document.AllHoldSame r.documents draft.documents.join) (by decide) rfl
      (R := fun _ _ => True)
    · intro errors
      apply (recovers_nonEmptyList (R := fun _ _ => True) fun error _ => ?_).imp fun _ _ => trivial
      exact recovers_textMap fun entry _ => entry.2.recovers
    · exact fun _ => rfl
    · exact fun _ => hdraft
    · exact fun _ _ _ _ => hdraft
    intro draft hdraft
    apply GathersOnly.required (by decide) rfl (r.status.survives.recovers (P := (· = _)) rfl)
    exact fun _ _ => hdraft
  case finish =>
    intro draft read hdraft hread
    obtain ⟨version, -, hread⟩ := Except.bind_eq_ok_iff.mp hread
    obtain ⟨status, -, hread⟩ := Except.bind_eq_ok_iff.mp hread
    cases hread
    exact hdraft

end Presentment
