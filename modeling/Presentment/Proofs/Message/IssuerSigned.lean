import Presentment.Message.IssuerSigned
import Presentment.Proofs.Cbor.Naturality
import Presentment.Proofs.Embedded

/-!
# Items as the issuer wrote them

`IssuerSigned.itemsIn` finds the items of a namespace in the bytes of a credential and leaves them
as they stand there.  When the credential is decoded these are the items that it holds, so
decoding changes none of their bytes.
-/

namespace Presentment

open Cbor (Value Wire Decoder)

theorem Embedded.toValue_of_ofValue {α : Type} [Wire α] {item : Value} {e : Embedded α}
    (h : ofValue item = .ok e) :
  e.toValue = item
  := by
  rw [ofValue.eq_def] at h
  split at h
  · rw [toValue, bytes_of_ofBytes h]
  · cases h
  · cases h

namespace IssuerSigned

/-- Reads a credential, but only finds its items, and leaves them as they stand. -/
def outline : Decoder (Option (TextMap (List Value))) :=
  Decoder.record none
    (fun (found : Option (Option (TextMap (List Value)))) => fun
      | "nameSpaces" => Decoder.once found (Decoder.nullable (Decoder.textMap Decoder.value.list)) some
      | _ => none)
    (fun found => .ok found.join)

/-- The items of a namespace in the bytes of a credential. -/
def itemsIn (bs : Bytes) (ns : String) : List Value :=
  ((outline.parse Cbor.maxLevels bs).toOption.bind (fun read => read.1.bind (·.find? ns))).getD []

/-- What stands under `nameSpaces`. -/
def unfold (namespaces : IssuerNamespaces) : TextMap (List Value) :=
  namespaces.toMap.map (fun _ items => items.toList.map Embedded.toValue)

theorem value_mapsTo :
  Decoder.value.MapsTo Decoder.value id
  := fun _ _ _ _ heq => heq

theorem embedded_mapsTo {α : Type} [Wire α] :
  (Wire.decoder : Decoder (Embedded α)).MapsTo Decoder.value Embedded.toValue
  := by
  apply value_mapsTo.of_refine
  intro item e h
  exact Embedded.toValue_of_ofValue h

theorem namespaces_mapsTo :
  (Wire.decoder : Decoder IssuerNamespaces).MapsTo (Decoder.textMap Decoder.value.list) unfold
  := by
  have items : (Wire.decoder : Decoder (NonEmptyList (Embedded IssuerSignedItem))).MapsTo
      Decoder.value.list (fun items => items.toList.map Embedded.toValue) := by
    have listed : (Wire.decoder : Decoder (Embedded IssuerSignedItem)).list.MapsTo
        Decoder.value.list (List.map Embedded.toValue) := by
      apply embedded_mapsTo.list
      intro item e h
      exact congrArg Except.ok (Embedded.toValue_of_ofValue h).symm
    apply listed.of_refine
    intro items nonEmpty h
    cases items with
    | nil => cases h
    | cons item items =>
      cases h
      rfl
  apply items.textMap.of_refine
  intro m nonEmpty h
  cases heq : NonEmptyMap.ofMap? m with
  | none =>
    rw [heq] at h
    cases h
  | some namespaces =>
    rw [heq] at h
    cases h
    rw [unfold, NonEmptyMap.ofMap?_eq_some_iff.mp heq]

theorem mapsTo_outline :
  (Wire.decoder : Decoder IssuerSigned).MapsTo outline (fun s => s.namespaces.map unfold)
  := by
  refine Decoder.MapsTo.record
    (g := fun draft : Draft => draft.namespaces.map (Option.map unfold)) rfl ?fields ?finish
  case fields =>
    intro draft name
    simp only [Decoder.fieldOf]
    split
    · rw [Decoder.once, Decoder.once, Option.isSome_map]
      cases draft.namespaces with
      | some namespaces => exact fun _ => .refuse _
      | none => exact namespaces_mapsTo.nullable.map fun _ => rfl
    · rw [Decoder.once]
      cases draft.issuerAuth with
      | some issuerAuth => exact fun _ => .refuse _
      | none =>
        -- The signature is an item like any other, which is passed over.
        have passed : (Wire.decoder : Decoder Cose.Sign1).MapsTo
            (Decoder.value.map (fun _ => draft.namespaces.map (Option.map unfold)))
            (fun _ => draft.namespaces.map (Option.map unfold)) :=
          value_mapsTo.refine fun _ _ _ => rfl
        refine Decoder.MapsTo.of_refine (g := fun a => .ok (Draft.mk draft.namespaces (some a)))
          passed ?_
        intro _ _ heq
        cases heq
        rfl
    · rename_i other _
      split
      · exact absurd rfl other
      · exact value_mapsTo.map fun _ => rfl
  case finish =>
    intro draft s h
    obtain ⟨issuerAuth, -, heq⟩ := Except.bind_eq_ok_iff.mp h
    cases heq
    cases draft.namespaces with
    | none => rfl
    | some namespaces => rfl

/-- The items of a credential are those that stand in its bytes. -/
theorem itemsIn_eq {bs : Bytes} {s : IssuerSigned} (h : Cbor.decode bs = .ok s) (ns : String) :
  itemsIn bs ns = (s.items ns).map Embedded.toValue
  := by
  rw [Cbor.decode] at h
  split at h
  · rename_i read_eq
    cases h
    have found : outline.parse Cbor.maxLevels bs = .ok (s.namespaces.map unfold, _) :=
      mapsTo_outline _ _ _ _ read_eq
    rw [itemsIn, found, items]
    cases s.namespaces with
    | none => rfl
    | some namespaces =>
      have find_eq : (unfold namespaces).find? ns
          = (namespaces.find? ns).map (fun items => items.toList.map Embedded.toValue) :=
        TextMap.find?_map _ _ _
      rw [Option.bind_some, Option.map_some, Except.toOption, Option.bind_some, Option.bind_some,
        find_eq]
      cases namespaces.find? ns with
      | none => rfl
      | some items => rfl
  · cases h

end IssuerSigned

end Presentment
