import Presentment.Message.Engagement
import Presentment.Proofs.Cose.Message
import Presentment.Proofs.Embedded
import Presentment.Proofs.Except
import Presentment.Proofs.Text.Base64

/-!
# Engagements survive

An engagement is read back from the item that stands for it, and so it survives.  At its address
it is found in the bytes in which it was written.
-/

namespace Presentment

open Cbor (Survives Value)

variable {levels : Nat}

theorem Uuid.ofBytes?_bytes (u : Uuid) :
  ofBytes? u.bytes = some u
  := dif_pos u.length_bytes

theorem EngagementSecurity.ofValue_toValue (s : EngagementSecurity) :
  Cbor.ofValue (Cbor.Wire.toValue s) = .ok s
  := by
  have suite : Cbor.Decoder.uint64.ofValue (.int s.suite.toNat) = .ok s.suite := by
    have bound := s.suite.toNat_lt
    simp only [Cbor.Decoder.uint64, Cbor.Decoder.map, Cbor.Decoder.refine, Cbor.Decoder.integer]
    change (if (0 : Int) ≤ s.suite.toNat ∧ (s.suite.toNat : Int) ≤ 0xFFFFFFFFFFFFFFFF then
      Except.ok (s.suite.toNat : Int) else .error Refusal.malformed) >>= _ = _
    rw [if_pos (by omega)]
    change Except.ok (UInt64.ofNat s.suite.toNat) = _
    rw [UInt64.ofNat_toNat]
  have key : Embedded.ofValue s.key.toValue = .ok s.key := s.key.ofValue_toValue
  have first : (Cbor.Decoder.Elements.one Cbor.Decoder.uint64).ofValues
      [.int s.suite.toNat, s.key.toValue] = .ok (s.suite, [s.key.toValue]) :=
    Except.bind_eq_ok_iff.mpr ⟨s.suite, suite, rfl⟩
  have second : (Cbor.Decoder.Elements.one Cbor.Wire.decoder).ofValues [s.key.toValue]
      = .ok (s.key, []) :=
    Except.bind_eq_ok_iff.mpr ⟨s.key, key, rfl⟩
  have fields : (Cbor.Decoder.Elements.pair (.one Cbor.Decoder.uint64)
      (.one Cbor.Wire.decoder)).ofValues [.int s.suite.toNat, s.key.toValue]
        = .ok ((s.suite, s.key), []) :=
    Except.bind_eq_ok_iff.mpr ⟨_, first, Except.bind_eq_ok_iff.mpr ⟨_, second, rfl⟩⟩
  exact Except.bind_eq_ok_iff.mpr ⟨_, Except.bind_eq_ok_iff.mpr ⟨_, fields, rfl⟩, rfl⟩

namespace BleOptions

theorem service?_bytes (u : Uuid) :
  service? (some (.bytes u.bytes)) = .ok (some u)
  := by
  rw [service?, Uuid.ofBytes?_bytes]

theorem ofValue_toValue (options : BleOptions) :
  ofValue options.toValue = .ok options
  := by
  obtain ⟨peripheral, central⟩ := options
  cases peripheral with
  | none =>
    cases central with
    | none => rfl
    | some central =>
      change (do
        let central ← service? (some (.bytes central.bytes))
        return (⟨none, central.filter (fun _ => true)⟩ : BleOptions)) = _
      rw [service?_bytes]
      rfl
  | some peripheral =>
    cases central with
    | none =>
      change (do
        let peripheral ← service? (some (.bytes peripheral.bytes))
        return (⟨peripheral.filter (fun _ => true), none⟩ : BleOptions)) = _
      rw [service?_bytes]
      rfl
    | some central =>
      change (do
        let peripheral ← service? (some (.bytes peripheral.bytes))
        let central ← service? (some (.bytes central.bytes))
        return (⟨peripheral.filter (fun _ => true), central.filter (fun _ => true)⟩ :
          BleOptions)) = _
      rw [service?_bytes, service?_bytes]
      rfl

theorem survives_toValue (options : BleOptions) :
  Survives (levels + 2) options.toValue
  := by
  have entries : Survives (levels + 1) (Value.map
      ([(.int 0, .bool options.peripheral.isSome), (.int 1, .bool options.central.isSome)]
        ++ options.peripheral.toList.map (fun uuid => (.int 10, .bytes uuid.bytes))
        ++ options.central.toList.map (fun uuid => (.int 11, .bytes uuid.bytes)))) := by
    apply Cbor.survives_map
    intro entry hentry
    simp only [List.mem_append, List.mem_cons, List.not_mem_nil, or_false, List.mem_map] at hentry
    obtain ((rfl | rfl) | ⟨uuid, -, rfl⟩) | ⟨uuid, -, rfl⟩ := hentry
    · exact ⟨Cbor.survives_int rfl, Cbor.survives_bool _⟩
    · exact ⟨Cbor.survives_int rfl, Cbor.survives_bool _⟩
    · exact ⟨Cbor.survives_int rfl, Cbor.survives_bytes _⟩
    · exact ⟨Cbor.survives_int rfl, Cbor.survives_bytes _⟩
  apply Cbor.survives_array
  intro item hitem
  simp only [List.mem_cons, List.not_mem_nil, or_false] at hitem
  obtain rfl | rfl | rfl := hitem
  · exact Cbor.survives_int rfl
  · exact Cbor.survives_int rfl
  · exact entries

end BleOptions

namespace DeviceEngagement

theorem ofValue_toValue (e : DeviceEngagement) :
  ofValue e.toValue = .ok e
  := by
  obtain ⟨security, methods⟩ := e
  cases methods with
  | none =>
    change (do
      let security ← (Cbor.ofValue (Cbor.Wire.toValue security)).mapError
        (fun _ => EngagementError.malformed)
      return (⟨security, none⟩ : DeviceEngagement)) = _
    rw [EngagementSecurity.ofValue_toValue]
    rfl
  | some methods =>
    have read : (methods.toList.map BleOptions.toValue).mapM BleOptions.ofValue
        = .ok methods.toList := by
      rw [Except.mapM_eq_ok_iff, List.forall₂_map_left_iff, List.forall₂_same]
      exact fun options _ => options.ofValue_toValue
    have same : NonEmptyList.ofList? methods.toList = some methods :=
      NonEmptyList.ofList?_eq_some_iff.mpr rfl
    simp [ofValue, toValue, integerLabelled, labelled?, Cose.Key.lastEntry?, version,
      EngagementSecurity.ofValue_toValue, Except.mapError, read, bind, Except.bind, pure,
      Except.pure, same]

theorem survives (e : DeviceEngagement) :
  Survives (levels + 4) e
  := by
  have security : Survives (levels + 3)
      (Value.array [.int e.security.suite.toNat, e.security.key.toValue]) := by
    apply Cbor.survives_array
    intro item hitem
    simp only [List.mem_cons, List.not_mem_nil, or_false] at hitem
    obtain rfl | rfl := hitem
    · apply Cbor.survives_int
      have bound := e.security.suite.toNat_lt
      simp only [Value.fitsHead, Bool.and_eq_true, decide_eq_true_eq]
      omega
    · exact Cbor.survives_tag (Cbor.survives_bytes _) (by decide) (by decide)
  have methods (methods : NonEmptyList BleOptions) : Survives (levels + 3)
      (Value.array (methods.toList.map BleOptions.toValue)) := by
    apply Cbor.survives_array
    intro item hitem
    obtain ⟨options, -, rfl⟩ := List.mem_map.mp hitem
    exact options.survives_toValue
  have item : Survives (levels + 4) e.toValue := by
    apply Cbor.survives_map
    intro entry hentry
    simp only [List.mem_append, List.mem_cons, List.not_mem_nil, or_false, List.mem_map] at hentry
    obtain (rfl | rfl) | ⟨list, -, rfl⟩ := hentry
    · exact ⟨Cbor.survives_int rfl, Cbor.survives_text _⟩
    · exact ⟨Cbor.survives_int rfl, security⟩
    · exact ⟨Cbor.survives_int rfl, methods list⟩
  apply Cbor.Decoder.Restores.refine item
  rw [ofValue_toValue]
  rfl

/-- An engagement is not much longer than its key. -/
theorem length_encode_peripheral_le (key : Embedded Cose.Key) (service : Uuid) :
  (Cbor.encode (peripheral key service)).length ≤ key.bytes.length + 200
  := by
  have keyItem := (Value.length_encode_tag 24 (.bytes key.bytes)).2
  have keyBytes := (Value.length_encode_bytes key.bytes).2
  have uuidBytes := (Value.length_encode_bytes service.bytes).2
  rw [service.length_bytes] at uuidBytes
  have small : (Value.int 0).encode.length = 1 ∧ (Value.int 1).encode.length = 1
    ∧ (Value.int 2).encode.length = 1 ∧ (Value.int 10).encode.length = 1
    ∧ (Value.bool true).encode.length = 1 ∧ (Value.bool false).encode.length = 1
    ∧ (Value.text version).encode.length = 4 := ⟨rfl, rfl, rfl, rfl, rfl, rfl, rfl⟩
  have security := Value.length_encode_array_le [.int 1, .tag 24 (.bytes key.bytes)]
  have options := Value.length_encode_map_le
    [(.int 0, .bool true), (.int 1, .bool false), (.int 10, .bytes service.bytes)]
  have method := Value.length_encode_array_le [.int 2, .int 1, .map
    [(.int 0, .bool true), (.int 1, .bool false), (.int 10, .bytes service.bytes)]]
  have methods := Value.length_encode_array_le [.array [.int 2, .int 1, .map
    [(.int 0, .bool true), (.int 1, .bool false), (.int 10, .bytes service.bytes)]]]
  have whole := Value.length_encode_map_le [(.int 0, .text version),
    (.int 1, .array [.int 1, .tag 24 (.bytes key.bytes)]),
    (.int 2, .array [.array [.int 2, .int 1, .map
      [(.int 0, .bool true), (.int 1, .bool false), (.int 10, .bytes service.bytes)]]])]
  simp only [List.map_cons, List.map_nil, List.sum_cons, List.sum_nil]
    at security options method methods whole
  apply Nat.le_trans whole
  omega

/-- The engagement at its own address is the same, in the same bytes. -/
theorem ofUri_toUri (e : Embedded DeviceEngagement) :
  ofUri (toUri e) = .ok e
  := by
  have begins : scheme.toList.isPrefixOf (toUri e).toList := by
    rw [toUri, String.toList_append, List.isPrefixOf_iff_prefix]
    exact List.prefix_append _ _
  have encoded : (toUri e).toList.drop scheme.length = (Base64.encode Base64.url e.bytes).toList := by
    rw [toUri, String.toList_append]
    exact List.drop_left' rfl
  rw [ofUri, begins, encoded, String.ofList_toList]
  dsimp only
  rw [Base64.decode?_encode Base64.url_isProper]
  change (Embedded.ofBytes e.bytes).mapError UriError.content = _
  rw [Embedded.ofBytes_bytes]
  rfl

end DeviceEngagement

end Presentment
