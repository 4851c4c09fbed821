import Presentment.Cose.Message
import Presentment.Cose.Key
import Presentment.Proofs.Cbor.Decoder

/-!
# Keys and messages survive

A public key is read back from its bytes, and so is a message whose headers are.
-/

namespace Presentment.Cose

open Cbor (Survives Value)

variable {levels : Nat}

theorem Key.ofValue_toValue (key : Key) :
  ofValue key.toValue = .ok key
  := rfl

theorem Key.survives (key : Key) :
  Survives (levels + 1) key
  := by
  have item : Survives (levels + 1) key.toValue := by
    apply Cbor.survives_map
    intro entry hentry
    simp only [List.mem_cons, List.not_mem_nil, or_false] at hentry
    obtain rfl | rfl | rfl | rfl := hentry
    · exact ⟨Cbor.survives_int rfl, Cbor.survives_int rfl⟩
    · exact ⟨Cbor.survives_int rfl, Cbor.survives_int rfl⟩
    · exact ⟨Cbor.survives_int rfl, Cbor.survives_bytes key.x⟩
    · exact ⟨Cbor.survives_int rfl, Cbor.survives_bytes key.y⟩
  apply Cbor.Decoder.Restores.refine item
  rw [Key.ofValue_toValue]
  rfl

/-- The coordinates of a key have their full width. -/
def Key.IsWide (key : Key) : Prop :=
  key.x.length = 32 ∧ key.y.length = 32

theorem Key.length_encode_le {key : Key} (h : key.IsWide) :
  (Cbor.encode key).length ≤ 100
  := by
  have x := (Value.length_encode_bytes key.x).2
  have y := (Value.length_encode_bytes key.y).2
  have labels : (Value.int 1).encode.length = 1 ∧ (Value.int 2).encode.length = 1
    ∧ (Value.int (-1)).encode.length = 1 ∧ (Value.int (-2)).encode.length = 1
    ∧ (Value.int (-3)).encode.length = 1 := ⟨rfl, rfl, rfl, rfl, rfl⟩
  have whole := Value.length_encode_map_le [(.int 1, .int 2), (.int (-1), .int 1),
    (.int (-2), .bytes key.x), (.int (-3), .bytes key.y)]
  rw [h.1] at x
  rw [h.2] at y
  simp only [List.map_cons, List.map_nil, List.sum_cons, List.sum_nil] at whole
  apply Nat.le_trans whole
  omega

/-- The headers of a message are read back from their items. -/
structure Message.IsReadable {kind : Proof} (levels : Nat) (m : Message kind) : Prop where
  protected_eq : Header.ofBytes m.protectedHeader.bytes = .ok m.protectedHeader.header
  unprotected_eq : Header.ofValue m.unprotectedHeader.toValue = .ok m.unprotectedHeader
  survives_unprotected : Survives levels m.unprotectedHeader.toValue

theorem Message.IsReadable.ofValue_toValue {kind : Proof} {m : Message kind}
    (h : m.IsReadable levels) :
  ofValue m.toValue = .ok m
  := by
  obtain ⟨⟨bytes, header⟩, unprotectedHeader, payload, proof⟩ := m
  obtain ⟨protected_eq, unprotected_eq, -⟩ := h
  cases payload with
  | none =>
    simp only [Message.ofValue, Message.toValue, Option.elim, pure_bind]
    rw [unprotected_eq]
    change (do
      let header ← Header.ofBytes bytes
      return ⟨⟨bytes, header⟩, unprotectedHeader, none, proof⟩ : Except Error (Message kind)) = _
    rw [protected_eq]
    rfl
  | some payload =>
    simp only [Message.ofValue, Message.toValue, Option.elim, pure_bind]
    rw [unprotected_eq]
    change (do
      let header ← Header.ofBytes bytes
      return ⟨⟨bytes, header⟩, unprotectedHeader, some payload, proof⟩ :
        Except Error (Message kind)) = _
    rw [protected_eq]
    rfl

theorem Message.IsReadable.survives {kind : Proof} {m : Message kind}
    (h : m.IsReadable levels) :
  Survives (levels + 1) m
  := by
  have payload : Survives levels (m.payload.elim .null Value.bytes) := by
    cases m.payload with
    | none => exact Cbor.survives_null
    | some payload => exact Cbor.survives_bytes payload
  have item : Survives (levels + 1) m.toValue := by
    apply Cbor.survives_array
    intro item hitem
    simp only [List.mem_cons, List.not_mem_nil, or_false] at hitem
    obtain rfl | rfl | rfl | rfl := hitem
    · exact Cbor.survives_bytes _
    · exact h.survives_unprotected
    · exact payload
    · exact Cbor.survives_bytes _
  apply Cbor.Decoder.Restores.refine item
  rw [h.ofValue_toValue]
  rfl

/-! ### Headers with one entry -/

theorem Header.ofValue_empty :
  Header.ofValue Header.empty.toValue = .ok .empty
  := by
  change Header.ofValueWithin _ (.map []) = _
  rw [Header.ofValueWithin, Header.readEntries]
  change Except.ok (Header.mk (List.mergeSort [] _)) = _
  rw [List.mergeSort_nil]
  rfl

/-- An entry that may stand in a header by itself, in the form in which it is written. -/
structure Header.IsEntry (label : Label) (item : Value) : Prop where
  label_eq : Label.ofValue label.toValue = .ok label
  item_eq : ∀ signature, Header.normalizeEntry signature label item = .ok item
  ne_iv : label ≠ .iv

theorem Header.ofValueWithin_singleton {label : Label} {item : Value}
    (h : Header.IsEntry label item) (fuel : Nat) :
  Header.ofValueWithin fuel (Header.mk [(label, item)]).toValue = .ok ⟨[(label, item)]⟩
  := by
  change Header.ofValueWithin fuel (.map [(label.toValue, item)]) = _
  have entries (signature : Value → Except Error Value) :
      Header.readEntries signature [] [(label.toValue, item)] = .ok [(label, item)] := by
    simp [Header.readEntries, h.label_eq, h.item_eq, h.ne_iv, bind, Except.bind]
  rw [Header.ofValueWithin, entries]
  change Except.ok (Header.mk (List.mergeSort [(label, item)] _)) = _
  rw [List.mergeSort_singleton]

/-- A header that was written is read back, also when it is protected. -/
theorem Header.ofBytes_singleton {label : Label} {item : Value}
    (h : Header.IsEntry label item)
    (survives : Survives Cbor.maxLevels (Header.mk [(label, item)]).toValue)
    (short : (Header.mk [(label, item)]).toBytes.length < Cbor.headCapacity) :
  Header.ofBytes (Header.mk [(label, item)]).toBytes = .ok ⟨[(label, item)]⟩
  := by
  have parsed : Header.itemOfBytes (Header.mk [(label, item)]).toBytes
      = .ok (Header.mk [(label, item)]).toValue := by
    have read := survives short []
    rw [List.append_nil] at read
    rw [Header.itemOfBytes]
    have parsed : Cbor.Value.parse Cbor.maxLevels (Header.mk [(label, item)]).toBytes
      = .ok ((Header.mk [(label, item)]).toValue, []) := read
    rw [parsed]
  have nonempty : ¬(Header.mk [(label, item)]).toBytes.isEmpty := by
    rw [List.isEmpty_iff]
    exact Cbor.Value.encode_ne_nil _
  rw [Header.ofBytes, Header.ofBytesWithin, if_neg nonempty, parsed]
  exact Header.ofValueWithin_singleton h _

/-- A message with a detached payload that names its algorithm. -/
theorem Message.isReadable_detached {kind : Proof} {n : Int} {unprotectedHeader : Header}
    {payload : Bytes} {prove : Bytes → Bytes} (hn : isAlgorithm n) (fits : Value.fitsHead n)
    (short : (Header.mk [(.algorithm, .int n)]).toBytes.length < Cbor.headCapacity)
    (unprotected_eq : Header.ofValue unprotectedHeader.toValue = .ok unprotectedHeader)
    (survives : Survives levels unprotectedHeader.toValue) :
  (Message.detached kind ⟨[(.algorithm, .int n)]⟩ unprotectedHeader payload prove).IsReadable levels
  := by
  have entry : Header.IsEntry .algorithm (.int n) := by
    constructor
    case label_eq => rfl
    case item_eq =>
      intro signature
      simp [Header.normalizeEntry, Label.algorithm, Header.checkAssigned, hn, bind, Except.bind,
        pure, Except.pure]
    case ne_iv => decide
  constructor
  case protected_eq =>
    apply Header.ofBytes_singleton entry _ short
    apply Cbor.survives_map
    intro entry hentry
    rw [List.mem_singleton.mp hentry]
    exact ⟨Cbor.survives_int rfl, Cbor.survives_int fits⟩
  case unprotected_eq => exact unprotected_eq
  case survives_unprotected => exact survives

end Presentment.Cose
