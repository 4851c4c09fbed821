import Presentment.Proofs.Message.Engagement
import Presentment.Proofs.TextMap

/-!
# What an engagement says

The items that stand for an engagement leave room: they may repeat labels, carry others and name
services whose mode is switched off.  Reading one keeps what the last entry with each label says,
and writes it so that it is read again; at its address the engagement is found in the very bytes
that were read.
-/

namespace Presentment

open Cbor (Value)

/-! ### Last entries -/

/-- The last entry with an integer label. -/
def IsLast (entries : List (Value × Value)) (label : Int) (item : Value) : Prop :=
  ∃ before after, entries = before ++ (.int label, item) :: after
    ∧ ∀ entry ∈ after, entry.1 ≠ .int label

section

variable {entries : List (Value × Value)} {label : Int} {item : Value}

theorem labelled?_append (before after : List (Value × Value)) (label : Int) :
  labelled? (before ++ after) label = (labelled? after label).or (labelled? before label)
  := by
  rw [labelled?, Cose.Key.lastEntry?, List.reverse_append, List.findSome?_append]
  rfl

theorem labelled?_singleton_iff {entry : Value × Value} :
  labelled? [entry] label = some item ↔ entry = (.int label, item)
  := by
  obtain ⟨key, value⟩ := entry
  cases key <;> simp [labelled?, Cose.Key.lastEntry?]

theorem labelled?_eq_none_iff :
  labelled? entries label = none ↔ ∀ entry ∈ entries, entry.1 ≠ .int label
  := by
  induction entries with
  | nil => simp [labelled?, Cose.Key.lastEntry?]
  | cons entry entries ih =>
    have alone : labelled? [entry] label = none ↔ entry.1 ≠ .int label := by
      obtain ⟨key, value⟩ := entry
      simp [Option.eq_none_iff_forall_ne_some, labelled?_singleton_iff]
    rw [← List.singleton_append, labelled?_append, Option.or_eq_none_iff, ih, alone, and_comm,
      List.singleton_append, List.forall_mem_cons]

theorem labelled?_eq_some_iff :
  labelled? entries label = some item ↔ IsLast entries label item
  := by
  constructor
  · intro h
    induction entries with
    | nil => cases h
    | cons entry entries ih =>
      rw [← List.singleton_append, labelled?_append, Option.or_eq_some_iff] at h
      rcases h with h | ⟨absent, h⟩
      · obtain ⟨before, after, rfl, absent⟩ := ih h
        exact ⟨entry :: before, after, rfl, absent⟩
      · rw [labelled?_singleton_iff.mp h]
        exact ⟨[], entries, rfl, labelled?_eq_none_iff.mp absent⟩
  · rintro ⟨before, after, rfl, absent⟩
    rw [labelled?_append, ← List.singleton_append, labelled?_append,
      labelled?_eq_none_iff.mpr absent, labelled?_singleton_iff.mpr rfl]
    rfl

end

/-! ### Retrieval methods -/

theorem Uuid.ofBytes?_eq_some_iff {bs : Bytes} {uuid : Uuid} :
  ofBytes? bs = some uuid ↔ bs = uuid.bytes
  := by
  constructor
  · intro h
    rw [ofBytes?] at h
    split at h
    · cases h
      rfl
    · cases h
  · rintro rfl
    exact ofBytes?_bytes uuid

theorem Cose.Key.int?_eq_some_iff {item : Value} {n : Int} :
  int? item = some n ↔ item = .int n
  := by
  cases item <;> simp [int?]

namespace BleOptions

variable {options : BleOptions} {entries : List (Value × Value)} {item : Value}

/-- The options name just the services whose mode is switched on. -/
structure Names (options : BleOptions) (entries : List (Value × Value)) : Prop where
  peripheral_iff (uuid : Uuid) : options.peripheral = some uuid
    ↔ IsLast entries 0 (.bool true) ∧ IsLast entries 10 (.bytes uuid.bytes)
  central_iff (uuid : Uuid) : options.central = some uuid
    ↔ IsLast entries 1 (.bool true) ∧ IsLast entries 11 (.bytes uuid.bytes)

/-- An item is a retrieval method with these options. -/
def IsMethod (item : Value) (options : BleOptions) : Prop :=
  ∃ entries rest, item = .array (.int 2 :: .int 1 :: .map entries :: rest) ∧ options.Names entries

theorem service?_eq_some_iff {item : Option Value} {service : Option Uuid}
    (h : service? item = .ok service) (uuid : Uuid) :
  service = some uuid ↔ item = some (.bytes uuid.bytes)
  := by
  rw [service?.eq_def] at h
  split at h
  · cases h
    simp
  · rename_i bs
    split at h
    · rename_i uuid' uuid_eq
      cases h
      rw [← uuid_eq, Uuid.ofBytes?_eq_some_iff, Option.some_inj, Value.bytes.injEq]
    · cases h
  · cases h

/-- A service is kept if its mode is switched on. -/
theorem filter_eq_some_iff {mode number : Int} {service : Option Uuid} {uuid : Uuid}
    (h : service? (labelled? entries number) = .ok service) :
  service.filter (fun _ => labelled? entries mode matches some (.bool true)) = some uuid
    ↔ IsLast entries mode (.bool true) ∧ IsLast entries number (.bytes uuid.bytes)
  := by
  have on : (labelled? entries mode matches some (.bool true)) = true
      ↔ labelled? entries mode = some (.bool true) := by
    split
    · exact iff_of_true rfl ‹_›
    · rename_i off
      exact iff_of_false Bool.false_ne_true off
  rw [Option.filter_eq_some_iff, service?_eq_some_iff h, on, labelled?_eq_some_iff,
    labelled?_eq_some_iff, and_comm]

theorem names_of_ofEntries (h : ofEntries entries = .ok options) :
  options.Names entries
  := by
  rw [ofEntries] at h
  split at h
  · cases h
  · obtain ⟨peripheral, peripheral_eq, h⟩ := Except.bind_eq_ok_iff.mp h
    obtain ⟨central, central_eq, h⟩ := Except.bind_eq_ok_iff.mp h
    cases h
    exact ⟨fun uuid => filter_eq_some_iff peripheral_eq, fun uuid => filter_eq_some_iff central_eq⟩

/-- What is read as a retrieval method is one. -/
theorem isMethod_of_ofValue (h : ofValue item = .ok options) :
  IsMethod item options
  := by
  rw [ofValue.eq_def] at h
  split at h
  · rename_i transport edition content rest
    dsimp only at h
    by_cases bearer : Cose.Key.int? transport = some 2
    · by_cases first : Cose.Key.int? edition = some 1
      · rw [if_neg (not_not.mpr bearer), if_neg (not_not.mpr first)] at h
        cases content with
        | map entries =>
          rw [Cose.Key.int?_eq_some_iff.mp bearer, Cose.Key.int?_eq_some_iff.mp first]
          exact ⟨entries, rest, rfl, names_of_ofEntries h⟩
        | _ => cases h
      · rw [if_neg (not_not.mpr bearer), if_pos first] at h
        cases h
    · rw [if_pos bearer] at h
      cases h
  · cases h

theorem forall₂_isMethod {items : List Value} {read : List BleOptions}
    {methods : NonEmptyList BleOptions} (read_eq : items.mapM ofValue = .ok read)
    (methods_eq : NonEmptyList.ofList? read = some methods) :
  List.Forall₂ IsMethod items methods.toList
  := by
  rw [NonEmptyList.ofList?_eq_some_iff.mp methods_eq]
  exact (Except.mapM_eq_ok_iff.mp read_eq).imp fun _ _ => isMethod_of_ofValue

end BleOptions

namespace DeviceEngagement

/-- A map lists these retrieval methods, if any. -/
inductive Lists (entries : List (Value × Value)) : Option (NonEmptyList BleOptions) → Prop
  | nothing (absent : ∀ entry ∈ entries, entry.1 ≠ .int 2) : Lists entries none
  | methods {items : List Value} {methods : NonEmptyList BleOptions}
      (last : IsLast entries 2 (.array items))
      (each : List.Forall₂ BleOptions.IsMethod items methods.toList) :
      Lists entries (some methods)

/-- The last entries of a map describe an engagement. -/
structure Describes (entries : List (Value × Value)) (e : DeviceEngagement) : Prop where
  version : IsLast entries 0 (.text version)
  security : ∃ item, IsLast entries 1 item ∧ Cbor.ofValue item = .ok e.security
  methods : Lists entries e.methods

/-- What is read as an engagement is a map that describes it. -/
theorem exists_describes_of_ofValue {item : Value} {e : DeviceEngagement} (h : ofValue item = .ok e) :
  ∃ entries, item = .map entries ∧ Describes entries e
  := by
  rw [ofValue.eq_def] at h
  split at h
  case h_2 => cases h
  rename_i entries
  use entries, rfl
  dsimp only at h
  split at h
  case isTrue => cases h
  split at h
  case h_2 => cases h
  rename_i text text_eq
  split at h
  case isTrue => cases h
  rename_i same
  split at h
  case h_2 => cases h
  rename_i content content_eq
  obtain ⟨security, security_eq, h⟩ := Except.bind_eq_ok_iff.mp h
  have version_last : IsLast entries 0 (.text version) := by
    rw [← not_not.mp same]
    exact labelled?_eq_some_iff.mp text_eq
  have security_last : ∃ item, IsLast entries 1 item ∧ Cbor.ofValue item = .ok security :=
    ⟨content, labelled?_eq_some_iff.mp content_eq, Except.mapError_eq_ok_iff.mp security_eq⟩
  split at h
  · rename_i absent
    cases h
    exact ⟨version_last, security_last, .nothing (labelled?_eq_none_iff.mp absent)⟩
  · rename_i items last
    obtain ⟨read, read_eq, h⟩ := Except.bind_eq_ok_iff.mp h
    split at h
    · rename_i methods methods_eq
      cases h
      exact ⟨version_last, security_last, .methods (labelled?_eq_some_iff.mp last)
        (BleOptions.forall₂_isMethod read_eq methods_eq)⟩
    · cases h
  · cases h

/-- The engagement codec loses nothing.  An engagement is read back from the item that stands for
it, whatever its suite, its key and its methods; one that was read from any item says what the last
entries of that item say, reports just the services that those of its methods switch on, and is
read again from the item that it is written as; and whatever bytes were accepted, the address of
the engagement leads to the same engagement in the same bytes. -/
theorem codec_isLossless :
  (∀ e : DeviceEngagement, ofValue e.toValue = .ok e)
    ∧ (∀ item e, ofValue item = .ok e →
      (∃ entries, item = .map entries ∧ Describes entries e) ∧ ofValue e.toValue = .ok e)
    ∧ ∀ bytes (e : Embedded DeviceEngagement), Embedded.ofBytes bytes = .ok e →
      ofUri (toUri e) = .ok e ∧ e.bytes = bytes
  := by
  refine ⟨ofValue_toValue, ?_, ?_⟩
  · intro item e h
    exact ⟨exists_describes_of_ofValue h, e.ofValue_toValue⟩
  · intro bytes e h
    exact ⟨ofUri_toUri e, Embedded.bytes_of_ofBytes h⟩

/-- A key in bytes, with empty coordinates. -/
def keyBytes : Bytes :=
  [0xa4, 0x01, 0x02, 0x20, 0x01, 0x21, 0x40, 0x22, 0x40]

/-- An engagement that repeats labels, carries others and names a service to no effect. -/
def repetitive : Value :=
  .map [
    (.int 7, .null),
    (.int 2, .bool false),
    (.int 0, .text "2.0"),
    (.int 1, .array [.int 1, .tag 24 (.bytes keyBytes)]),
    (.int 2, .array [.array [.int 2, .int 1, .map [
      (.int 10, .bytes (Uuid.ofNat 1).bytes),
      (.int 0, .bool false),
      (.int 11, .bytes (Uuid.ofNat 2).bytes),
      (.int 0, .bool true),
      (.int 10, .bytes (Uuid.ofNat 3).bytes)], .null]]),
    (.int 0, .text version)]

/-- An engagement without methods, the number of its entries in a byte of its own. -/
def longwinded : Bytes :=
  [0xb8, 0x02, 0x00, 0x63, 0x31, 0x2e, 0x30, 0x01, 0x82, 0x01, 0xd8, 0x18, 0x49] ++ keyBytes

/-- Of what is repeated the last entry counts, and what is written at length keeps its bytes. -/
theorem codec_isLossless_repetitive :
  (∃ e entries, ofValue repetitive = .ok e
      ∧ e.methods = some (.singleton ⟨some (.ofNat 3), none⟩)
      ∧ repetitive = .map entries ∧ Describes entries e
      ∧ ofValue e.toValue = .ok e)
    ∧ ∃ e : Embedded DeviceEngagement, Embedded.ofBytes longwinded = .ok e
      ∧ Cbor.encode e.content ≠ longwinded
      ∧ ofUri (toUri e) = .ok e ∧ e.bytes = longwinded
  := by
  obtain ⟨-, reads, keeps⟩ := codec_isLossless
  constructor
  · have read : (ofValue repetitive).toOption.map (·.methods)
        = some (some (.singleton ⟨some (.ofNat 3), none⟩)) := by
      decide +kernel
    obtain ⟨e, e_eq, methods_eq⟩ := Option.map_eq_some_iff.mp read
    have accepted := Except.toOption_eq_some_iff.mp e_eq
    obtain ⟨⟨entries, item_eq, describes⟩, again⟩ := reads repetitive e accepted
    exact ⟨e, entries, accepted, methods_eq, item_eq, describes, again⟩
  · have read : (Embedded.ofBytes (α := DeviceEngagement) longwinded).toOption.map
        (fun e => decide (Cbor.encode e.content = longwinded)) = some false := by
      decide +kernel
    obtain ⟨e, e_eq, shorter⟩ := Option.map_eq_some_iff.mp read
    have accepted := Except.toOption_eq_some_iff.mp e_eq
    exact ⟨e, accepted, of_decide_eq_false shorter, keeps longwinded e accepted⟩

end DeviceEngagement

end Presentment
