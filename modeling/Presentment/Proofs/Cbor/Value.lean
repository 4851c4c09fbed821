import Mathlib.Algebra.GroupWithZero.Nat
import Presentment.Cbor.Decoder
import Presentment.Proofs.Cbor.Head

/-!
# Items that survive

A value survives if it is read back from the bytes in which it is written.  Lengths are
written in heads, so this holds as long as a head can count the bytes.  An item survives at
a number of levels if the items inside it survive at one level less.
-/

namespace Presentment.Cbor

open Parse

/-- `a` is read from the bytes of `item`, unless they are too many for a head. -/
def Decoder.Restores {α : Type} (d : Decoder α) (levels : Nat) (item : Value) (a : α) : Prop :=
  item.encode.length < headCapacity → (d.parse levels).Reads item.encode a

/-- `a` is read back from its bytes. -/
def Survives (levels : Nat) {α : Type} [Wire α] (a : α) : Prop :=
  Wire.decoder.Restores levels (Wire.toValue a) a

/-- What survives is decoded again. -/
theorem Survives.decode_encode {α : Type} [Wire α] {a : α} (h : Survives maxLevels a)
    (short : (encode a).length < headCapacity) :
  decode (encode a) = .ok a
  := by
  have read := h short []
  rw [List.append_nil] at read
  rw [decode, encode, read]

namespace Value

attribute [local simp] encode

theorem encodeItems_eq (items : List Value) :
  encodeItems items = items.flatMap encode
  := by
  induction items with
  | nil => rw [encodeItems, List.flatMap_nil]
  | cons item items ih => rw [encodeItems, ih, List.flatMap_cons]

theorem encodeEntries_eq (entries : List (Value × Value)) :
  encodeEntries entries = entries.flatMap (fun entry => encode entry.1 ++ encode entry.2)
  := by
  induction entries with
  | nil => rw [encodeEntries, List.flatMap_nil]
  | cons entry entries ih => rw [encodeEntries, ih, List.flatMap_cons]

theorem encodeInt_ne_nil (n : Int) :
  encodeInt n ≠ []
  := by
  cases n with
  | ofNat n =>
    rw [encodeInt]
    split
    · exact Head.encodeArgument_ne_nil 0 n
    · simp [Head.encodeArgument_ne_nil]
  | negSucc n =>
    rw [encodeInt]
    split
    · exact Head.encodeArgument_ne_nil 1 n
    · simp [Head.encodeArgument_ne_nil]

theorem encodeFloat_ne_nil (bits : Nat) :
  Head.encodeFloat bits ≠ []
  := by
  rw [Head.encodeFloat]
  split
  · exact List.cons_ne_nil _ _
  · split
    · exact List.cons_ne_nil _ _
    · exact List.cons_ne_nil _ _

/-- Every item takes at least one byte. -/
theorem encode_ne_nil (item : Value) :
  item.encode ≠ []
  := by
  cases item with
  | int n =>
    rw [encode]
    exact encodeInt_ne_nil n
  | float bits =>
    rw [encode]
    exact encodeFloat_ne_nil bits.toNat
  | bool b => simp
  | null => simp
  | _ => simp [encodeBytes, encodeText, Head.encodeArgument_ne_nil]

theorem length_encode_le_of_mem {item : Value} {items : List Value} (h : item ∈ items) :
  item.encode.length ≤ (array items).encode.length
  := by
  rw [encode, encodeItems_eq, List.length_append]
  exact Nat.le_add_left_of_le (length_le_flatMap_of_mem h)

theorem length_encode_le_of_mem_entries {entry : Value × Value} {entries : List (Value × Value)}
    (h : entry ∈ entries) :
  entry.1.encode.length ≤ (map entries).encode.length
    ∧ entry.2.encode.length ≤ (map entries).encode.length
  := by
  have le := length_le_flatMap_of_mem (f := fun entry => encode entry.1 ++ encode entry.2) h
  rw [encode, encodeEntries_eq, List.length_append]
  rw [List.length_append] at le
  omega

theorem length_encode_bytes (bs : Bytes) :
  bs.length ≤ (bytes bs).encode.length ∧ (bytes bs).encode.length ≤ bs.length + 9
  := by
  have head := Head.length_encodeArgument_le 2 bs.length
  rw [encode, encodeBytes, List.length_append]
  omega

theorem length_encode_tag (number : UInt64) (item : Value) :
  item.encode.length ≤ (tag number item).encode.length
    ∧ (tag number item).encode.length ≤ item.encode.length + 9
  := by
  have head := Head.length_encodeArgument_le 6 number.toNat
  rw [encode, List.length_append]
  omega

/-- An integer that does not fit into a head is written like a bignum. -/
theorem exists_encode_int_eq_tag {n : Int} (h : ¬ fitsHead n) :
  ∃ number digits, (number = 2 ∨ number = 3)
    ∧ (int n).encode = (tag number (bytes digits)).encode
  := by
  simp only [fitsHead, Bool.and_eq_true, decide_eq_true_eq] at h
  cases n with
  | ofNat n =>
    have long : ¬ n < 0x10000000000000000 := by
      rw [Int.ofNat_eq_natCast] at h
      omega
    refine ⟨2, Bytes.minimal n, .inl rfl, ?_⟩
    rw [encode, encodeInt, if_neg long, encode, encode, encodeBytes, List.append_assoc]
    rfl
  | negSucc n =>
    have long : ¬ n < 0x10000000000000000 := by
      omega
    refine ⟨3, Bytes.minimal n, .inr rfl, ?_⟩
    rw [encode, encodeInt, if_neg long, encode, encode, encodeBytes, List.append_assoc]
    rfl

/-- A head can count the elements of an array whose bytes it can count. -/
theorem length_array_lt {items : List Value} (short : (array items).encode.length < headCapacity) :
  items.length < headCapacity
  := by
  have count := length_le_flatMap (fun item (_ : item ∈ items) => item.encode_ne_nil)
  rw [encode, encodeItems_eq, List.length_append] at short
  omega

theorem length_map_lt {entries : List (Value × Value)}
    (short : (map entries).encode.length < headCapacity) :
  entries.length < headCapacity
  := by
  have count := length_le_flatMap (fun entry (_ : entry ∈ entries) =>
    List.append_ne_nil_of_left_ne_nil entry.1.encode_ne_nil entry.2.encode)
  rw [encode, encodeEntries_eq, List.length_append] at short
  omega

/-- Nine bytes are enough for a head. -/
theorem length_encode_array_le (items : List Value) :
  (array items).encode.length ≤ 9 + (items.map (fun item => item.encode.length)).sum
  := by
  have head := Head.length_encodeArgument_le 4 items.length
  rw [encode, encodeItems_eq, List.length_append, List.length_flatMap]
  exact Nat.add_le_add_right head _

theorem length_encode_map_le (entries : List (Value × Value)) :
  (map entries).encode.length
    ≤ 9 + (entries.map (fun entry => entry.1.encode.length + entry.2.encode.length)).sum
  := by
  have head := Head.length_encodeArgument_le 5 entries.length
  rw [encode, encodeEntries_eq, List.length_append, List.length_flatMap]
  simp only [List.length_append]
  exact Nat.add_le_add_right head _

end Value

/-! ### One constructor after the other -/

section

variable {levels : Nat}

/-- How many levels are left matters only for what is nested. -/
theorem parse_eq_parseOver (levels : Nat) :
  ∃ nested, Value.parse levels = Value.parseOver nested
  := by
  cases levels with
  | zero => exact ⟨none, rfl⟩
  | succ levels => exact ⟨some (Value.parse levels), rfl⟩

theorem survives_int {n : Int} (h : Value.fitsHead n) :
  Survives levels (Value.int n)
  := by
  intro _
  obtain ⟨nested, hparse⟩ := parse_eq_parseOver levels
  simp only [Value.fitsHead, Bool.and_eq_true, decide_eq_true_eq] at h
  change (Value.parse levels).Reads (Value.int n).encode (Value.int n)
  rw [hparse, Value.parseOver, Value.encode]
  cases n with
  | ofNat n =>
    have short : n < 0x10000000000000000 := by
      rw [Int.ofNat_eq_natCast] at h
      omega
    rw [encodeInt, if_pos short]
    exact (Head.reads_encodeArgument (by decide) short (fun _ => rfl)).bind_pure rfl
  | negSucc n =>
    have short : n < 0x10000000000000000 := by
      omega
    rw [encodeInt, if_pos short]
    apply (Head.reads_encodeArgument (by decide) short (fun _ => rfl)).bind_pure
    dsimp only
    rw [Int.negSucc_eq]
    congr 2
    omega

theorem survives_bytes (bs : Bytes) :
  Survives levels (Value.bytes bs)
  := by
  intro short
  obtain ⟨nested, hparse⟩ := parse_eq_parseOver levels
  change (Value.bytes bs).encode.length < headCapacity at short
  change (Value.parse levels).Reads (Value.bytes bs).encode (Value.bytes bs)
  rw [Value.encode, encodeBytes, List.length_append] at short
  rw [hparse, Value.parseOver, Value.encode, encodeBytes]
  apply (Head.reads_encodeArgument (by decide) (by omega) (fun _ => rfl)).bind
  exact (reads_bytes bs).bind_pure rfl

theorem survives_text (s : String) :
  Survives levels (Value.text s)
  := by
  intro short
  obtain ⟨nested, hparse⟩ := parse_eq_parseOver levels
  change (Value.text s).encode.length < headCapacity at short
  change (Value.parse levels).Reads (Value.text s).encode (Value.text s)
  rw [Value.encode, encodeText, List.length_append] at short
  rw [hparse, Value.parseOver, Value.encode, encodeText]
  apply (Head.reads_encodeArgument (by decide) (by omega) (fun _ => rfl)).bind
  exact (reads_text s).bind_pure rfl

theorem survives_bool (b : Bool) :
  Survives levels (Value.bool b)
  := by
  intro _
  obtain ⟨nested, hparse⟩ := parse_eq_parseOver levels
  change (Value.parse levels).Reads (Value.bool b).encode (Value.bool b)
  rw [hparse, Value.parseOver, Value.encode]
  cases b with
  | true =>
    exact (Head.reads_parse 7 21 (by decide) (by decide) (Head.reads_argument_short (by decide))
      rfl).bind_pure rfl
  | false =>
    exact (Head.reads_parse 7 20 (by decide) (by decide) (Head.reads_argument_short (by decide))
      rfl).bind_pure rfl

theorem survives_null :
  Survives levels Value.null
  := by
  intro _
  obtain ⟨nested, hparse⟩ := parse_eq_parseOver levels
  change (Value.parse levels).Reads Value.null.encode Value.null
  rw [hparse, Value.parseOver, Value.encode]
  exact (Head.reads_parse 7 22 (by decide) (by decide) (Head.reads_argument_short (by decide))
    rfl).bind_pure rfl

/-- An item with a tag that is not the one of an integer. -/
theorem survives_tag {number : UInt64} {item : Value} (h : Survives levels item)
    (two : number ≠ 2) (three : number ≠ 3) :
  Survives (levels + 1) (Value.tag number item)
  := by
  intro short
  change (Value.tag number item).encode.length < headCapacity at short
  change (Value.parse (levels + 1)).Reads (Value.tag number item).encode (Value.tag number item)
  rw [Value.encode, List.length_append] at short
  rw [Value.parse, Value.parseOver, Value.encode]
  have plain : ¬(number.toNat = 2 ∨ number.toNat = 3) := by
    rintro (h | h)
    · exact two (UInt64.toNat_inj.mp h)
    · exact three (UInt64.toNat_inj.mp h)
  apply (Head.reads_encodeArgument (by decide) number.toNat_lt (fun _ => rfl)).bind
  dsimp only
  rw [if_neg plain]
  change (do
    let item ← Value.parse levels
    return Value.tag (UInt64.ofNat number.toNat) item : Parse Value).Reads item.encode _
  rw [UInt64.ofNat_toNat]
  have nested : item.encode.length < headCapacity := by omega
  exact (h nested).bind_pure rfl

theorem survives_array {items : List Value} (h : ∀ item ∈ items, Survives levels item) :
  Survives (levels + 1) (Value.array items)
  := by
  intro short
  have nested : ∀ item ∈ items, (Value.parse levels).Reads (item.encode) item :=
    fun item hitem => h item hitem (Nat.lt_of_le_of_lt (Value.length_encode_le_of_mem hitem) short)
  change (Value.parse (levels + 1)).Reads (Value.array items).encode (Value.array items)
  rw [Value.parse, Value.parseOver, Value.encode, Value.encodeItems_eq]
  have nonempty : ∀ item ∈ items, item.encode ≠ [] := fun item _ => Value.encode_ne_nil item
  have count := Value.length_array_lt short
  apply (Head.reads_encodeArgument (by decide) count (fun _ => rfl)).bind
  exact (reads_elements nested nonempty).bind_pure rfl

theorem survives_map {entries : List (Value × Value)}
    (h : ∀ entry ∈ entries, Survives levels entry.1 ∧ Survives levels entry.2) :
  Survives (levels + 1) (Value.map entries)
  := by
  intro short
  let read : Parse (Value × Value) := do
    let key ← Value.parse levels
    let value ← Value.parse levels
    return (key, value)
  have nested : ∀ entry ∈ entries,
      read.Reads (entry.1.encode ++ entry.2.encode) entry := by
    intro entry hentry
    obtain ⟨hkey, hvalue⟩ := h entry hentry
    have le := Value.length_encode_le_of_mem_entries hentry
    apply (hkey (Nat.lt_of_le_of_lt le.1 short)).bind
    exact (hvalue (Nat.lt_of_le_of_lt le.2 short)).bind_pure rfl
  change (Value.parse (levels + 1)).Reads (Value.map entries).encode (Value.map entries)
  rw [Value.parse, Value.parseOver, Value.encode, Value.encodeEntries_eq]
  have nonempty : ∀ entry ∈ entries, entry.1.encode ++ entry.2.encode ≠ [] :=
    fun entry _ => List.append_ne_nil_of_left_ne_nil (Value.encode_ne_nil entry.1) _
  have count := Value.length_map_lt short
  apply (Head.reads_encodeArgument (by decide) count (fun _ => rfl)).bind
  exact (reads_elements nested nonempty).bind_pure rfl

end

end Presentment.Cbor
