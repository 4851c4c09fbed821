import Presentment.Proofs.Cbor.Value
import Presentment.Proofs.TextMap

/-!
# Decoders that restore

Each decoder restores what is written in the item of its shape.  For a record, `Gathers` tells
how its fields are gathered one after the other; those that are left out change nothing.
-/

namespace Presentment.Cbor.Decoder

open Parse

variable {α β γ : Type} {levels : Nat}

section

variable {d : Decoder α} {item : Value} {a : α}

theorem Restores.refine {f : α → Except Refusal β} {b : β} (h : d.Restores levels item a)
    (hf : f a = .ok b) :
  (d.refine f).Restores levels item b
  := by
  intro short
  apply (h short).bind_pure
  rw [hf]

theorem Restores.map (h : d.Restores levels item a) (f : α → β) :
  (d.map f).Restores levels item (f a)
  := h.refine rfl

end

/-! ### Simple items -/

theorem restores_text (s : String) :
  text.Restores levels (.text s) s
  := by
  intro short
  rw [Value.encode, encodeText, List.length_append] at short
  rw [Value.encode, encodeText]
  have head : Head.parse.Reads (Head.encodeArgument 3 (Bytes.ofText s).length)
      (.text (some (Bytes.ofText s).length)) :=
    Head.reads_encodeArgument (by decide) (by omega) (fun _ => rfl)
  exact (Head.reads_parseUntagged head (fun _ h => by cases h)).bind (reads_text s)

theorem restores_bytes (bs : Bytes) :
  bytes.Restores levels (.bytes bs) bs
  := by
  intro short
  rw [Value.encode, encodeBytes, List.length_append] at short
  rw [Value.encode, encodeBytes]
  have head : Head.parse.Reads (Head.encodeArgument 2 bs.length) (.bytes (some bs.length)) :=
    Head.reads_encodeArgument (by decide) (by omega) (fun _ => rfl)
  exact (Head.reads_parseUntagged head (fun _ h => by cases h)).bind (reads_bytes bs)

theorem restores_bool (b : Bool) :
  bool.Restores levels (.bool b) b
  := by
  intro _
  rw [Value.encode]
  cases b with
  | true =>
    have head : Head.parse.Reads [0xF5] (.simple 21) :=
      Head.reads_parse 7 21 (by decide) (by decide) (Head.reads_argument_short (by decide)) rfl
    exact (Head.reads_parseUntagged head (fun _ h => by cases h)).bind_pure rfl
  | false =>
    have head : Head.parse.Reads [0xF4] (.simple 20) :=
      Head.reads_parse 7 20 (by decide) (by decide) (Head.reads_argument_short (by decide)) rfl
    exact (Head.reads_parseUntagged head (fun _ h => by cases h)).bind_pure rfl

/-- The head of an integer. -/
theorem reads_encodeInt {n : Int} (h : Value.fitsHead n) :
  ∃ head, Head.parse.Reads (encodeInt n) head
    ∧ (head = .unsigned n.toNat ∧ 0 ≤ n ∨ head = .negative (-1 - n).toNat ∧ n < 0)
  := by
  simp only [Value.fitsHead, Bool.and_eq_true, decide_eq_true_eq] at h
  cases n with
  | ofNat n =>
    have short : n < 0x10000000000000000 := by
      rw [Int.ofNat_eq_natCast] at h
      omega
    rw [encodeInt, if_pos short]
    exact ⟨_, Head.reads_encodeArgument (by decide) short (fun _ => rfl),
      .inl ⟨rfl, Int.natCast_nonneg n⟩⟩
  | negSucc n =>
    have short : n < 0x10000000000000000 := by
      omega
    rw [encodeInt, if_pos short]
    refine ⟨_, Head.reads_encodeArgument (by decide) short (fun _ => rfl), .inr ⟨?_, ?_⟩⟩
    · congr 1
      omega
    · omega

theorem restores_integer {low high n : Int} (h : Value.fitsHead n) (hlow : low ≤ n)
    (hhigh : n ≤ high) :
  (integer low high).Restores levels (.int n) n
  := by
  intro _
  rw [Value.encode]
  obtain ⟨head, hhead, hn⟩ := reads_encodeInt h
  apply Reads.of_get
  intro rest
  have read : (integer.integerWithin ((encodeInt n ++ rest).length + 1)).Reads (encodeInt n) n := by
    apply hhead.bind_pure
    obtain ⟨rfl, hn⟩ | ⟨rfl, hn⟩ := hn
    · change Pure.pure ((n.toNat : Nat) : Int) = _
      rw [Int.toNat_of_nonneg hn]
    · change Pure.pure (-1 - (((-1 - n).toNat : Nat) : Int)) = _
      congr 1
      omega
  exact (read.bind_pure (if_pos ⟨hlow, hhigh⟩)) rest

theorem restores_uint64 (n : UInt64) :
  uint64.Restores levels (.int n.toNat) n
  := by
  have bound := n.toNat_lt
  have restores : (integer 0 0xFFFFFFFFFFFFFFFF).Restores levels (.int n.toNat) n.toNat := by
    apply restores_integer
    · simp only [Value.fitsHead, Bool.and_eq_true, decide_eq_true_eq]
      omega
    · omega
    · omega
  have mapped := restores.map (fun n => UInt64.ofNat n.toNat)
  rw [Int.toNat_natCast, UInt64.ofNat_toNat] at mapped
  exact mapped

/-! ### The first head of an item -/

/-- The bytes of an item begin with a head.  Only a byte string has the head of one, and what
follows is its content; and only null has the head of null. -/
structure Begins (item : Value) (head : Head) (front back : Bytes) : Prop where
  encode_eq : item.encode = front ++ back
  reads : Head.parse.Reads front head
  content : ∀ n, head = .bytes (some n) → item = .bytes back ∧ n = back.length
  null : ∀ n, head = .simple n → 22 ≤ n → item = .null

theorem exists_begins_of_argument {item : Value} {major n : Nat} {back : Bytes}
    (encode_eq : item.encode = Head.encodeArgument major n ++ back) (hmajor : major < 7)
    (hn : n < headCapacity) (content : major = 2 → item = .bytes back ∧ n = back.length) :
  ∃ head front back, Begins item head front back
  := by
  match major, hmajor with
  | 2, _ =>
    refine ⟨_, _, back, encode_eq, Head.reads_encodeArgument (by decide) hn (fun _ => rfl), ?_, ?_⟩
    · rintro _ ⟨⟩
      exact content rfl
    · rintro _ ⟨⟩
  | 0, _ | 1, _ | 3, _ | 4, _ | 5, _ | 6, _ =>
    refine ⟨_, _, back, encode_eq, Head.reads_encodeArgument (by decide) hn (fun _ => rfl), ?_, ?_⟩
    · rintro _ ⟨⟩
    · rintro _ ⟨⟩

theorem exists_begins_of_simple {item : Value} {n : Nat} (short : n < 24)
    (simple : Head.ofArgument 7 n (some n) = pure (.simple n))
    (encode_eq : item.encode = [UInt8.ofNat (7 * 32 + n)]) (null : 22 ≤ n → item = .null) :
  ∃ head front back, Begins item head front back
  := by
  have reads : Head.parse.Reads [UInt8.ofNat (7 * 32 + n)] (.simple n) :=
    Head.reads_parse 7 n (by decide) (by omega) (Head.reads_argument_short short) simple
  refine ⟨_, _, [], encode_eq, reads, ?_, ?_⟩
  · rintro _ ⟨⟩
  · rintro _ ⟨⟩
    exact null

theorem exists_begins {item : Value} (short : item.encode.length < headCapacity) :
  ∃ head front back, Begins item head front back
  := by
  cases item with
  | int n =>
    by_cases fits : Value.fitsHead n
    · obtain ⟨head, reads, ⟨rfl, -⟩ | ⟨rfl, -⟩⟩ := reads_encodeInt fits
      · exact ⟨_, _, [], (List.append_nil _).symm, reads, by rintro _ ⟨⟩, by rintro _ ⟨⟩⟩
      · exact ⟨_, _, [], (List.append_nil _).symm, reads, by rintro _ ⟨⟩, by rintro _ ⟨⟩⟩
    · obtain ⟨number, digits, -, encode_eq⟩ := Value.exists_encode_int_eq_tag fits
      rw [Value.encode] at encode_eq
      exact exists_begins_of_argument encode_eq (by decide) number.toNat_lt (fun h => by cases h)
  | bytes bs =>
    rw [Value.encode, encodeBytes, List.length_append] at short
    exact exists_begins_of_argument rfl (by decide) (by omega) (fun _ => ⟨rfl, rfl⟩)
  | text s =>
    rw [Value.encode, encodeText, List.length_append] at short
    exact exists_begins_of_argument rfl (by decide) (by omega) (fun h => by cases h)
  | float bits =>
    obtain ⟨bits', reads⟩ := Head.exists_reads_encodeFloat bits.toNat
    exact ⟨_, _, [], (List.append_nil _).symm, reads, by rintro _ ⟨⟩, by rintro _ ⟨⟩⟩
  | bool b =>
    cases b with
    | true =>
      exact exists_begins_of_simple (n := 21) (by decide) rfl rfl (fun h => absurd h (by decide))
    | false =>
      exact exists_begins_of_simple (n := 20) (by decide) rfl rfl (fun h => absurd h (by decide))
  | null => exact exists_begins_of_simple (n := 22) (by decide) rfl rfl (fun _ => rfl)
  | tag number item =>
    exact exists_begins_of_argument rfl (by decide) number.toNat_lt (fun h => by cases h)
  | array items =>
    exact exists_begins_of_argument rfl (by decide) (Value.length_array_lt short)
      (fun h => by cases h)
  | map entries =>
    exact exists_begins_of_argument rfl (by decide) (Value.length_map_lt short)
      (fun h => by cases h)

/-! ### What may be null -/

/-- Bytes that start with a head other than that of null. -/
def StartsPlain (bs : Bytes) : Prop :=
  ∃ head front back, bs = front ++ back ∧ Head.parse.Reads front head
    ∧ head ≠ .simple 22 ∧ head ≠ .simple 23

/-- Whether an item is certain not to be read as null. -/
def isPlain : Value → Bool
  | .float _ | .null => false
  | _ => true

theorem startsPlain_encode {item : Value} (short : item.encode.length < headCapacity)
    (plain : isPlain item) :
  StartsPlain item.encode
  := by
  obtain ⟨head, front, back, begins⟩ := exists_begins short
  refine ⟨head, front, back, begins.encode_eq, begins.reads, ?_, ?_⟩
  · intro head_eq
    rw [begins.null 22 head_eq (by decide)] at plain
    cases plain
  · intro head_eq
    rw [begins.null 23 head_eq (by decide)] at plain
    cases plain

/-- What is plain is read like what must not be null. -/
theorem nullable_parse_eq (d : Decoder α) {item : Value}
    (short : item.encode.length < headCapacity) (plain : isPlain item) (rest : Bytes) :
  (nullable d).parse levels (item.encode ++ rest)
    = (do return some (← d.parse levels) : Parse (Option α)) (item.encode ++ rest)
  := by
  obtain ⟨head, front, back, encode_eq, hhead, h22, h23⟩ := startsPlain_encode short plain
  have parsed := hhead (back ++ rest)
  rw [← List.append_assoc, ← encode_eq] at parsed
  rw [nullable]
  dsimp only
  rw [parsed]
  split
  · rename_i heq
    cases heq
    exact absurd rfl h22
  · rename_i heq
    cases heq
    exact absurd rfl h23
  · rfl
  · rename_i heq
    cases heq

theorem Restores.nullable {d : Decoder α} {item : Value} {a : α} (h : d.Restores levels item a)
    (plain : isPlain item) :
  (nullable d).Restores levels item (some a)
  := by
  intro short rest
  rw [nullable_parse_eq d short plain]
  have read : (do return some (← d.parse levels) : Parse (Option α)).Reads item.encode (some a) :=
    (h short).bind_pure rfl
  exact read rest

/-! ### Containers -/

theorem reads_arrayHead {items : List Value}
    (short : (Value.array items).encode.length < headCapacity) :
  Head.parseUntagged.Reads (Head.encodeArgument 4 items.length) (.array (some items.length))
  := by
  have head : Head.parse.Reads (Head.encodeArgument 4 items.length) (.array (some items.length)) :=
    Head.reads_encodeArgument (by decide) (Value.length_array_lt short) (fun _ => rfl)
  exact Head.reads_parseUntagged head (fun _ h => by cases h)

theorem reads_mapHead {entries : List (Value × Value)}
    (short : (Value.map entries).encode.length < headCapacity) :
  Head.parseUntagged.Reads (Head.encodeArgument 5 entries.length) (.map (some entries.length))
  := by
  have head : Head.parse.Reads (Head.encodeArgument 5 entries.length) (.map (some entries.length)) :=
    Head.reads_encodeArgument (by decide) (Value.length_map_lt short) (fun _ => rfl)
  exact Head.reads_parseUntagged head (fun _ h => by cases h)

theorem restores_list {d : Decoder α} {as : List α} {write : α → Value}
    (h : ∀ a ∈ as, d.Restores levels (write a) a) :
  d.list.Restores (levels + 1) (.array (as.map write)) as
  := by
  intro short
  have elements : ∀ a ∈ as, (d.parse levels).Reads (write a).encode a := by
    intro a ha
    have le := Value.length_encode_le_of_mem (List.mem_map_of_mem (f := write) ha)
    exact h a ha (Nat.lt_of_le_of_lt le short)
  have head := reads_arrayHead short
  rw [Value.encode, Value.encodeItems_eq, List.flatMap_map]
  rw [List.length_map] at head ⊢
  exact head.bind (reads_elements elements fun a _ => (write a).encode_ne_nil)

theorem restores_nonEmptyList {d : Decoder α} {as : NonEmptyList α} {write : α → Value}
    (h : ∀ a ∈ as.toList, d.Restores levels (write a) a) :
  d.nonEmptyList.Restores (levels + 1) (.array (as.toList.map write)) as
  := by
  apply (restores_list h).refine
  obtain ⟨as, ne_nil⟩ := as
  cases as with
  | nil => exact absurd rfl ne_nil
  | cons a as => rfl

/-- An entry of a map with text keys. -/
theorem reads_entry {d : Decoder α} {key : String} {item : Value} {a : α}
    (hkey : (Value.text key).encode.length < headCapacity)
    (h : (d.parse levels).Reads item.encode a) :
  (do
    let key ← text.parse levels
    let a ← d.parse levels
    return (key, a) : Parse (String × α)).Reads ((Value.text key).encode ++ item.encode) (key, a)
  := by
  apply (restores_text key hkey).bind
  exact h.bind_pure rfl

theorem restores_textMap {d : Decoder α} {m : TextMap α} {write : α → Value}
    (h : ∀ entry ∈ m.entries, d.Restores levels (write entry.2) entry.2) :
  d.textMap.Restores (levels + 1)
    (.map (m.entries.map (fun entry => (.text entry.1, write entry.2)))) m
  := by
  intro short
  have elements : ∀ entry ∈ m.entries, (do
      let key ← text.parse levels
      let a ← d.parse levels
      return (key, a) : Parse (String × α)).Reads
        ((Value.text entry.1).encode ++ (write entry.2).encode) entry := by
    intro entry hentry
    have le := Value.length_encode_le_of_mem_entries
      (List.mem_map_of_mem (f := fun entry => (Value.text entry.1, write entry.2)) hentry)
    exact reads_entry (Nat.lt_of_le_of_lt le.1 short)
      (h entry hentry (Nat.lt_of_le_of_lt le.2 short))
  have nonempty : ∀ entry ∈ m.entries,
      (Value.text entry.1).encode ++ (write entry.2).encode ≠ [] :=
    fun entry _ => List.append_ne_nil_of_left_ne_nil (Value.encode_ne_nil _) _
  have head := reads_mapHead short
  rw [Value.encode, Value.encodeEntries_eq, List.flatMap_map]
  rw [List.length_map] at head ⊢
  apply head.bind
  apply (reads_elements elements nonempty).bind_pure
  rw [TextMap.ofList_entries]

theorem restores_nonEmptyMap {d : Decoder α} {m : NonEmptyMap α} {write : α → Value}
    (h : ∀ entry ∈ m.entries, d.Restores levels (write entry.2) entry.2) :
  d.nonEmptyMap.Restores (levels + 1)
    (.map (m.toMap.entries.map (fun entry => (.text entry.1, write entry.2)))) m
  := by
  apply (restores_textMap h).refine
  rw [NonEmptyMap.ofMap?_eq_some_iff.mpr rfl]

/-! ### Lists of fixed length -/

/-- `a` is read from the bytes of `items`, those of a list that may go on after them. -/
def Elements.Restores (elements : Elements α) (levels : Nat) (items : List Value) (a : α) : Prop :=
  (∀ item ∈ items, item.encode.length < headCapacity) → ∀ surplus,
    (elements.parse levels (some (surplus + items.length))).Reads (items.flatMap Value.encode)
      (a, some surplus)

theorem Elements.restores_one {d : Decoder α} {item : Value} {a : α}
    (h : d.Restores levels item a) :
  (Elements.one d).Restores levels [item] a
  := by
  intro short surplus
  have read : (do return (← d.parse levels, some surplus) : Parse (α × Option Nat)).Reads
      item.encode (a, some surplus) :=
    (h (short item List.mem_cons_self)).bind_pure rfl
  rw [List.flatMap_singleton]
  exact read

theorem Elements.Restores.pair {first : Elements α} {second : Elements β}
    {items items' : List Value} {a : α} {b : β} (h : first.Restores levels items a)
    (h' : second.Restores levels items' b) :
  (first.pair second).Restores levels (items ++ items') (a, b)
  := by
  intro short surplus
  obtain ⟨short, short'⟩ := List.forall_mem_append.mp short
  have announced : surplus + (items ++ items').length
      = surplus + items'.length + items.length := by
    rw [List.length_append]
    omega
  rw [announced, List.flatMap_append]
  apply (h short (surplus + items'.length)).bind
  exact (h' short' surplus).bind_pure rfl

theorem restores_tuple {elements : Elements α} {items : List Value} {a : α}
    (h : elements.Restores levels items a) :
  (tuple elements).Restores (levels + 1) (.array items) a
  := by
  intro short
  have elements_short : ∀ item ∈ items, item.encode.length < headCapacity :=
    fun item mem => Nat.lt_of_le_of_lt (Value.length_encode_le_of_mem mem) short
  have read := h elements_short 0
  rw [Nat.zero_add] at read
  rw [Value.encode, Value.encodeItems_eq]
  exact (reads_arrayHead short).bind (read.bind_pure rfl)

/-! ### Records -/

/-- The name of a field is short enough to be read. -/
def IsFieldName (name : String) : Prop :=
  (Bytes.ofText name).length ≤ maxFieldName

instance (name : String) : Decidable (IsFieldName name) :=
  inferInstanceAs (Decidable ((Bytes.ofText name).length ≤ maxFieldName))

theorem restores_fieldName {name : String} (h : IsFieldName name) :
  fieldName.Restores levels (.text name) name
  := by
  intro short
  rw [Value.encode, encodeText, List.length_append] at short
  rw [Value.encode, encodeText]
  have head : Head.parse.Reads (Head.encodeArgument 3 (Bytes.ofText name).length)
      (.text (some (Bytes.ofText name).length)) :=
    Head.reads_encodeArgument (by decide) (by omega) (fun _ => rfl)
  apply (Head.reads_parseUntagged head (fun _ h => by cases h)).bind
  have short : (Bytes.ofText name).length ≤ maxFieldName := h
  dsimp only
  rw [if_pos short]
  exact reads_text name

theorem required_eq_ok_iff {a? : Option α} {a : α} :
  required a? = .ok a ↔ a? = some a
  := by
  cases a? with
  | none => exact ⟨(fun h => by cases h), (fun h => by cases h)⟩
  | some a' =>
    constructor
    · rintro ⟨⟩
      rfl
    · rintro ⟨⟩
      rfl

/-- The fields of a record, those that are there, are gathered one after the other. -/
inductive Gathers (field : γ → String → Option (Decoder γ)) (levels : Nat) :
    γ → List (String × Option Value) → γ → Prop
  | done (gathered : γ) : Gathers field levels gathered [] gathered
  | absent {gathered gathered' : γ} {name : String} {fields : List (String × Option Value)} :
      Gathers field levels gathered fields gathered' →
        Gathers field levels gathered ((name, none) :: fields) gathered'
  | present {gathered next gathered' : γ} {name : String} {d : Decoder γ} {item : Value}
      {fields : List (String × Option Value)} :
      IsFieldName name → field gathered name = some d → d.Restores levels item next →
        Gathers field levels next fields gathered' →
          Gathers field levels gathered ((name, some item) :: fields) gathered'

/-- The entries of the fields that are there. -/
def presentEntries (fields : List (String × Option Value)) : List (Value × Value) :=
  fields.filterMap (fun field => field.2.map (.text field.1, ·))

theorem length_encode_le_of_field {fields : List (String × Option Value)} (name : String)
    {item : Value} (h : (name, some item) ∈ fields) :
  item.encode.length ≤ (recordValue fields).encode.length
  := by
  have entry : (Value.text name, item) ∈ presentEntries fields :=
    List.mem_filterMap.mpr ⟨_, h, rfl⟩
  exact (Value.length_encode_le_of_mem_entries entry).2

theorem length_encode_lt_of_mem_present {fields : List (String × Option Value)}
    {entry : Value × Value} (h : entry ∈ presentEntries fields)
    (short : (recordValue fields).encode.length < headCapacity) :
  entry.1.encode.length < headCapacity ∧ entry.2.encode.length < headCapacity
  := by
  have le := Value.length_encode_le_of_mem_entries h
  exact ⟨Nat.lt_of_le_of_lt le.1 short, Nat.lt_of_le_of_lt le.2 short⟩

theorem reads_parseFields {field : γ → String → Option (Decoder γ)} {gathered gathered' : γ}
    {fields : List (String × Option Value)} {fuel : Nat}
    (h : Gathers field levels gathered fields gathered')
    (short : ∀ entry ∈ presentEntries fields,
      entry.1.encode.length < headCapacity ∧ entry.2.encode.length < headCapacity)
    (enough : (presentEntries fields).length < fuel) :
  (record.parseFields field levels fuel (some (presentEntries fields).length) gathered).Reads
    ((presentEntries fields).flatMap (fun entry => entry.1.encode ++ entry.2.encode)) gathered'
  := by
  induction h generalizing fuel with
  | done gathered =>
    cases fuel with
    | zero => cases enough
    | succ fuel => exact fun _ => rfl
  | absent _ ih => exact ih short enough
  | @present gathered next gathered' name d item fields hname hfield hitem _ ih =>
    cases fuel with
    | zero => cases enough
    | succ fuel =>
      obtain ⟨shortName, shortItem⟩ := short (.text name, item) List.mem_cons_self
      have others := ih (fun entry hentry => short entry (List.mem_cons_of_mem _ hentry))
        (Nat.lt_of_succ_lt_succ enough)
      have present : presentEntries ((name, some item) :: fields)
          = (.text name, item) :: presentEntries fields := rfl
      rw [present, List.flatMap_cons, List.append_assoc]
      rw [List.length_cons, record.parseFields]
      simp only [Parse.more, pure_bind]
      apply (restores_fieldName hname shortName).bind
      rw [hfield]
      exact (hitem shortItem).bind others

theorem restores_record {start : γ} {field : γ → String → Option (Decoder γ)}
    {finish : γ → Except Refusal α} {fields : List (String × Option Value)} {gathered : γ} {a : α}
    (h : Gathers field levels start fields gathered) (hfinish : finish gathered = .ok a) :
  (record start field finish).Restores (levels + 1) (recordValue fields) a
  := by
  apply Restores.refine _ hfinish
  intro short
  change Parse.Reads _ (Value.map (presentEntries fields)).encode _
  rw [Value.encode, Value.encodeEntries_eq]
  apply (reads_mapHead short).bind
  apply Reads.of_get
  intro rest
  apply reads_parseFields h (fun entry hentry => length_encode_lt_of_mem_present hentry short)
  have count := length_le_flatMap (fun entry (_ : entry ∈ presentEntries fields) =>
    List.append_ne_nil_of_left_ne_nil entry.1.encode_ne_nil entry.2.encode)
  rw [List.length_append]
  omega

section

variable {field : γ → String → Option (Decoder γ)} {gathered gathered' : γ} {name : String}
  {d : Decoder α} {fields : List (String × Option Value)}

/-- A field that has to be there. -/
theorem Gathers.required {item : Value} {a : α} (put : α → γ) (hname : IsFieldName name)
    (hfield : field gathered name = once none d put) (h : d.Restores levels item a)
    (hrest : Gathers field levels (put a) fields gathered') :
  Gathers field levels gathered ((name, some item) :: fields) gathered'
  := .present hname hfield (h.map put) hrest

/-- A field that may be left out. -/
theorem Gathers.optional {a? : Option α} {write : α → Value} (next : γ) (put : Option α → γ)
    (hname : IsFieldName name) (hfield : field gathered name = once none d.nullable put)
    (h : ∀ a ∈ a?, d.Restores levels (write a) a) (plain : ∀ a, isPlain (write a))
    (hnext : next = a?.elim gathered (fun a => put (some a)))
    (hrest : Gathers field levels next fields gathered') :
  Gathers field levels gathered ((name, a?.map write) :: fields) gathered'
  := by
  cases a? with
  | none =>
    cases hnext
    exact .absent hrest
  | some a =>
    cases hnext
    exact .required put hname hfield ((h a rfl).nullable (plain a)) hrest

end

/-! ### Alternatives -/

/-- A map with one entry, whose key tells the alternative. -/
theorem restores_variant {content : String → Option (Decoder α)} {name : String} {d : Decoder α}
    {item : Value} {a : α} (hname : IsFieldName name) (hcontent : content name = some d)
    (h : d.Restores levels item a) :
  (variant content).Restores (levels + 1) (.map [(.text name, item)]) a
  := by
  intro short
  have le := Value.length_encode_le_of_mem_entries (List.mem_singleton_self (Value.text name, item))
  have head : Head.parse.Reads (Head.encodeArgument 5 1) (.map (some 1)) :=
    Head.reads_encodeArgument (by decide) (by decide) (fun _ => rfl)
  rw [Value.encode, Value.encodeEntries_eq, List.flatMap_singleton]
  apply Reads.of_get
  intro rest
  have start := head (((Value.text name).encode ++ item.encode) ++ rest)
  rw [← List.append_assoc] at start
  change Except.bind (Head.parse
    (Head.encodeArgument 5 1 ++ ((Value.text name).encode ++ item.encode) ++ rest)) _ = _
  rw [start]
  apply (restores_fieldName hname (Nat.lt_of_le_of_lt le.1 short)).bind
  rw [hcontent]
  exact h (Nat.lt_of_le_of_lt le.2 short)

end Presentment.Cbor.Decoder
