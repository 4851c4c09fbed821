import Presentment.Proofs.Cbor.Taken

/-!
# What decoders recover

A decoder may refuse an item that was written, or read something else from it: numbers have a
range, containers nest too deep, headers are put into order.  `Recovers` tells what is certain of
whatever it does read.  For a record, `GathersOnly` tells it of the fields, which are gathered
one after the other.
-/

namespace Presentment.Cbor

namespace Decoder

open Parse

variable {α β γ : Type} {levels : Nat}

/-- Whatever is read from the bytes of `item` satisfies `motive`, unless they are too many for a
head. -/
def Recovers (d : Decoder α) (levels : Nat) (item : Value) (motive : α → Prop) : Prop :=
  item.encode.length < headCapacity → (d.parse levels).Takes item.encode motive

section

variable {d : Decoder α} {item : Value} {a : α} {P : α → Prop} {Q : β → Prop}

/-- What is restored is recovered. -/
theorem Restores.recovers (h : d.Restores levels item a) (ha : P a) :
  d.Recovers levels item P
  := fun short => (h short).takes ha

/-- Whatever is read of an item that is restored is what is restored. -/
theorem Recovers.restored (h : d.Recovers levels item P) :
  d.Recovers levels item (fun read => ∀ a, d.Restores levels item a → read = a)
  := by
  intro short rest read rest' heq
  constructor
  · intro a restores
    exact ((restores.recovers (P := (· = a)) rfl) short rest read rest' heq).1
  · exact (h short rest read rest' heq).2

theorem Recovers.imp {P' : α → Prop} (h : d.Recovers levels item P) (himp : ∀ a, P a → P' a) :
  d.Recovers levels item P'
  := by
  intro short rest a rest' heq
  obtain ⟨ha, rest_eq⟩ := h short rest a rest' heq
  exact ⟨himp a ha, rest_eq⟩

theorem recovers_value (item : Value) :
  value.Recovers levels item (fun _ => True)
  := Value.takes_parse levels

theorem Recovers.refine {f : α → Except Refusal β} (h : d.Recovers levels item P)
    (hf : ∀ a b, P a → f a = .ok b → Q b) :
  (d.refine f).Recovers levels item Q
  := by
  intro short
  apply (h short).bind_nil
  intro a ha
  cases hb : f a with
  | ok b => exact .pure (hf a b ha hb)
  | error cause => exact .refuse _ _

theorem Recovers.map {f : α → β} (h : d.Recovers levels item P) (hf : ∀ a, P a → Q (f a)) :
  (d.map f).Recovers levels item Q
  := by
  apply h.refine
  rintro a _ ha ⟨⟩
  exact hf a ha

theorem Recovers.nullable (h : d.Recovers levels item P) (plain : isPlain item) :
  (nullable d).Recovers levels item (fun a? => ∃ a ∈ a?, P a)
  := by
  intro short rest a? rest' heq
  rw [nullable_parse_eq d short plain] at heq
  have taken : (do return some (← d.parse levels) : Parse (Option α)).Takes item.encode
      (fun a? => ∃ a ∈ a?, P a) :=
    (h short).bind_nil fun a ha => .pure ⟨a, rfl, ha⟩
  exact taken _ _ _ heq

end

/-! ### Integers -/

/-- A number of any size is read as a whole, or refused. -/
theorem takes_integerWithin {n : Int} (short : (Value.int n).encode.length < headCapacity)
    (fuel : Nat) :
  (integer.integerWithin fuel).Takes (Value.int n).encode (fun _ => True)
  := by
  cases fuel with
  | zero => exact .refuse _ _
  | succ fuel =>
    by_cases fits : Value.fitsHead n
    · rw [Value.encode]
      obtain ⟨head, reads, ⟨rfl, -⟩ | ⟨rfl, -⟩⟩ := reads_encodeInt fits
      · exact reads.takes_bind_nil (.pure trivial)
      · exact reads.takes_bind_nil (.pure trivial)
    · obtain ⟨number, digits, bignum, encode_eq⟩ := Value.exists_encode_int_eq_tag fits
      have le := (Value.length_encode_tag number (.bytes digits)).1
      have le' := (Value.length_encode_bytes digits).1
      have tagged : number.toNat = 2 ∨ number.toNat = 3 := by
        obtain rfl | rfl := bignum
        · exact .inl rfl
        · exact .inr rfl
      rw [encode_eq] at short ⊢
      rw [Value.encode, Value.encode, encodeBytes, integer.integerWithin]
      apply (Head.reads_encodeArgument (by decide) number.toNat_lt (fun _ => rfl)).takes_bind
      dsimp only
      rw [if_pos tagged]
      apply (Head.reads_encodeArgument (by decide) (by omega) (fun _ => rfl)).takes_bind
      apply (reads_bytes digits).takes_bind_nil
      cases integer.ofDigits number.toNat digits with
      | ok n => exact .pure trivial
      | error cause => exact .refuse _ _

theorem recovers_integer (low high n : Int) :
  (integer low high).Recovers levels (.int n) (fun _ => True)
  := by
  intro short
  apply Takes.of_get
  intro input
  apply (takes_integerWithin short _).bind_nil
  intro n _
  split
  · exact .pure trivial
  · exact .refuse _ _

/-! ### Containers -/

theorem recovers_list {d : Decoder α} {bs : List β} {write : β → Value} {R : β → α → Prop}
    (h : ∀ b ∈ bs, d.Recovers levels (write b) (R b)) :
  d.list.Recovers (levels + 1) (.array (bs.map write)) (List.Forall₂ R bs)
  := by
  intro short
  have elements : ∀ b ∈ bs, (d.parse levels).Takes (write b).encode (R b) := by
    intro b mem
    have le := Value.length_encode_le_of_mem (List.mem_map_of_mem (f := write) mem)
    exact h b mem (Nat.lt_of_le_of_lt le short)
  have head := reads_arrayHead short
  rw [Value.encode, Value.encodeItems_eq, List.flatMap_map]
  rw [List.length_map] at head ⊢
  exact head.takes_bind (takes_elements elements)

theorem recovers_nonEmptyList {d : Decoder α} {bs : NonEmptyList β} {write : β → Value}
    {R : β → α → Prop} (h : ∀ b ∈ bs.toList, d.Recovers levels (write b) (R b)) :
  d.nonEmptyList.Recovers (levels + 1) (.array (bs.toList.map write))
    (fun as => List.Forall₂ R bs.toList as.toList)
  := by
  apply (recovers_list h).refine
  intro as nonEmpty ha heq
  cases as with
  | nil => cases heq
  | cons a as =>
    cases heq
    exact ha

theorem recovers_textMap {d : Decoder α} {m : TextMap β} {write : β → Value}
    (h : ∀ entry ∈ m.entries, d.Recovers levels (write entry.2) (fun _ => True)) :
  d.textMap.Recovers (levels + 1)
    (.map (m.entries.map (fun entry => (.text entry.1, write entry.2)))) (fun _ => True)
  := by
  intro short
  have elements : ∀ entry ∈ m.entries, (do
      let key ← text.parse levels
      let a ← d.parse levels
      return (key, a) : Parse (String × α)).Takes
        ((Value.text entry.1).encode ++ (write entry.2).encode) (fun _ => True) := by
    intro entry mem
    have le := Value.length_encode_le_of_mem_entries
      (List.mem_map_of_mem (f := fun entry => (Value.text entry.1, write entry.2)) mem)
    apply (restores_text entry.1 (Nat.lt_of_le_of_lt le.1 short)).takes_bind
    exact (h entry mem (Nat.lt_of_le_of_lt le.2 short)).bind_nil fun _ _ => .pure trivial
  have head := reads_mapHead short
  rw [Value.encode, Value.encodeEntries_eq, List.flatMap_map]
  rw [List.length_map] at head ⊢
  apply head.takes_bind
  exact (takes_elements elements).bind_nil fun _ _ => .pure trivial

theorem recovers_nonEmptyMap {d : Decoder α} {m : NonEmptyMap β} {write : β → Value}
    (h : ∀ entry ∈ m.entries, d.Recovers levels (write entry.2) (fun _ => True)) :
  d.nonEmptyMap.Recovers (levels + 1)
    (.map (m.toMap.entries.map (fun entry => (.text entry.1, write entry.2)))) (fun _ => True)
  := (recovers_textMap h).refine fun _ _ _ _ => trivial

/-! ### Records -/

/-- Whatever the fields of a record are gathered as, those that are there, satisfies `motive`. -/
def GathersOnly (field : γ → String → Option (Decoder γ)) (levels : Nat) (motive : γ → Prop) :
    List (String × Option Value) → γ → Prop
  | [], gathered => motive gathered
  | (_, none) :: fields, gathered => GathersOnly field levels motive fields gathered
  | (name, some item) :: fields, gathered =>
    IsFieldName name
      ∧ ∃ d, field gathered name = some d
        ∧ d.Recovers levels item (GathersOnly field levels motive fields)

section

variable {field : γ → String → Option (Decoder γ)} {P : γ → Prop}
  {fields : List (String × Option Value)}

theorem takes_parseFields {gathered : γ} (h : GathersOnly field levels P fields gathered)
    (short : ∀ entry ∈ presentEntries fields,
      entry.1.encode.length < headCapacity ∧ entry.2.encode.length < headCapacity)
    (fuel : Nat) :
  (record.parseFields field levels fuel (some (presentEntries fields).length) gathered).Takes
    ((presentEntries fields).flatMap (fun entry => entry.1.encode ++ entry.2.encode)) P
  := by
  induction fields generalizing gathered fuel with
  | nil =>
    cases fuel with
    | zero => exact .refuse _ _
    | succ fuel => exact .pure h
  | cons entry fields ih =>
    obtain ⟨name, item?⟩ := entry
    cases item? with
    | none => exact ih h short fuel
    | some item =>
      cases fuel with
      | zero => exact .refuse _ _
      | succ fuel =>
        obtain ⟨hname, d, hfield, hd⟩ := h
        obtain ⟨shortName, shortItem⟩ := short (.text name, item) List.mem_cons_self
        have present : presentEntries ((name, some item) :: fields)
            = (.text name, item) :: presentEntries fields := rfl
        rw [present, List.flatMap_cons, List.append_assoc, List.length_cons, record.parseFields]
        simp only [Parse.more, pure_bind]
        apply (restores_fieldName hname shortName).takes_bind
        rw [hfield]
        apply (hd shortItem).bind
        intro next hnext
        exact ih hnext (fun entry mem => short entry (List.mem_cons_of_mem _ mem)) fuel

theorem recovers_record {start : γ} {finish : γ → Except Refusal α} {Q : α → Prop}
    (h : GathersOnly field levels P fields start) (hfinish : ∀ g a, P g → finish g = .ok a → Q a) :
  (record start field finish).Recovers (levels + 1) (recordValue fields) Q
  := by
  apply Recovers.refine _ hfinish
  intro short
  change Parse.Takes _ (Value.map (presentEntries fields)).encode _
  rw [Value.encode, Value.encodeEntries_eq]
  apply (reads_mapHead short).takes_bind
  have entries : ∀ entry ∈ presentEntries fields,
      entry.1.encode.length < headCapacity ∧ entry.2.encode.length < headCapacity :=
    fun entry hentry => length_encode_lt_of_mem_present hentry short
  exact .of_get fun input => takes_parseFields h entries _

variable {gathered : γ} {name : String} {old : Option β} {d : Decoder β}

/-- A field that has to be there. -/
theorem GathersOnly.required {item : Value} {put : β → γ} {Q : β → Prop}
    (hname : IsFieldName name) (hfield : field gathered name = once old d put)
    (h : d.Recovers levels item Q)
    (hrest : ∀ b, Q b → GathersOnly field levels P fields (put b)) :
  GathersOnly field levels P ((name, some item) :: fields) gathered
  := by
  refine ⟨hname, _, hfield, ?_⟩
  split
  · exact fun _ => .refuse _ _
  · exact h.map hrest

/-- A field that may be left out. -/
theorem GathersOnly.optional {δ : Type} {a? : Option δ} {write : δ → Value} {d : Decoder β}
    {old : Option (Option β)} {put : Option β → γ} {R : δ → β → Prop} (next : γ → Prop)
    (hname : IsFieldName name) (hfield : field gathered name = once old d.nullable put)
    (h : ∀ a, d.Recovers levels (write a) (R a)) (plain : ∀ a, isPlain (write a))
    (absent : a? = none → next gathered) (present : ∀ a ∈ a?, ∀ b, R a b → next (put (some b)))
    (hrest : ∀ g, next g → GathersOnly field levels P fields g) :
  GathersOnly field levels P ((name, a?.map write) :: fields) gathered
  := by
  cases a? with
  | none => exact hrest _ (absent rfl)
  | some a =>
    apply GathersOnly.required hname hfield ((h a).nullable (plain a))
    rintro _ ⟨b, rfl, hb⟩
    exact hrest _ (present a rfl b hb)

end

/-! ### Alternatives -/

theorem recovers_variant {content : String → Option (Decoder α)} {name : String} {d : Decoder α}
    {item : Value} {P : α → Prop} (hname : IsFieldName name) (hcontent : content name = some d)
    (h : d.Recovers levels item P) :
  (variant content).Recovers (levels + 1) (.map [(.text name, item)]) P
  := by
  intro short
  have le := Value.length_encode_le_of_mem_entries (List.mem_singleton_self (Value.text name, item))
  have head : Head.parse.Reads (Head.encodeArgument 5 1) (.map (some 1)) :=
    Head.reads_encodeArgument (by decide) (by decide) (fun _ => rfl)
  rw [Value.encode, Value.encodeEntries_eq, List.flatMap_singleton]
  apply Takes.of_get
  intro input
  rw [variant.parseHead]
  apply Takes.of_get
  intro start
  apply head.takes_bind
  apply (restores_fieldName hname (Nat.lt_of_le_of_lt le.1 short)).takes_bind
  rw [hcontent]
  exact h (Nat.lt_of_le_of_lt le.2 short)

end Decoder

/-- Whatever is decoded of what was encoded. -/
theorem Decoder.Recovers.of_decode {α : Type} [Wire α] {a a' : α} {P : α → Prop}
    (h : Wire.decoder.Recovers maxLevels (Wire.toValue a) P)
    (short : (encode a).length < headCapacity) (decoded : decode (encode a) = .ok a') :
  P a'
  := by
  rw [decode] at decoded
  split at decoded
  · rename_i read_eq
    cases decoded
    rw [← List.append_nil (encode a)] at read_eq
    exact (h short _ _ _ read_eq).1
  · cases decoded

end Presentment.Cbor
