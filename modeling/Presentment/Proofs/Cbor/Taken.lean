import Presentment.Proofs.Cbor.Decoder
import Presentment.Proofs.Cbor.Naturality

/-!
# What is read of an item

Not everything that is written is read back: containers may nest too deep, or a number may be too
large.  But whatever is read from the bytes of an item is read from all of them and from nothing
else, so what stands beside it in a message is not disturbed.  How many levels are left matters
only to items that are deeper than that: all others are read alike at any number of levels.
-/

namespace Presentment.Cbor

variable {α β γ : Type}

namespace Parse

/-- Whatever `p` reads when `bs` comes first is read from `bs` alone, and `motive` holds of it. -/
def Takes (p : Parse α) (bs : Bytes) (motive : α → Prop) : Prop :=
  ∀ rest a rest', p (bs ++ rest) = .ok (a, rest') → motive a ∧ rest' = rest

variable {p : Parse α} {bs bs' : Bytes} {a : α} {P : α → Prop} {Q : β → Prop}

theorem Reads.takes (h : p.Reads bs a) (ha : P a) :
  p.Takes bs P
  := by
  intro rest a' rest' heq
  rw [h rest] at heq
  cases heq
  exact ⟨ha, rfl⟩

theorem Takes.imp {P' : α → Prop} (h : p.Takes bs P) (himp : ∀ a, P a → P' a) :
  p.Takes bs P'
  := by
  intro rest a rest' heq
  obtain ⟨ha, rest_eq⟩ := h rest a rest' heq
  exact ⟨himp a ha, rest_eq⟩

theorem Takes.pure (h : P a) :
  (Pure.pure a : Parse α).Takes [] P
  := (Reads.pure a).takes h

theorem Takes.refuse (cause : Refusal) (bs : Bytes) :
  (Parse.refuse cause : Parse α).Takes bs P
  := by
  intro rest a rest' heq
  cases heq

theorem Takes.bind {g : α → Parse β} (h : p.Takes bs P) (h' : ∀ a, P a → (g a).Takes bs' Q) :
  (p >>= g).Takes (bs ++ bs') Q
  := by
  intro rest b rest' heq
  rw [List.append_assoc] at heq
  obtain ⟨a, middle, read, read'⟩ := bind_eq_ok_iff.mp heq
  obtain ⟨ha, rfl⟩ := h _ _ _ read
  exact h' a ha _ _ _ read'

/-- Nothing more is read after `p`. -/
theorem Takes.bind_nil {g : α → Parse β} (h : p.Takes bs P) (h' : ∀ a, P a → (g a).Takes [] Q) :
  (p >>= g).Takes bs Q
  := by
  have whole := h.bind h'
  rwa [List.append_nil] at whole

/-- Something is certain to be read first. -/
theorem Reads.takes_bind {g : α → Parse β} (h : p.Reads bs a) (h' : (g a).Takes bs' Q) :
  (p >>= g).Takes (bs ++ bs') Q
  := by
  apply (h.takes (P := (· = a)) rfl).bind
  rintro _ rfl
  exact h'

theorem Reads.takes_bind_nil {g : α → Parse β} (h : p.Reads bs a) (h' : (g a).Takes [] Q) :
  (p >>= g).Takes bs Q
  := by
  have whole := h.takes_bind h'
  rwa [List.append_nil] at whole

/-- What looks at the input first, takes what it takes on that input. -/
theorem Takes.of_get {g : Bytes → Parse α} (h : ∀ input, (g input).Takes bs P) :
  (do g (← get) : Parse α).Takes bs P
  := fun rest => h (bs ++ rest) rest

theorem takes_elements {write : β → Bytes} {R : β → α → Prop} {bs : List β}
    (h : ∀ b ∈ bs, p.Takes (write b) (R b)) :
  (elements p (some bs.length)).Takes (bs.flatMap write) (List.Forall₂ R bs)
  := by
  have within : ∀ fuel, (elementsWithin p fuel (some bs.length)).Takes (bs.flatMap write)
      (List.Forall₂ R bs) := by
    induction bs with
    | nil =>
      intro fuel
      cases fuel with
      | zero => exact .refuse _ _
      | succ fuel => exact .pure .nil
    | cons b bs ih =>
      intro fuel
      cases fuel with
      | zero => exact .refuse _ _
      | succ fuel =>
        have others := ih (fun b hb => h b (List.mem_cons_of_mem _ hb)) fuel
        have next : (do
            let first ← p
            let others ← elementsWithin p fuel (some bs.length)
            return first :: others : Parse (List α)).Takes (write b ++ bs.flatMap write)
              (List.Forall₂ R (b :: bs)) := by
          apply (h b List.mem_cons_self).bind
          intro first hfirst
          apply others.bind_nil
          intro others hothers
          exact .pure (.cons hfirst hothers)
        exact next
  exact .of_get fun input => within _

end Parse

open Parse

/-! ### How deep items nest -/

namespace Value

/-- Whether an item may be the digits of a bignum. -/
def isDigits : Value → Bool
  | .bytes bs => bs.length ≤ 16
  | _ => false

mutual

/-- How many levels it takes to read an item from its bytes. -/
def depth : Value → Nat
  | .int n => if fitsHead n then 0 else 1
  | .bytes _ => 0
  | .text _ => 0
  | .float _ => 0
  | .bool _ => 0
  | .null => 0
  | .tag number item => if (number = 2 ∨ number = 3) ∧ isDigits item then 0 else depth item + 1
  | .array items => depthItems items + 1
  | .map entries => depthEntries entries + 1

/-- How many levels it takes to read items in sequence. -/
def depthItems : List Value → Nat
  | [] => 0
  | item :: items => max (depth item) (depthItems items)

/-- How many levels it takes to read keys and values in sequence. -/
def depthEntries : List (Value × Value) → Nat
  | [] => 0
  | (key, value) :: entries => max (max (depth key) (depth value)) (depthEntries entries)

end

theorem depthItems_le_iff {items : List Value} {n : Nat} :
  depthItems items ≤ n ↔ ∀ item ∈ items, item.depth ≤ n
  := by
  induction items with
  | nil => simp [depthItems]
  | cons item items ih => rw [depthItems, Nat.max_le, ih, List.forall_mem_cons]

theorem depthEntries_le_iff {entries : List (Value × Value)} {n : Nat} :
  depthEntries entries ≤ n ↔ ∀ entry ∈ entries, entry.1.depth ≤ n ∧ entry.2.depth ≤ n
  := by
  induction entries with
  | nil => simp [depthEntries]
  | cons entry entries ih => rw [depthEntries, Nat.max_le, Nat.max_le, ih, List.forall_mem_cons]

theorem depth_array_le_iff {items : List Value} {n : Nat} :
  (array items).depth ≤ n + 1 ↔ ∀ item ∈ items, item.depth ≤ n
  := by
  rw [depth, Nat.add_le_add_iff_right, depthItems_le_iff]

theorem depth_map_le_iff {entries : List (Value × Value)} {n : Nat} :
  (map entries).depth ≤ n + 1 ↔ ∀ entry ∈ entries, entry.1.depth ≤ n ∧ entry.2.depth ≤ n
  := by
  rw [depth, Nat.add_le_add_iff_right, depthEntries_le_iff]

theorem depth_tag_le (number : UInt64) (item : Value) :
  (tag number item).depth ≤ item.depth + 1
  := by
  rw [depth]
  split
  · exact Nat.zero_le _
  · exact Nat.le_refl _

/-- The level that a container takes. -/
theorem exists_eq_succ_of_depth_le {item : Value} {n levels : Nat} (depth_eq : item.depth = n + 1)
    (h : item.depth ≤ levels) :
  ∃ levels', levels = levels' + 1
  := Nat.exists_eq_add_one.mpr (by omega)

/-! ### Tags -/

section

variable {nested : Option (Parse Value)} {item : Value} {number : UInt64}

/-- At most sixteen bytes are the digits of a bignum. -/
theorem bignum_bytes {bs : Bytes} (digits : bs.length ≤ 16) (number : Nat) (rest : Bytes) :
  Parse.bignum number ((bytes bs).encode ++ rest)
    = (bignum? number bs).elim (.error .malformed) (fun n => .ok (some n, rest))
  := by
  have head : Head.parse.Reads (Head.encodeArgument 2 bs.length) (.bytes (some bs.length)) :=
    Head.reads_encodeArgument (by decide) (by rw [headCapacity]; omega) (fun _ => rfl)
  rw [encode, encodeBytes, List.append_assoc, Parse.bignum, get_bind_apply, head.bind_apply]
  dsimp only
  rw [if_pos digits, (reads_take bs).bind_apply]
  cases bignum? number bs with
  | some n => rfl
  | none => rfl

/-- Everything else is left alone. -/
theorem bignum_of_not_isDigits (short : item.encode.length < headCapacity)
    (other : ¬item.isDigits) (number : Nat) (rest : Bytes) :
  Parse.bignum number (item.encode ++ rest) = .ok (none, item.encode ++ rest)
  := by
  obtain ⟨head, front, back, begins⟩ := Decoder.exists_begins short
  rw [Parse.bignum, get_bind_apply, begins.encode_eq, List.append_assoc, begins.reads.bind_apply]
  cases head with
  | bytes length =>
    cases length with
    | none => rfl
    | some length =>
      obtain ⟨rfl, rfl⟩ := begins.content length rfl
      have long : ¬back.length ≤ 16 := by simpa [isDigits] using other
      dsimp only
      rw [if_neg long]
      rfl
  | _ => rfl

/-- A bignum is read at once, at any number of levels. -/
theorem parseOver_tag_bytes {bs : Bytes} (bignum : number = 2 ∨ number = 3)
    (digits : bs.length ≤ 16) (nested : Option (Parse Value)) (rest : Bytes) :
  parseOver nested ((tag number (bytes bs)).encode ++ rest)
    = (bignum? number.toNat bs).elim (.error .malformed) (fun n => .ok (ofInt n, rest))
  := by
  have head : Head.parse.Reads (Head.encodeArgument 6 number.toNat) (.tag number.toNat) :=
    Head.reads_encodeArgument (by decide) number.toNat_lt (fun _ => rfl)
  have tagged : number.toNat = 2 ∨ number.toNat = 3 := by
    obtain rfl | rfl := bignum
    · exact .inl rfl
    · exact .inr rfl
  rw [parseOver, encode, List.append_assoc, head.bind_apply]
  dsimp only
  rw [if_pos tagged]
  change Except.bind (Parse.bignum number.toNat ((bytes bs).encode ++ rest)) _ = _
  rw [bignum_bytes digits]
  cases bignum? number.toNat bs with
  | some n => rfl
  | none => rfl

/-- Any other item with a tag takes a level. -/
theorem parseOver_tag (short : item.encode.length < headCapacity)
    (plain : ¬((number = 2 ∨ number = 3) ∧ item.isDigits)) (nested : Option (Parse Value))
    (rest : Bytes) :
  parseOver nested ((tag number item).encode ++ rest)
    = nested.elim (Parse.refuse .malformed) (fun p => do return tag number (← p))
      (item.encode ++ rest)
  := by
  have head : Head.parse.Reads (Head.encodeArgument 6 number.toNat) (.tag number.toNat) :=
    Head.reads_encodeArgument (by decide) number.toNat_lt (fun _ => rfl)
  rw [parseOver, encode, List.append_assoc, head.bind_apply]
  dsimp only
  split
  · rename_i tagged
    have other : ¬item.isDigits := by
      intro digits
      exact plain ⟨tagged.imp UInt64.toNat_inj.mp UInt64.toNat_inj.mp, digits⟩
    change Except.bind (Parse.bignum number.toNat (item.encode ++ rest)) _ = _
    rw [bignum_of_not_isDigits short other]
    cases nested with
    | none => rfl
    | some p =>
      rw [UInt64.ofNat_toNat]
      rfl
  · cases nested with
    | none => rfl
    | some p =>
      rw [UInt64.ofNat_toNat]
      rfl

end

/-! ### Reading at other levels -/

section

variable {levels levels' : Nat} {nested : Option (Parse Value)}

/-- Whatever is read of an item at these levels is read at `levels'` as well, if that is enough. -/
def ReadsAt (levels' : Nat) (p : Parse Value) (item : Value) : Prop :=
  item.depth ≤ levels' → p.Takes item.encode (fun v => (parse levels').Reads item.encode v)

theorem readsAt_tag {number : UInt64} {item : Value}
    (short : item.encode.length < headCapacity)
    (h : ∀ p ∈ nested, ∀ levels', ReadsAt levels' p item) :
  ReadsAt levels' (parseOver nested) (tag number item)
  := by
  intro deep rest v rest' heq
  by_cases bignum : (number = 2 ∨ number = 3) ∧ item.isDigits
  · obtain ⟨nested', parse_eq⟩ := parse_eq_parseOver levels'
    cases item with
    | bytes bs =>
      obtain ⟨two_or_three, digits⟩ := bignum
      have digits : bs.length ≤ 16 := of_decide_eq_true digits
      rw [parseOver_tag_bytes two_or_three digits] at heq
      cases hn : bignum? number.toNat bs with
      | none =>
        rw [hn] at heq
        cases heq
      | some n =>
        rw [hn] at heq
        cases heq
        refine ⟨fun rest => ?_, rfl⟩
        rw [parse_eq, parseOver_tag_bytes two_or_three digits, hn]
        rfl
    | _ => cases bignum.2
  · have depth_eq : (tag number item).depth = item.depth + 1 := by
      rw [depth, if_neg bignum]
    obtain ⟨levels', rfl⟩ := exists_eq_succ_of_depth_le depth_eq deep
    rw [parseOver_tag short bignum] at heq
    cases nested with
    | none => cases heq
    | some p =>
      have item_deep : item.depth ≤ levels' := by omega
      have taken : (do return tag number (← p) : Parse Value) (item.encode ++ rest)
        = .ok (v, rest') := heq
      obtain ⟨v', middle, read, tagged⟩ := bind_eq_ok_iff.mp taken
      obtain ⟨reads, rfl⟩ := h p rfl levels' item_deep _ _ _ read
      cases tagged
      refine ⟨fun rest => ?_, rfl⟩
      rw [parse, parseOver_tag short bignum]
      have read' : (do return tag number (← parse levels') : Parse Value).Reads item.encode
          (tag number v') := reads.bind_pure rfl
      exact read' rest

theorem readsAt_array {items : List Value} (short : (array items).encode.length < headCapacity)
    (h : ∀ p ∈ nested, ∀ item ∈ items, ∀ levels', ReadsAt levels' p item) :
  ReadsAt levels' (parseOver nested) (array items)
  := by
  intro deep
  obtain ⟨levels', rfl⟩ := exists_eq_succ_of_depth_le rfl deep
  have items_deep := depth_array_le_iff.mp deep
  have head : Head.parse.Reads (Head.encodeArgument 4 items.length) (.array (some items.length)) :=
    Head.reads_encodeArgument (by decide) (length_array_lt short) (fun _ => rfl)
  rw [parse, encode, encodeItems_eq]
  apply head.takes_bind
  cases nested with
  | none => exact .refuse _ _
  | some p =>
    have read := takes_elements (R := fun item v => (parse levels').Reads item.encode v)
      fun item mem => h p rfl item mem levels' (items_deep item mem)
    apply read.bind_nil
    intro vs hvs
    apply Takes.pure
    apply head.bind
    exact (reads_elements_of_forall₂ hvs fun item _ => item.encode_ne_nil).bind_pure rfl

theorem readsAt_map {entries : List (Value × Value)}
    (short : (map entries).encode.length < headCapacity)
    (h : ∀ p ∈ nested, ∀ entry ∈ entries, ∀ levels',
      ReadsAt levels' p entry.1 ∧ ReadsAt levels' p entry.2) :
  ReadsAt levels' (parseOver nested) (map entries)
  := by
  intro deep
  obtain ⟨levels', rfl⟩ := exists_eq_succ_of_depth_le rfl deep
  have entries_deep := depth_map_le_iff.mp deep
  have head : Head.parse.Reads (Head.encodeArgument 5 entries.length) (.map (some entries.length)) :=
    Head.reads_encodeArgument (by decide) (length_map_lt short) (fun _ => rfl)
  rw [parse, encode, encodeEntries_eq]
  apply head.takes_bind
  cases nested with
  | none => exact .refuse _ _
  | some p =>
    have entry : ∀ entry ∈ entries, (do
        let key ← p
        let value ← p
        return (key, value) : Parse (Value × Value)).Takes (entry.1.encode ++ entry.2.encode)
          ((do
            let key ← parse levels'
            let value ← parse levels'
            return (key, value) : Parse (Value × Value)).Reads
              (entry.1.encode ++ entry.2.encode)) := by
      intro entry mem
      obtain ⟨key_deep, value_deep⟩ := entries_deep entry mem
      obtain ⟨key, value⟩ := h p rfl entry mem levels'
      apply (key key_deep).bind
      intro key' hkey
      apply (value value_deep).bind_nil
      intro value' hvalue
      exact .pure (hkey.bind (hvalue.bind_pure rfl))
    apply (takes_elements entry).bind_nil
    intro read hread
    apply Takes.pure
    apply head.bind
    exact (reads_elements_of_forall₂ hread fun entry _ =>
      List.append_ne_nil_of_left_ne_nil entry.1.encode_ne_nil _).bind_pure rfl

/-- An item is read alike at other levels, if `nested` reads those inside it so. -/
theorem readsAt_parse_of (parse_eq : parse levels = parseOver nested)
    (h : ∀ p ∈ nested, ∀ item : Value, item.encode.length < headCapacity →
      ∀ levels', ReadsAt levels' p item)
    {item : Value} (short : item.encode.length < headCapacity) :
  ReadsAt levels' (parse levels) item
  := by
  cases item with
  | int n =>
    by_cases fits : fitsHead n
    · exact fun _ => (survives_int fits short).takes (survives_int fits short)
    -- Its bytes are those of a tagged byte string, which is how it is read.
    · obtain ⟨number, digits, -, encode_eq⟩ := exists_encode_int_eq_tag fits
      intro deep
      rw [encode_eq] at short
      rw [parse_eq, encode_eq]
      have le := (length_encode_tag number (bytes digits)).1
      have nested_deep : (tag number (bytes digits)).depth ≤ levels' := by
        rw [depth, if_neg fits] at deep
        exact Nat.le_trans (depth_tag_le number (bytes digits)) deep
      exact readsAt_tag (by omega) (fun p mem => h p mem _ (by omega)) nested_deep
  | bytes bs => exact fun _ => (survives_bytes bs short).takes (survives_bytes bs short)
  | text s => exact fun _ => (survives_text s short).takes (survives_text s short)
  | float bits =>
    obtain ⟨bits', reads⟩ := Head.exists_reads_encodeFloat bits.toNat
    have read (nested : Option (Parse Value)) :
        (parseOver nested).Reads (Head.encodeFloat bits.toNat) (float (.ofNat bits')) :=
      reads.bind_pure rfl
    obtain ⟨nested', parse_eq'⟩ := parse_eq_parseOver levels'
    intro _
    rw [parse_eq, parse_eq', encode]
    exact (read nested).takes (read nested')
  | bool b => exact fun _ => (survives_bool b short).takes (survives_bool b short)
  | null => exact fun _ => (survives_null short).takes (survives_null short)
  | tag number item =>
    rw [parse_eq]
    have le := (length_encode_tag number item).1
    exact readsAt_tag (by omega) fun p mem => h p mem _ (by omega)
  | array items =>
    rw [parse_eq]
    apply readsAt_array short
    intro p mem item mem'
    have le := length_encode_le_of_mem mem'
    exact h p mem _ (by omega)
  | map entries =>
    rw [parse_eq]
    apply readsAt_map short
    intro p mem entry mem' levels'
    have le := length_encode_le_of_mem_entries mem'
    exact ⟨h p mem _ (by omega) levels', h p mem _ (by omega) levels'⟩

/-- Whatever is read of an item is read at any number of levels that is enough for it. -/
theorem readsAt_parse (levels levels' : Nat) {item : Value}
    (short : item.encode.length < headCapacity) :
  ReadsAt levels' (parse levels) item
  := by
  induction levels generalizing levels' item with
  | zero => exact readsAt_parse_of rfl (fun _ h => by cases h) short
  | succ levels ih =>
    apply readsAt_parse_of rfl _ short
    rintro _ ⟨⟩ item short levels'
    exact ih levels' short

/-- Whatever is read of an item is read from all of its bytes. -/
theorem takes_parse (levels : Nat) {item : Value} (short : item.encode.length < headCapacity) :
  (parse levels).Takes item.encode (fun _ => True)
  := (readsAt_parse levels item.depth short (Nat.le_refl _)).imp fun _ _ => trivial

end

end Value

end Presentment.Cbor
