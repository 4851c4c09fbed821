import Mathlib.Data.List.Induction
import Presentment.Proofs.Cbor.Taken

/-!
# How deep what is read nests

`p.Yields P` says that `P` holds of whatever `p` reads, from any bytes at all.  An item that is
read at some number of levels nests no deeper than that, and so it stands in a message where there
is room for it: if it is read back from its own bytes, it is read back as a part of the message.
-/

namespace Presentment

namespace Bytes

theorem toNat_lt_capacity (bs : Bytes) :
  toNat bs < capacity bs.length
  := by
  induction bs using List.reverseRecOn with
  | nil => exact Nat.zero_lt_one
  | append_singleton bs b ih =>
    have digit := b.toNat_lt
    rw [toNat_append_singleton, List.length_append, List.length_singleton, capacity]
    omega

theorem capacity_le_capacity {width width' : Nat} (h : width ≤ width') :
  capacity width ≤ capacity width'
  := by
  induction h with
  | refl => exact Nat.le_refl _
  | step _ ih =>
    rw [capacity]
    omega

theorem capacity_sixteen :
  capacity 16 = 1 <<< 128
  := by
  decide

/-- A number of 128 bits takes at most sixteen bytes. -/
theorem length_minimal_le {n : Nat} (h : n < 1 <<< 128) :
  (minimal n).length ≤ 16
  := by
  have bits : n.log2 < 128 := by
    cases n with
    | zero => decide
    | succ n => exact (Nat.log2_lt (Nat.succ_ne_zero n)).mpr h
  apply Nat.le_trans (List.dropWhile_sublist _).length_le
  rw [length_ofNat]
  omega

end Bytes

namespace Cbor

variable {α β γ : Type}

/-! ### Readers -/

namespace Parse

/-- Whatever `p` reads satisfies `motive`. -/
def Yields (p : Parse α) (motive : α → Prop) : Prop :=
  ∀ input a rest, p input = .ok (a, rest) → motive a

variable {p : Parse α} {P : α → Prop} {Q : β → Prop}

theorem Yields.imp {P' : α → Prop} (h : p.Yields P) (himp : ∀ a, P a → P' a) :
  p.Yields P'
  := fun _ _ _ heq => himp _ (h _ _ _ heq)

theorem Yields.pure {a : α} (h : P a) :
  (Pure.pure a : Parse α).Yields P
  := by
  intro input a rest heq
  cases heq
  exact h

theorem Yields.refuse (cause : Refusal) :
  (Parse.refuse cause : Parse α).Yields P
  := by
  intro input a rest heq
  cases heq

theorem Yields.bind {g : α → Parse β} (h : p.Yields P) (h' : ∀ a, P a → (g a).Yields Q) :
  (p >>= g).Yields Q
  := by
  intro input b rest heq
  obtain ⟨a, middle, read, read'⟩ := bind_eq_ok_iff.mp heq
  exact h' a (h _ _ _ read) _ _ _ read'

/-- Two ways to read what comes first. -/
theorem Yields.ite_bind {c : Prop} [Decidable c] {q : Parse α} {g : α → Parse β} (h : p.Yields P)
    (h' : q.Yields P) (hg : ∀ a, P a → (g a).Yields Q) :
  (if c then p >>= g else q >>= g).Yields Q
  := by
  split
  · exact h.bind hg
  · exact h'.bind hg

/-- Whatever was read before. -/
theorem Yields.after (p : Parse α) {g : α → Parse β} (h : ∀ a, (g a).Yields Q) :
  (p >>= g).Yields Q
  := by
  have anything : p.Yields (fun _ => True) := fun _ _ _ _ => trivial
  exact anything.bind fun a _ => h a

theorem Yields.elementsWithin (h : p.Yields P) (fuel : Nat) (announced : Option Nat) :
  (Parse.elementsWithin p fuel announced).Yields (fun as => ∀ a ∈ as, P a)
  := by
  induction fuel generalizing announced with
  | zero => exact .refuse _
  | succ fuel ih =>
    refine .after _ fun next => ?_
    cases next with
    | none => exact .pure (List.forall_mem_nil P)
    | some announced =>
      refine h.bind fun first hfirst => ?_
      refine (ih announced).bind fun others hothers => ?_
      exact .pure (List.forall_mem_cons.mpr ⟨hfirst, hothers⟩)

theorem Yields.elements (h : p.Yields P) (announced : Option Nat) :
  (Parse.elements p announced).Yields (fun as => ∀ a ∈ as, P a)
  := .after _ fun _ => h.elementsWithin _ announced

theorem yields_take (n : Nat) :
  (take n).Yields (fun bs => bs.length = n)
  := by
  intro input bs rest heq
  rw [take] at heq
  split at heq
  · rename_i length_eq
    cases heq
    exact length_eq
  · cases heq

theorem yields_nat (width : Nat) :
  (nat width).Yields (fun n => n < Bytes.capacity width)
  := by
  refine (yields_take width).bind fun bs length_eq => .pure ?_
  rw [← length_eq]
  exact bs.toNat_lt_capacity

end Parse

open Parse

/-! ### Numbers -/

namespace Head

/-- A head that stands for a number has one of eight bytes. -/
def IsBounded (head : Head) : Prop :=
  ∀ n, head = .unsigned n ∨ head = .negative n → n < headCapacity

theorem yields_argument (low : Nat) :
  (argument low).Yields (fun arg? => ∀ n ∈ arg?, n < headCapacity)
  := by
  rw [argument]
  split
  · apply Yields.pure
    rintro _ ⟨⟩
    rw [headCapacity]
    omega
  · split
    · refine (yields_nat _).bind fun n hn => .pure ?_
      rintro _ ⟨⟩
      have width : 1 <<< (low - 24) ≤ 8 := by
        have exponent : low - 24 ≤ 3 := by omega
        rw [Nat.one_shiftLeft]
        exact Nat.pow_le_pow_right (by decide) exponent
      exact Nat.lt_of_lt_of_le hn (Bytes.capacity_le_capacity width)
    · split
      · apply Yields.pure
        rintro _ ⟨⟩
      · exact .refuse _

theorem yields_ofArgument (major low : Nat) {arg? : Option Nat}
    (h : ∀ n ∈ arg?, n < headCapacity) :
  (ofArgument major low arg?).Yields IsBounded
  := by
  intro input head rest heq n hn
  cases arg? with
  | some arg =>
    have bound := h arg rfl
    simp only [ofArgument] at heq
    split at heq
    case h_1 =>
      cases heq
      obtain ⟨⟨⟩⟩ | ⟨⟨⟩⟩ := hn
      exact bound
    case h_2 =>
      cases heq
      obtain ⟨⟨⟩⟩ | ⟨⟨⟩⟩ := hn
      exact bound
    case h_8 =>
      cases heq
      split at hn
      all_goals obtain ⟨⟨⟩⟩ | ⟨⟨⟩⟩ := hn
    all_goals
      cases heq
      obtain ⟨⟨⟩⟩ | ⟨⟨⟩⟩ := hn
  | none =>
    simp only [ofArgument] at heq
    split at heq
    all_goals cases heq
    all_goals obtain ⟨⟨⟩⟩ | ⟨⟨⟩⟩ := hn

theorem yields_parse :
  parse.Yields IsBounded
  := by
  refine .after _ fun first => ?_
  exact (yields_argument _).bind fun arg? harg => yields_ofArgument _ _ harg

end Head

namespace Value

theorem depth_int {n : Int} (h : fitsHead n) :
  (int n).depth = 0
  := if_pos h

/-- Integers of 128 bits are read at once. -/
theorem depth_ofInt {n : Int} (low : -(1 <<< 128) ≤ n) (high : n < 1 <<< 128) :
  (ofInt n).depth = 0
  := by
  rw [ofInt.eq_def]
  split
  · rename_i fits
    exact depth_int fits
  · cases n with
    | ofNat n =>
      have digits := Bytes.length_minimal_le (Int.ofNat_lt.mp high)
      exact if_pos ⟨.inl rfl, decide_eq_true digits⟩
    | negSucc n =>
      have digits := Bytes.length_minimal_le (n := n) (by omega)
      exact if_pos ⟨.inr rfl, decide_eq_true digits⟩

theorem yields_bignum (number : Nat) :
  (Parse.bignum number).Yields (fun n? => ∀ n ∈ n?, (ofInt n).depth = 0)
  := by
  have nothing : ∀ start : Bytes, (do
      set start
      return none : Parse (Option Int)).Yields (fun n? => ∀ n ∈ n?, (ofInt n).depth = 0) := by
    refine fun start => .after _ fun _ => .pure ?_
    rintro _ ⟨⟩
  refine .after _ fun start => .after _ fun head => ?_
  split
  · split
    · rename_i length short
      refine (yields_take length).bind fun digits length_eq => ?_
      have bound : Bytes.toNat digits < 1 <<< 128 := by
        apply Nat.lt_of_lt_of_le digits.toNat_lt_capacity
        rw [length_eq, ← Bytes.capacity_sixteen]
        exact Bytes.capacity_le_capacity short
      cases hn : bignum? number digits with
      | none => exact .refuse _
      | some n =>
        apply Yields.pure
        rintro _ ⟨⟩
        rw [bignum?] at hn
        split at hn
        · cases hn
          exact depth_ofInt (by omega) (Int.ofNat_lt.mpr bound)
        · split at hn
          · cases hn
            exact depth_ofInt (by omega) (by omega)
          · cases hn
    · exact nothing start
  · exact nothing start

/-- An item nests at most one level more than the items inside it. -/
theorem yields_parseOver {nested : Option (Parse Value)} {levels : Nat}
    (h : ∀ p ∈ nested, ∃ inner, levels = inner + 1 ∧ p.Yields (fun v => v.depth ≤ inner)) :
  (parseOver nested).Yields (fun v => v.depth ≤ levels)
  := by
  have flat : ∀ v : Value, v.depth = 0 → v.depth ≤ levels := fun v h => h ▸ Nat.zero_le _
  refine Head.yields_parse.bind fun head bounded => ?_
  split
  · rename_i n
    have bound := bounded n (.inl rfl)
    have fits : fitsHead n := by
      simp only [fitsHead, headCapacity, Bool.and_eq_true, decide_eq_true_eq] at bound ⊢
      omega
    exact .pure (flat _ (depth_int fits))
  · rename_i n
    have bound := bounded n (.inr rfl)
    have fits : fitsHead (-1 - n) := by
      simp only [fitsHead, headCapacity, Bool.and_eq_true, decide_eq_true_eq] at bound ⊢
      omega
    exact .pure (flat _ (depth_int fits))
  · exact .after _ fun bs => .pure (flat (.bytes bs) rfl)
  · exact .after _ fun s => .pure (flat (.text s) rfl)
  · exact .pure (flat (.float _) rfl)
  · exact .pure (flat (.bool _) rfl)
  · exact .pure (flat (.bool _) rfl)
  · exact .pure (flat .null rfl)
  · exact .pure (flat .null rfl)
  · exact .refuse _
  · exact .refuse _
  · rename_i number
    have nothing : (pure none : Parse (Option Int)).Yields
        (fun n? => ∀ n ∈ n?, (ofInt n).depth = 0) := by
      apply Yields.pure
      rintro _ ⟨⟩
    refine .ite_bind (yields_bignum number) nothing fun n? hn => ?_
    dsimp only
    split
    · exact .pure (flat _ (hn _ rfl))
    · rename_i p
      obtain ⟨inner, rfl, hp⟩ := h p rfl
      refine hp.bind fun item hitem => .pure ?_
      exact Nat.le_trans (depth_tag_le _ item) (Nat.add_le_add_right hitem 1)
    · exact .refuse _
  · split
    · rename_i p
      obtain ⟨inner, rfl, hp⟩ := h p rfl
      exact (hp.elements _).bind fun items hitems => .pure (depth_array_le_iff.mpr hitems)
    · exact .refuse _
  · split
    · rename_i p
      obtain ⟨inner, rfl, hp⟩ := h p rfl
      have entry : (do
          let key ← p
          let value ← p
          return (key, value) : Parse (Value × Value)).Yields
            (fun entry => entry.1.depth ≤ inner ∧ entry.2.depth ≤ inner) :=
        hp.bind fun key hkey => hp.bind fun value hvalue => .pure ⟨hkey, hvalue⟩
      exact (entry.elements _).bind fun entries hentries => .pure (depth_map_le_iff.mpr hentries)
    · exact .refuse _

/-- What is read at some number of levels nests no deeper. -/
theorem yields_parse (levels : Nat) :
  (parse levels).Yields (fun v => v.depth ≤ levels)
  := by
  induction levels with
  | zero =>
    apply yields_parseOver
    rintro _ ⟨⟩
  | succ levels ih =>
    apply yields_parseOver
    rintro _ ⟨⟩
    exact ⟨levels, rfl, ih⟩

end Value

/-! ### Decoders -/

namespace Decoder

variable {levels : Nat}

/-- Whatever `d` reads at these levels satisfies `motive`. -/
def Yields (d : Decoder α) (levels : Nat) (motive : α → Prop) : Prop :=
  (d.parse levels).Yields motive

variable {d : Decoder α} {P : α → Prop} {Q : β → Prop}

theorem yields_true (d : Decoder α) (levels : Nat) :
  d.Yields levels (fun _ => True)
  := fun _ _ _ _ => trivial

theorem yields_refuse (cause : Refusal) :
  (refuse cause).Yields levels P
  := .refuse cause

theorem Yields.refine {f : α → Except Refusal β} (h : d.Yields levels P)
    (hf : ∀ a b, P a → f a = .ok b → Q b) :
  (d.refine f).Yields levels Q
  := by
  refine Parse.Yields.bind h fun a ha => ?_
  cases hb : f a with
  | ok b => exact .pure (hf a b ha hb)
  | error cause => exact .refuse cause

theorem Yields.map {f : α → β} (h : d.Yields levels P) (hf : ∀ a, P a → Q (f a)) :
  (d.map f).Yields levels Q
  := by
  refine h.refine fun a b ha heq => ?_
  cases heq
  exact hf a ha

theorem Yields.nullable (h : d.Yields levels P) :
  d.nullable.Yields levels (fun a? => ∀ a ∈ a?, P a)
  := by
  have present : (do return some (← d.parse levels) : Parse (Option α)).Yields
      (fun a? => ∀ a ∈ a?, P a) := by
    refine Parse.Yields.bind h fun a ha => .pure ?_
    rintro _ ⟨⟩
    exact ha
  intro input a? rest heq
  simp only [Decoder.nullable] at heq
  split at heq
  · cases heq
    rintro _ ⟨⟩
  · cases heq
    rintro _ ⟨⟩
  · exact present _ _ _ heq
  · cases heq

theorem yields_integer (low high : Int) :
  (integer low high).Yields levels (fun n => low ≤ n ∧ n ≤ high)
  := by
  refine Parse.Yields.after _ fun input => .after _ fun n => ?_
  split
  · rename_i range
    exact .pure range
  · exact .refuse _

theorem Yields.list (h : d.Yields levels P)
    (bytes : ∀ n a, d.ofValue (.int n) = .ok a → P a) :
  d.list.Yields (levels + 1) (fun as => ∀ a ∈ as, P a)
  := by
  refine Parse.Yields.after _ fun head => ?_
  cases head with
  | array length => exact Parse.Yields.elements h length
  | bytes length =>
    refine Parse.Yields.after _ fun bs => ?_
    cases read : bs.mapM (fun b => d.ofValue (.int b.toNat)) with
    | error cause => exact .refuse _
    | ok as =>
      refine .pure fun a mem => ?_
      obtain ⟨b, -, hb⟩ := exists_of_mem_of_forall₂ (Except.mapM_eq_ok_iff.mp read) mem
      exact bytes _ a hb
  | _ => exact .refuse _

theorem Yields.nonEmptyList (h : d.Yields levels P)
    (bytes : ∀ n a, d.ofValue (.int n) = .ok a → P a) :
  d.nonEmptyList.Yields (levels + 1) (fun as => ∀ a ∈ as.toList, P a)
  := by
  refine (h.list bytes).refine fun as nonEmpty ha heq => ?_
  cases as with
  | nil => cases heq
  | cons a as =>
    cases heq
    exact ha

theorem Yields.textMap (h : d.Yields levels P) :
  d.textMap.Yields (levels + 1) (fun m => ∀ entry ∈ m.entries, P entry.2)
  := by
  refine Parse.Yields.after _ fun head => ?_
  cases head with
  | map length =>
    have entry : (do
        let key ← text.parse levels
        let a ← d.parse levels
        return (key, a) : Parse (String × α)).Yields (fun entry => P entry.2) :=
      .after _ fun key => Parse.Yields.bind h fun a ha => .pure ha
    refine (entry.elements length).bind fun entries hentries => .pure ?_
    exact fun entry mem => hentries entry (TextMap.mem_ofList mem)
  | _ => exact .refuse _

theorem Yields.nonEmptyMap (h : d.Yields levels P) :
  d.nonEmptyMap.Yields (levels + 1) (fun m => ∀ entry ∈ m.entries, P entry.2)
  := by
  refine h.textMap.refine fun m nonEmpty hm heq => ?_
  cases hn : NonEmptyMap.ofMap? m with
  | none =>
    rw [hn] at heq
    cases heq
  | some n =>
    rw [hn] at heq
    cases heq
    rw [← NonEmptyMap.ofMap?_eq_some_iff.mp hn] at hm
    exact hm

/-! ### Records and alternatives -/

/-- The reader of a field that occurs once. -/
theorem Yields.once {old : Option β} {d : Decoder β} {put : β → γ} {other : Decoder γ}
    {R : γ → Prop} (h : d.Yields levels Q) (hput : ∀ b, Q b → R (put b)) :
  ((once old d put).getD other).Yields levels R
  := by
  rw [Decoder.once, Option.getD_some]
  split
  · exact yields_refuse _
  · exact h.map hput

/-- What is passed over changes nothing. -/
theorem yields_passed {gathered : γ} {R : γ → Prop} (h : R gathered) :
  (Option.getD none (value.map (fun _ => gathered))).Yields levels R
  := (yields_true value levels).map fun _ _ => h

/-- What holds of the draft of a record at the start, and still holds after each field, holds at
the end. -/
theorem yields_record {start : γ} {field : γ → String → Option (Decoder γ)}
    {finish : γ → Except Refusal α} {R : γ → Prop} (hstart : R start)
    (h : ∀ gathered name, R gathered → (fieldOf field gathered name).Yields levels R)
    (hfinish : ∀ gathered a, R gathered → finish gathered = .ok a → P a) :
  (record start field finish).Yields (levels + 1) P
  := by
  have fields (fuel : Nat) (announced : Option Nat) (gathered : γ) (hgathered : R gathered) :
      (record.parseFields field levels fuel announced gathered).Yields R := by
    induction fuel generalizing announced gathered with
    | zero => exact .refuse _
    | succ fuel ih =>
      rw [parseFields_succ]
      refine .after _ fun next => ?_
      cases next with
      | none => exact .pure hgathered
      | some announced =>
        refine .after _ fun name => ?_
        exact Parse.Yields.bind (h gathered name hgathered) fun gathered' => ih announced gathered'
  refine Yields.refine (P := R) ?_ hfinish
  refine Parse.Yields.after _ fun head => ?_
  cases head with
  | map length => exact .after _ fun input => fields _ length start hstart
  | _ => exact .refuse _

theorem yields_parseHead {parseContent : Nat → Parse α} (h : (parseContent levels).Yields P)
    (fuel : Nat) :
  (variant.parseHead parseContent (levels + 1) fuel).Yields P
  := by
  induction fuel with
  | zero => exact .refuse _
  | succ fuel ih =>
    refine .after _ fun start => .after _ fun head => ?_
    split
    · exact ih
    · rename_i heq
      cases heq
      exact h
    · rename_i heq
      cases heq
      exact .after _ fun _ => h
    · exact .refuse _

theorem yields_variant {content : String → Option (Decoder α)}
    (h : ∀ name, ∀ d ∈ content name, d.Yields levels P) :
  (variant content).Yields (levels + 1) P
  := by
  refine Parse.Yields.after _ fun input => yields_parseHead (.after _ fun name => ?_) _
  cases hd : content name with
  | none => exact .refuse _
  | some d => exact h name d hd

end Decoder

/-! ### Values of any shape -/

section

variable [Wire α] {levels : Nat} {a : α}

/-- The item of `a` nests at most `levels` deep. -/
def Nests (levels : Nat) (a : α) : Prop :=
  (Wire.toValue a).depth ≤ levels

/-- `a` is decoded from its own bytes. -/
def Recodes (a : α) : Prop :=
  decode (encode a) = .ok a

/-- What is read as an item, and then checked and converted, is read back wherever there is room
for it. -/
theorem Nests.survives {f : Value → Except Refusal α} (h : Nests levels a)
    (parse_eq : ∀ levels, (Wire.decoder : Decoder α).parse levels
      = (Decoder.value.refine f).parse levels)
    (recodes : Recodes a) :
  Survives levels a
  := by
  intro short
  rw [Recodes, decode] at recodes
  split at recodes
  · rename_i a' rest read
    cases recodes
    rw [parse_eq, encode, ← List.append_nil (Wire.toValue a).encode] at read
    obtain ⟨v, middle, parsed, converted⟩ := bind_eq_ok_iff.mp read
    obtain ⟨reads, -⟩ := Value.readsAt_parse maxLevels levels short h _ _ _ parsed
    have kept : f v = .ok a := by
      cases hb : f v with
      | ok b =>
        rw [hb] at converted
        cases converted
        rfl
      | error cause =>
        rw [hb] at converted
        cases converted
    rw [parse_eq]
    have restores : Decoder.value.Restores levels (Wire.toValue a) v := fun _ => reads
    exact restores.refine kept short
  · cases recodes

theorem Nests.survives_value {v : Value} (h : Nests levels v) (recodes : Recodes v) :
  Survives levels v
  := h.survives (f := .ok) (fun _ => (bind_pure _).symm) recodes

theorem yields_value (levels : Nat) :
  Decoder.value.Yields levels (Nests levels)
  := Value.yields_parse levels

end

end Cbor

end Presentment
