import Mathlib.Data.List.Forall2
import Presentment.Cbor.Reader
import Presentment.Cbor.Writer

/-!
# Reading heads

`p.Reads bs a` says that `p` reads `a` from `bs`, whatever follows.  Readers that are put
together read what was written one after the other.  A head is read from the bytes in which it
is written, as long as its argument fits into eight bytes.
-/

namespace Presentment

namespace Bytes

theorem toText?_ofText (s : String) :
  toText? (ofText s) = some s
  := by
  rw [toText?, ofText, Array.toArray_toList]
  exact dif_pos s.isValidUTF8

end Bytes

namespace Cbor

namespace Parse

variable {α β : Type} {p : Parse α} {bs : Bytes} {a : α}

/-- `a` is read from `bs`, and what follows is left. -/
def Reads (p : Parse α) (bs : Bytes) (a : α) : Prop :=
  ∀ rest, p (bs ++ rest) = .ok (a, rest)

theorem Reads.pure (a : α) :
  (Pure.pure a : Parse α).Reads [] a
  := fun _ => rfl

/-- What comes after `p` goes on with what follows. -/
theorem Reads.bind_apply (h : p.Reads bs a) (f : α → Parse β) (rest : Bytes) :
  (p >>= f) (bs ++ rest) = f a rest
  := by
  change Except.bind (p (bs ++ rest)) (fun read => f read.1 read.2) = _
  rw [h]
  rfl

theorem Reads.bind {f : α → Parse β} {bs' : Bytes} {b : β} (h : p.Reads bs a)
    (h' : (f a).Reads bs' b) :
  (p >>= f).Reads (bs ++ bs') b
  := by
  intro rest
  rw [List.append_assoc, h.bind_apply]
  exact h' rest

/-- Nothing more is read after `p`. -/
theorem Reads.bind_pure {f : α → Parse β} {b : β} (h : p.Reads bs a) (heq : f a = Pure.pure b) :
  (p >>= f).Reads bs b
  := by
  have read := h.bind (heq ▸ Reads.pure b)
  rwa [List.append_nil] at read

theorem get_bind_apply (f : Bytes → Parse α) (input : Bytes) :
  ((get : Parse Bytes) >>= f) input = f input input
  := rfl

/-- What looks at the input first, reads what it reads on that input. -/
theorem Reads.of_get {f : Bytes → Parse α}
    (h : ∀ rest, (f (bs ++ rest)) (bs ++ rest) = .ok (a, rest)) :
  (do f (← get) : Parse α).Reads bs a
  := h

theorem reads_take (bs : Bytes) :
  (take bs.length).Reads bs bs
  := by
  intro rest
  simp [take]

theorem reads_nat {width n : Nat} (h : n < Bytes.capacity width) :
  (nat width).Reads (Bytes.ofNat width n) n
  := by
  have front := reads_take (Bytes.ofNat width n)
  rw [Bytes.length_ofNat] at front
  apply front.bind_pure
  rw [Bytes.toNat_ofNat, Nat.mod_eq_of_lt h]

end Parse

open Parse

/-- How many numbers the argument of a head can be. -/
def headCapacity : Nat := 0x10000000000000000

namespace Head

/-- A head whose first byte says `major` and `low`, and whose argument follows. -/
theorem reads_parse {bs : Bytes} {arg : Option Nat} {head : Head} (major low : Nat)
    (hmajor : major < 8) (hlow : low < 32) (harg : (argument low).Reads bs arg)
    (hhead : ofArgument major low arg = pure head) :
  parse.Reads (UInt8.ofNat (major * 32 + low) :: bs) head
  := by
  have first : (nat 1).Reads [UInt8.ofNat (major * 32 + low)] (major * 32 + low) := by
    apply reads_nat
    change _ < 256
    omega
  have low_eq : (major * 32 + low) % 32 = low := by omega
  have major_eq : (major * 32 + low) / 32 = major := by omega
  apply first.bind
  dsimp only
  rw [low_eq, major_eq]
  exact harg.bind_pure hhead

theorem reads_argument_short {low : Nat} (h : low < 24) :
  (argument low).Reads [] (some low)
  := by
  rw [argument, if_pos h]
  exact Reads.pure _

theorem reads_argument_long {low n : Nat} (hlow : 24 ≤ low) (hlow' : low < 28)
    (h : n < Bytes.capacity (1 <<< (low - 24))) :
  (argument low).Reads (Bytes.ofNat (1 <<< (low - 24)) n) (some n)
  := by
  rw [argument, if_neg (Nat.not_lt.mpr hlow), if_pos hlow']
  exact (reads_nat h).bind_pure rfl

/-- A head is read from the shortest bytes for its argument. -/
theorem reads_encodeArgument {major n : Nat} {head : Head} (hmajor : major < 8)
    (hn : n < headCapacity) (hhead : ∀ low, ofArgument major low (some n) = pure head) :
  parse.Reads (encodeArgument major n) head
  := by
  rw [encodeArgument]
  split
  · rename_i h
    exact reads_parse major n hmajor (by omega) (reads_argument_short h) (hhead n)
  · split
    · rename_i h
      exact reads_parse major 24 hmajor (by decide)
        (reads_argument_long (by decide) (by decide) h) (hhead 24)
    · split
      · rename_i h
        exact reads_parse major 25 hmajor (by decide)
          (reads_argument_long (by decide) (by decide) h) (hhead 25)
      · split
        · rename_i h
          exact reads_parse major 26 hmajor (by decide)
            (reads_argument_long (by decide) (by decide) h) (hhead 26)
        · exact reads_parse major 27 hmajor (by decide)
            (reads_argument_long (by decide) (by decide) hn) (hhead 27)

/-- Some number is read from the bytes of a number that does not fit. -/
theorem exists_reads_argument {low : Nat} (hlow : 24 ≤ low) (hlow' : low < 28) (n : Nat) :
  ∃ arg, (argument low).Reads (Bytes.ofNat (1 <<< (low - 24)) n) (some arg)
  := by
  have front := reads_take (Bytes.ofNat (1 <<< (low - 24)) n)
  rw [Bytes.length_ofNat] at front
  rw [argument, if_neg (Nat.not_lt.mpr hlow), if_pos hlow']
  have number : (nat (1 <<< (low - 24))).Reads (Bytes.ofNat (1 <<< (low - 24)) n) _ :=
    front.bind_pure rfl
  exact ⟨_, number.bind_pure rfl⟩

theorem exists_reads_encodeFloat (bits : Nat) :
  ∃ bits', parse.Reads (encodeFloat bits) (.float bits')
  := by
  rw [encodeFloat]
  split
  · rename_i narrow _
    obtain ⟨arg, reads⟩ := exists_reads_argument (show 24 ≤ 25 by decide) (by decide) narrow
    exact ⟨_, reads_parse 7 25 (by decide) (by decide) reads rfl⟩
  · split
    · rename_i narrow _
      obtain ⟨arg, reads⟩ := exists_reads_argument (show 24 ≤ 26 by decide) (by decide) narrow
      exact ⟨_, reads_parse 7 26 (by decide) (by decide) reads rfl⟩
    · obtain ⟨arg, reads⟩ := exists_reads_argument (show 24 ≤ 27 by decide) (by decide) bits
      exact ⟨_, reads_parse 7 27 (by decide) (by decide) reads rfl⟩

theorem encodeArgument_ne_nil (major n : Nat) :
  encodeArgument major n ≠ []
  := by
  rw [encodeArgument]
  split
  · exact List.cons_ne_nil _ _
  · split
    · exact List.cons_ne_nil _ _
    · split
      · exact List.cons_ne_nil _ _
      · split
        · exact List.cons_ne_nil _ _
        · exact List.cons_ne_nil _ _

theorem length_encodeArgument_le (major n : Nat) :
  (encodeArgument major n).length ≤ 9
  := by
  rw [encodeArgument]
  split
  · exact Nat.le_of_ble_eq_true rfl
  · split
    · exact Nat.le_of_ble_eq_true rfl
    · split
      · exact Nat.le_of_ble_eq_true rfl
      · split
        · exact Nat.le_of_ble_eq_true rfl
        · exact Nat.le_of_ble_eq_true rfl

/-- A head that is no tag is read at once. -/
theorem reads_parseUntagged {bs : Bytes} {head : Head} (h : parse.Reads bs head)
    (untagged : ∀ number, head ≠ .tag number) :
  parseUntagged.Reads bs head
  := by
  apply Reads.of_get
  intro rest
  apply h.bind_pure
  cases head with
  | tag number => exact absurd rfl (untagged number)
  | _ => rfl

end Head

namespace Parse

variable {α β : Type}

/-- Elements are read one after the other, each from the bytes in which its item is written. -/
theorem reads_elementsWithin {element : Parse α} {write : β → Bytes} {bs : List β} {as : List α}
    {fuel : Nat} (h : List.Forall₂ (fun b a => element.Reads (write b) a) bs as)
    (enough : bs.length < fuel) :
  (elementsWithin element fuel (some bs.length)).Reads (bs.flatMap write) as
  := by
  induction h generalizing fuel with
  | nil =>
    cases fuel with
    | zero => cases enough
    | succ fuel => exact fun _ => rfl
  | @cons b a bs as first _ ih =>
    cases fuel with
    | zero => cases enough
    | succ fuel =>
      have others := ih (Nat.lt_of_succ_lt_succ enough)
      have next : (do
          let first ← element
          let others ← elementsWithin element fuel (some bs.length)
          return first :: others : Parse (List α)).Reads
            (write b ++ bs.flatMap write) (a :: as) := by
        apply first.bind
        exact others.bind_pure rfl
      exact next

theorem length_le_flatMap {write : α → Bytes} {as : List α} (nonempty : ∀ a ∈ as, write a ≠ []) :
  as.length ≤ (as.flatMap write).length
  := by
  induction as with
  | nil => exact Nat.le_refl 0
  | cons a as ih =>
    have first := List.length_pos_iff.mpr (nonempty a List.mem_cons_self)
    have others := ih (fun a ha => nonempty a (List.mem_cons_of_mem _ ha))
    rw [List.flatMap_cons, List.length_append, List.length_cons]
    omega

theorem length_le_flatMap_of_mem {f : α → Bytes} {as : List α} {a : α} (h : a ∈ as) :
  (f a).length ≤ (as.flatMap f).length
  := by
  rw [List.flatMap_def]
  exact (List.sublist_flatten_of_mem (List.mem_map_of_mem h)).length_le

theorem reads_elements_of_forall₂ {element : Parse α} {write : β → Bytes} {bs : List β}
    {as : List α} (h : List.Forall₂ (fun b a => element.Reads (write b) a) bs as)
    (nonempty : ∀ b ∈ bs, write b ≠ []) :
  (elements element (some bs.length)).Reads (bs.flatMap write) as
  := by
  apply Reads.of_get
  intro rest
  apply reads_elementsWithin h
  have short := length_le_flatMap nonempty
  rw [List.length_append]
  omega

/-- Elements are read back from the bytes in which they are written. -/
theorem reads_elements {element : Parse α} {write : α → Bytes} {as : List α}
    (h : ∀ a ∈ as, element.Reads (write a) a) (nonempty : ∀ a ∈ as, write a ≠ []) :
  (elements element (some as.length)).Reads (as.flatMap write) as
  := reads_elements_of_forall₂ (List.forall₂_same.mpr h) nonempty

theorem reads_segments (chunk : Head → Option (Option Nat)) (bs : Bytes) :
  (Parse.segments chunk (some bs.length)).Reads bs [bs]
  := (reads_take bs).bind_pure rfl

theorem reads_bytes (bs : Bytes) :
  (Parse.bytes (some bs.length)).Reads bs bs
  := by
  apply (reads_segments _ bs).bind_pure
  rw [List.flatten_singleton]

theorem reads_text (s : String) :
  (Parse.text (some (Bytes.ofText s).length)).Reads (Bytes.ofText s) s
  := by
  have texts : [Bytes.ofText s].mapM Bytes.toText? = some [s] := by
    rw [List.mapM_cons, Bytes.toText?_ofText]
    rfl
  apply (reads_segments _ (Bytes.ofText s)).bind_pure
  rw [texts]
  change Pure.pure ("" ++ s) = _
  rw [String.empty_append]

end Parse

end Cbor

end Presentment
