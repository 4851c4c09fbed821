import Mathlib.Data.List.DropRight
import Presentment.Text.Base64

/-!
# Base64 text survives

Groups of bytes are cut into values of six bits and put together again, and the characters of
an alphabet stand for one value each.  None of them is the padding.
-/

namespace Presentment.Base64

/-- Every value of six bits has a character of its own, which is not the padding. -/
def Alphabet.IsProper (a : Alphabet) : Prop :=
  ∀ n < 64, a.value? (a.char n) = some n ∧ a.char n ≠ '='

instance (a : Alphabet) : Decidable a.IsProper :=
  inferInstanceAs (Decidable (∀ n < 64, a.value? (a.char n) = some n ∧ a.char n ≠ '='))

theorem url_isProper :
  url.IsProper
  := by decide

theorem lt_of_mem_toSextets {bs : Bytes} {n : Nat} (h : n ∈ toSextets bs) :
  n < 64
  := by
  fun_induction toSextets bs with
  | case1 => cases h
  | case2 x =>
    have := x.toNat_lt
    simp only [List.mem_cons, List.not_mem_nil, or_false] at h
    omega
  | case3 x y =>
    have := x.toNat_lt
    have := y.toNat_lt
    simp only [List.mem_cons, List.not_mem_nil, or_false] at h
    omega
  | case4 x y z rest ih =>
    have := x.toNat_lt
    have := y.toNat_lt
    have := z.toNat_lt
    rw [List.mem_append] at h
    rcases h with h | h
    · simp only [List.mem_cons, List.not_mem_nil, or_false] at h
      omega
    · exact ih h

theorem ofSextets?_toSextets (bs : Bytes) :
  ofSextets? (toSextets bs) = some bs
  := by
  fun_induction toSextets bs with
  | case1 => rfl
  | case2 x =>
    have first : x.toNat / 4 * 4 + x.toNat % 4 * 16 / 16 = x.toNat := by omega
    rw [ofSextets?, if_pos (by omega), first, UInt8.ofNat_toNat]
  | case3 x y =>
    have := y.toNat_lt
    have first : x.toNat / 4 * 4 + (x.toNat % 4 * 16 + y.toNat / 16) / 16 = x.toNat := by omega
    have second : (x.toNat % 4 * 16 + y.toNat / 16) % 16 * 16 + y.toNat % 16 * 4 / 4 = y.toNat := by
      omega
    rw [ofSextets?, if_pos (by omega), first, second, UInt8.ofNat_toNat, UInt8.ofNat_toNat]
  | case4 x y z rest ih =>
    have := y.toNat_lt
    have := z.toNat_lt
    have first : x.toNat / 4 * 4 + (x.toNat % 4 * 16 + y.toNat / 16) / 16 = x.toNat := by omega
    have second : (x.toNat % 4 * 16 + y.toNat / 16) % 16 * 16
        + (y.toNat % 16 * 4 + z.toNat / 64) / 4 = y.toNat := by
      omega
    have third : (y.toNat % 16 * 4 + z.toNat / 64) % 4 * 64 + z.toNat % 64 = z.toNat := by omega
    simp only [List.cons_append, List.nil_append, ofSextets?, ih, first, second, third,
      UInt8.ofNat_toNat]
    rfl

/-- A text without the padding character has no padding. -/
theorem withoutPadding?_of_not_mem {cs : List Char} (h : '=' ∉ cs) :
  withoutPadding? cs = some cs
  := by
  have body : (cs.reverse.dropWhile (· == '=')).reverse = cs := by
    apply List.rdropWhile_eq_self_iff.mpr
    intro nonempty last
    rw [beq_iff_eq] at last
    rw [← last] at h
    exact h (List.getLast_mem nonempty)
  rw [withoutPadding?, body, if_pos (by omega)]

theorem mapM_value?_map_char {a : Alphabet} (proper : a.IsProper) {sextets : List Nat}
    (h : ∀ n ∈ sextets, n < 64) :
  (sextets.map a.char).mapM a.value? = some sextets
  := by
  induction sextets with
  | nil => rfl
  | cons n rest ih =>
    rw [List.map_cons, List.mapM_cons, (proper n (h n List.mem_cons_self)).1,
      ih (fun m hm => h m (List.mem_cons_of_mem n hm))]
    rfl

/-- Bytes survive as text. -/
theorem decode?_encode {a : Alphabet} (proper : a.IsProper) (bs : Bytes) :
  decode? a (encode a bs) = some bs
  := by
  have unpadded : '=' ∉ (toSextets bs).map a.char := by
    intro mem
    obtain ⟨n, hn, heq⟩ := List.mem_map.mp mem
    exact (proper n (lt_of_mem_toSextets hn)).2 heq
  have values : ((toSextets bs).map a.char).mapM a.value? = some (toSextets bs) :=
    mapM_value?_map_char proper (fun n hn => lt_of_mem_toSextets hn)
  rw [decode?, encode, String.toList_ofList, withoutPadding?_of_not_mem unpadded]
  change ((toSextets bs).map a.char).mapM a.value? >>= ofSextets? = _
  rw [values]
  exact ofSextets?_toSextets bs

end Presentment.Base64
