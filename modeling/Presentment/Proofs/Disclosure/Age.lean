import Mathlib.Data.List.Basic
import Presentment.Disclosure.Age

/-!
# Age attestations in any order

The nearest attestations are found by their ages.  So if no two of the requested identifiers
speak of the same age, their order does not matter: the same ones are superseded.
-/

namespace Presentment.AgeAttestation

/-- No two identifiers speak of the same age. -/
def AgesDiffer (identifiers : List String) : Prop :=
  ∀ a ∈ identifiers, ∀ b ∈ identifiers, (age? a).isSome → age? a = age? b → a = b

/-! ### The nearest attestations -/

/-- A search for an attestation whose age comes before all others. -/
structure Finds (le : Nat → Nat → Prop) (search : List Requested → Option Requested) : Prop where
  eq_none_iff : ∀ rs, search rs = none ↔ rs = []
  first : ∀ rs best, search rs = some best → best ∈ rs ∧ ∀ r ∈ rs, le best.1 r.1

/-- A search finds what comes first if it keeps the one that comes first of the head of the list
and of what it finds in the rest. -/
theorem finds_of_cons {le : Nat → Nat → Prop} {search : List Requested → Option Requested}
    (trans : ∀ l m n, le l m → le m n → le l n) (nil : search [] = none)
    (cons : ∀ first rest, ∃ best, search (first :: rest) = some best
      ∧ (best = first ∨ search rest = some best)
      ∧ le best.1 first.1 ∧ ∀ other ∈ search rest, le best.1 other.1) :
  Finds le search
  := by
  have eq_none_iff (rs : List Requested) : search rs = none ↔ rs = [] := by
    cases rs with
    | nil => simp [nil]
    | cons first rest =>
      obtain ⟨best, found, -⟩ := cons first rest
      simp [found]
  use eq_none_iff
  intro rs best h
  induction rs generalizing best with
  | nil =>
    rw [nil] at h
    cases h
  | cons first rest ih =>
    obtain ⟨_, found, origin, le_first, le_rest⟩ := cons first rest
    cases found.symm.trans h
    constructor
    · rcases origin with rfl | later
      · exact List.mem_cons_self
      · exact List.mem_cons_of_mem first (ih best later).1
    · rw [List.forall_mem_cons]
      use le_first
      intro r hr
      cases later : search rest with
      | none =>
        rw [(eq_none_iff rest).mp later] at hr
        cases hr
      | some other => exact trans _ _ _ (le_rest other later) ((ih other later).2 r hr)

theorem finds_lowest? :
  Finds (· ≤ ·) lowest?
  := by
  refine finds_of_cons (fun _ _ _ => Nat.le_trans) rfl (fun first rest => ?_)
  rw [lowest?]
  cases lowest? rest with
  | none => exact ⟨first, rfl, .inl rfl, Nat.le_refl _, by simp⟩
  | some lowest =>
    dsimp only
    split
    · rename_i below
      exact ⟨lowest, rfl, .inr rfl, Nat.le_of_lt below, by simp⟩
    · rename_i above
      exact ⟨first, rfl, .inl rfl, Nat.le_refl _, by simpa using above⟩

theorem finds_highest? :
  Finds (· ≥ ·) highest?
  := by
  refine finds_of_cons (fun _ _ _ above below => Nat.le_trans below above) rfl
    (fun first rest => ?_)
  rw [highest?]
  cases highest? rest with
  | none => exact ⟨first, rfl, .inl rfl, Nat.le_refl _, by simp⟩
  | some highest =>
    dsimp only
    split
    · rename_i below
      exact ⟨first, rfl, .inl rfl, Nat.le_refl _, by simpa using Nat.le_of_lt below⟩
    · rename_i above
      exact ⟨highest, rfl, .inr rfl, Nat.not_lt.mp above, by simp⟩

/-- Among attestations of different ages the first one does not depend on their order. -/
theorem Finds.congr {le : Nat → Nat → Prop} {search : List Requested → Option Requested}
    (finds : Finds le search) (antisymm : ∀ m n, le m n → le n m → m = n)
    {rs rs' : List Requested} (same : ∀ r, r ∈ rs ↔ r ∈ rs')
    (differ : ∀ a ∈ rs, ∀ b ∈ rs, a.1 = b.1 → a = b) :
  search rs = search rs'
  := by
  cases h : search rs with
  | none =>
    rw [finds.eq_none_iff] at h
    subst h
    symm
    rw [finds.eq_none_iff, List.eq_nil_iff_forall_not_mem]
    intro r hr
    exact List.not_mem_nil ((same r).mpr hr)
  | some best =>
    obtain ⟨hmem, hle⟩ := finds.first rs best h
    cases h' : search rs' with
    | none =>
      rw [finds.eq_none_iff] at h'
      subst h'
      cases (same best).mp hmem
    | some best' =>
      obtain ⟨hmem', hle'⟩ := finds.first rs' best' h'
      congr 1
      apply differ best hmem best' ((same best').mpr hmem')
      apply antisymm
      · exact hle best' ((same best').mpr hmem')
      · exact hle' best ((same best).mp hmem)

/-! ### What is superseded -/

theorem mem_requested_iff {identifiers : List String} {r : Requested} :
  r ∈ requested identifiers ↔ r.2 ∈ identifiers ∧ age? r.2 = some r.1
  := by
  obtain ⟨age, identifier⟩ := r
  simp [requested]

/-- The order of identifiers of different ages does not matter. -/
theorem superseded_perm {identifiers identifiers' : List String}
    (perm : identifiers.Perm identifiers') (differ : AgesDiffer identifiers)
    (held : List (Embedded IssuerSignedItem)) :
  (superseded identifiers held).Perm (superseded identifiers' held)
  := by
  have requested_perm : (requested identifiers).Perm (requested identifiers') := perm.filterMap _
  have nearest_eq : nearest held (requested identifiers) = nearest held (requested identifiers')
      := by
    have same (p : Requested → Bool) :
        ∀ r, r ∈ (requested identifiers).filter p ↔ r ∈ (requested identifiers').filter p :=
      fun r => (requested_perm.filter p).mem_iff
    have differ (p : Requested → Bool) : ∀ a ∈ (requested identifiers).filter p,
        ∀ b ∈ (requested identifiers).filter p, a.1 = b.1 → a = b := by
      intro a ha b hb age_eq
      obtain ⟨ha, ha_age⟩ := mem_requested_iff.mp (List.mem_of_mem_filter ha)
      obtain ⟨hb, hb_age⟩ := mem_requested_iff.mp (List.mem_of_mem_filter hb)
      apply Prod.ext age_eq
      apply differ a.2 ha b.2 hb (Option.isSome_of_eq_some ha_age)
      rw [ha_age, hb_age, age_eq]
    rw [nearest, nearest, finds_lowest?.congr (fun _ _ => Nat.le_antisymm) (same _) (differ _),
      finds_highest?.congr (fun _ _ above below => Nat.le_antisymm below above) (same _) (differ _)]
  rw [superseded, superseded, nearest_eq, requested_perm.length_eq]
  split
  · exact .nil
  · exact (requested_perm.map _).filter _

end Presentment.AgeAttestation
