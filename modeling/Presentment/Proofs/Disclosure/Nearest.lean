import Mathlib.Data.List.Perm.Basic
import Mathlib.Tactic.Use
import Presentment.Proofs.Disclosure.Age

/-!
# The nearest age attestations

Of more than two age attestations that are requested together, one that the holder has passed
and one that the holder has not are kept, and no other one is nearer.  All others are
superseded.  If two identifiers speak of the nearest age, the order of the request decides which
of them is kept; otherwise the order does not matter.
-/

namespace Presentment.AgeAttestation

variable {identifiers identifiers' : List String} {held : List (Embedded IssuerSignedItem)}
  {identifier other : String} {b : Bool}

/-- The first item of a name holds the truth value `b`. -/
def Attests (held : List (Embedded IssuerSignedItem)) (identifier : String) (b : Bool) : Prop :=
  ∃ before item after, held = before ++ item :: after
    ∧ item.content.elementIdentifier = identifier
    ∧ (∀ earlier ∈ before, earlier.content.elementIdentifier ≠ identifier)
    ∧ item.content.elementValue = .bool b

/-- How many of the identifiers are those of age attestations. -/
def countAges (identifiers : List String) : Nat :=
  identifiers.countP (fun identifier => (age? identifier).isSome)

/-- A requested identifier of an age attestation that says `b`. -/
structure IsAttested (identifiers : List String) (held : List (Embedded IssuerSignedItem))
    (b : Bool) (identifier : String) : Prop where
  mem : identifier ∈ identifiers
  isAge : (age? identifier).isSome
  attests : Attests held identifier b

/-- Whether age `n` is as near as age `m`: of ages that the holder has passed the lower one is
nearer, and of the others the higher one. -/
def IsNear : (b : Bool) → (n m : Nat) → Prop
  | true, n, m => n ≤ m
  | false, n, m => m ≤ n

/-- No requested attestation that says the same speaks of a nearer age. -/
structure IsNearest (identifiers : List String) (held : List (Embedded IssuerSignedItem))
    (b : Bool) (identifier : String) : Prop extends IsAttested identifiers held b identifier where
  isNear : ∀ other, IsAttested identifiers held b other →
    ∀ n ∈ age? identifier, ∀ m ∈ age? other, IsNear b n m

/-- What is superseded, if at most one attestation for each truth value is to be told. -/
structure KeepsNearest (identifiers : List String) (held : List (Embedded IssuerSignedItem))
    (superseded : List String) : Prop where
  /-- Nothing but requested age attestations is superseded. -/
  requested : ∀ identifier ∈ superseded, identifier ∈ identifiers ∧ (age? identifier).isSome
  /-- Of two attestations none is. -/
  few : countAges identifiers ≤ 2 → superseded = []
  /-- Of more than two, each one that says neither is. -/
  silent : 2 < countAges identifiers → ∀ identifier ∈ identifiers, (age? identifier).isSome →
    (∀ b, ¬ Attests held identifier b) → identifier ∈ superseded
  /-- Of more than two, all that say the same are but one, and no other one is nearer. -/
  nearest : 2 < countAges identifiers → ∀ b, (∃ other, IsAttested identifiers held b other) →
    ∃ kept, IsNearest identifiers held b kept ∧ ∀ identifier,
      IsAttested identifiers held b identifier → (identifier ∉ superseded ↔ identifier = kept)

/-! ### What an attestation says -/

theorem attested?_eq_some_iff :
  attested? held identifier = some b ↔ Attests held identifier b
  := by
  rw [attested?]
  constructor
  · intro h
    cases found : held.find? (fun item => item.content.elementIdentifier == identifier) with
    | none =>
      rw [found] at h
      cases h
    | some item =>
      rw [found] at h
      obtain ⟨named, before, after, held_eq, earlier⟩ := List.find?_eq_some_iff_append.mp found
      refine ⟨before, item, after, held_eq, by simpa using named, by simpa using earlier, ?_⟩
      dsimp only at h
      split at h
      · rename_i value_eq
        rw [value_eq, Option.some.inj h]
      · cases h
  · rintro ⟨before, item, after, held_eq, named, earlier, value_eq⟩
    have found : held.find? (fun item => item.content.elementIdentifier == identifier)
        = some item := by
      rw [List.find?_eq_some_iff_append]
      exact ⟨by simpa using named, before, after, held_eq, by simpa using earlier⟩
    simp only [found, value_eq]

/-- An attestation says one thing. -/
theorem Attests.unique {b' : Bool} (h : Attests held identifier b)
    (h' : Attests held identifier b') :
  b = b'
  := by
  rw [← attested?_eq_some_iff] at h h'
  apply Option.some.inj
  rw [← h, h']

theorem countAges_eq (identifiers : List String) :
  countAges identifiers = (requested identifiers).length
  := by
  rw [requested, List.length_filterMap_eq_countP, countAges]
  simp only [Option.isSome_map]

/-! ### What is kept -/

/-- The search for the nearest attestation that says `b`. -/
def nearest? : (b : Bool) → List Requested → Option Requested
  | true => lowest?
  | false => highest?

/-- The identifier that is kept of those that say `b`. -/
def kept? (identifiers : List String) (held : List (Embedded IssuerSignedItem)) (b : Bool) :
    Option String :=
  (nearest? b ((requested identifiers).filter (fun r => attested? held r.2 == some b))).map (·.2)

theorem finds_nearest? (b : Bool) :
  Finds (IsNear b) (nearest? b)
  := by
  cases b with
  | true => exact finds_lowest?
  | false => exact finds_highest?

theorem mem_filter_requested_iff {age : Nat} :
  (age, identifier) ∈ (requested identifiers).filter (fun r => attested? held r.2 == some b)
    ↔ IsAttested identifiers held b identifier ∧ age? identifier = some age
  := by
  rw [List.mem_filter, mem_requested_iff, beq_iff_eq, attested?_eq_some_iff]
  constructor
  · rintro ⟨⟨hmem, age_eq⟩, attests⟩
    exact ⟨⟨hmem, Option.isSome_of_eq_some age_eq, attests⟩, age_eq⟩
  · rintro ⟨⟨hmem, -, attests⟩, age_eq⟩
    exact ⟨⟨hmem, age_eq⟩, attests⟩

theorem isNearest_of_kept? (h : kept? identifiers held b = some identifier) :
  IsNearest identifiers held b identifier
  := by
  obtain ⟨⟨age, _⟩, found, rfl⟩ := Option.map_eq_some_iff.mp h
  obtain ⟨hmem, first⟩ := (finds_nearest? b).first _ _ found
  obtain ⟨attested, age_eq⟩ := mem_filter_requested_iff.mp hmem
  use attested
  intro other hother n hn m hm
  cases age_eq.symm.trans hn
  exact first (m, other) (mem_filter_requested_iff.mpr ⟨hother, hm⟩)

/-- One of the attestations that say the same is kept. -/
theorem exists_kept? (h : IsAttested identifiers held b other) :
  ∃ kept, kept? identifiers held b = some kept
  := by
  obtain ⟨age, age_eq⟩ := Option.isSome_iff_exists.mp h.isAge
  have hmem := mem_filter_requested_iff.mpr ⟨h, age_eq⟩
  rw [← Option.isSome_iff_exists, kept?, Option.isSome_map, Option.isSome_iff_ne_none, ne_eq,
    (finds_nearest? b).eq_none_iff]
  exact List.ne_nil_of_mem hmem

theorem nearest_eq (identifiers : List String) (held : List (Embedded IssuerSignedItem)) :
  nearest held (requested identifiers)
    = (kept? identifiers held true).toList ++ (kept? identifiers held false).toList
  := by
  rw [nearest, List.map_append, kept?, kept?, Option.toList_map, Option.toList_map]
  rfl

theorem mem_nearest_iff :
  identifier ∈ nearest held (requested identifiers)
    ↔ ∃ b, kept? identifiers held b = some identifier
  := by
  rw [nearest_eq, List.mem_append, Option.mem_toList, Option.mem_toList, Bool.exists_bool, or_comm]

/-- Of more than two age attestations all that are not kept are superseded. -/
theorem mem_superseded_iff :
  identifier ∈ superseded identifiers held
    ↔ 2 < countAges identifiers ∧ identifier ∈ identifiers ∧ (age? identifier).isSome
      ∧ ∀ b, kept? identifiers held b ≠ some identifier
  := by
  rw [superseded, countAges_eq]
  split
  · rename_i few
    simp [Nat.not_lt.mpr few]
  · rename_i many
    have isRequested : identifier ∈ (requested identifiers).map (·.2)
        ↔ identifier ∈ identifiers ∧ (age? identifier).isSome := by
      simp [mem_requested_iff, Option.isSome_iff_exists]
    rw [List.mem_filter, Bool.not_eq_true', List.contains_eq_mem, decide_eq_false_iff_not,
      mem_nearest_iff, not_exists, isRequested, and_assoc]
    exact (and_iff_right (Nat.not_le.mp many)).symm

theorem superseded_eq_nil (few : countAges identifiers ≤ 2) :
  superseded identifiers held = []
  := by
  rw [List.eq_nil_iff_forall_not_mem]
  intro identifier h
  exact Nat.not_lt.mpr few (mem_superseded_iff.mp h).1

/-- Of attestations that say the same, the one that is kept is the one that is not superseded. -/
theorem IsAttested.not_mem_superseded_iff (h : IsAttested identifiers held b identifier)
    (many : 2 < countAges identifiers) :
  identifier ∉ superseded identifiers held ↔ kept? identifiers held b = some identifier
  := by
  rw [mem_superseded_iff]
  constructor
  · intro returned
    by_contra unkept
    apply returned
    use many, h.mem, h.isAge
    rintro b' kept
    rw [(isNearest_of_kept? kept).attests.unique h.attests] at kept
    exact unkept kept
  · rintro kept ⟨-, -, -, unkept⟩
    exact unkept b kept

theorem length_nearest_le (identifiers : List String) (held : List (Embedded IssuerSignedItem)) :
  (nearest held (requested identifiers)).length ≤ 2
  := by
  rw [nearest_eq, List.length_append]
  exact Nat.add_le_add Option.length_toList_le Option.length_toList_le

/-- Of identifiers that are not superseded none supersedes another one. -/
theorem superseded_of_not_mem_superseded {others : List String} (nodup : others.Nodup)
    (left : ∀ identifier ∈ others, identifier ∈ identifiers
      ∧ identifier ∉ superseded identifiers held) :
  superseded others held = []
  := by
  apply superseded_eq_nil
  by_contra many
  rw [Nat.not_le] at many
  have subperm : others.Subperm identifiers :=
    List.subperm_of_subset nodup (fun identifier h => (left identifier h).1)
  have kept : others.filter (fun identifier => (age? identifier).isSome)
      ⊆ nearest held (requested identifiers) := by
    intro identifier h
    obtain ⟨hmem, isAge⟩ := List.mem_filter.mp h
    obtain ⟨hidentifier, unsuperseded⟩ := left identifier hmem
    rw [mem_nearest_iff]
    by_contra unkept
    apply unsuperseded
    rw [mem_superseded_iff]
    use Nat.lt_of_lt_of_le many (subperm.countP_le _), hidentifier, isAge
    exact not_exists.mp unkept
  have short := (List.subperm_of_subset (nodup.filter _) kept).length_le
  rw [← List.countP_eq_length_filter] at short
  exact Nat.not_lt.mpr (Nat.le_trans short (length_nearest_le identifiers held)) many

/-- Of more than two age attestations the nearest ones are kept and all others superseded. -/
theorem superseded_keepsNearest (identifiers : List String)
    (held : List (Embedded IssuerSignedItem)) :
  KeepsNearest identifiers held (superseded identifiers held)
  := by
  constructor
  case requested =>
    intro identifier h
    obtain ⟨-, hmem, isAge, -⟩ := mem_superseded_iff.mp h
    exact ⟨hmem, isAge⟩
  case few =>
    exact superseded_eq_nil
  case silent =>
    intro many identifier hmem isAge silent
    rw [mem_superseded_iff]
    use many, hmem, isAge
    intro b kept
    exact silent b (isNearest_of_kept? kept).attests
  case nearest =>
    rintro many b ⟨other, hother⟩
    obtain ⟨kept, kept_eq⟩ := exists_kept? hother
    use kept, isNearest_of_kept? kept_eq
    intro identifier attested
    rw [attested.not_mem_superseded_iff many, kept_eq, Option.some.injEq, eq_comm]

/-! ### The order of the request -/

/-- Whatever the order of identifiers is, the same ones are superseded. -/
def IsOrderFree (identifiers : List String) (held : List (Embedded IssuerSignedItem)) : Prop :=
  ∀ identifiers', identifiers.Perm identifiers' → ∀ identifier,
    identifier ∈ superseded identifiers held ↔ identifier ∈ superseded identifiers' held

theorem IsNearest.perm (perm : identifiers.Perm identifiers')
    (h : IsNearest identifiers held b identifier) :
  IsNearest identifiers' held b identifier
  := by
  use ⟨perm.mem_iff.mp h.mem, h.isAge, h.attests⟩
  intro other hother
  exact h.isNear other ⟨perm.mem_iff.mpr hother.mem, hother.isAge, hother.attests⟩

theorem IsNear.antisymm {n m : Nat} (h : IsNear b n m) (h' : IsNear b m n) :
  n = m
  := by
  cases b with
  | true => exact Nat.le_antisymm h h'
  | false => exact Nat.le_antisymm h' h

/-- Nearest attestations that say the same speak of the same age. -/
theorem IsNearest.age_eq (h : IsNearest identifiers held b identifier)
    (h' : IsNearest identifiers held b other) :
  age? identifier = age? other
  := by
  obtain ⟨n, hn⟩ := Option.isSome_iff_exists.mp h.isAge
  obtain ⟨m, hm⟩ := Option.isSome_iff_exists.mp h'.isAge
  rw [hn, hm, (h.isNear other h'.toIsAttested n hn m hm).antisymm
    (h'.isNear identifier h.toIsAttested m hm n hn)]

theorem lowest?_cons {first : Requested} {rest : List Requested}
    (h : ∀ r ∈ rest, first.1 ≤ r.1) :
  lowest? (first :: rest) = some first
  := by
  rw [lowest?]
  cases found : lowest? rest with
  | none => rfl
  | some best => exact if_neg (Nat.not_lt.mpr (h best (finds_lowest?.first rest best found).1))

theorem highest?_concat {last : Requested} {rest : List Requested}
    (h : ∀ r ∈ rest, r.1 ≤ last.1) :
  highest? (rest ++ [last]) = some last
  := by
  induction rest with
  | nil => rfl
  | cons first rest ih =>
    rw [List.cons_append, highest?, ih (fun r hr => h r (List.mem_cons_of_mem first hr))]
    exact if_neg (Nat.not_lt.mpr (h first List.mem_cons_self))

/-- Each of the nearest attestations is kept in some order: the lowest one if it comes first, the
highest one if it comes last. -/
theorem IsNearest.exists_perm (h : IsNearest identifiers held b identifier) :
  ∃ identifiers', identifiers.Perm identifiers' ∧ kept? identifiers' held b = some identifier
  := by
  obtain ⟨age, age_eq⟩ := Option.isSome_iff_exists.mp h.isAge
  have single : (requested [identifier]).filter (fun r => attested? held r.2 == some b)
      = [(age, identifier)] := by
    simp [requested, age_eq, attested?_eq_some_iff.mpr h.attests]
  have near : ∀ r ∈ (requested (identifiers.erase identifier)).filter
      (fun r => attested? held r.2 == some b), IsNear b age r.1 := by
    rintro ⟨m, other⟩ hr
    obtain ⟨⟨hmem, isAge, attests⟩, hm⟩ := mem_filter_requested_iff.mp hr
    exact h.isNear other ⟨List.mem_of_mem_erase hmem, isAge, attests⟩ age age_eq m hm
  have front := List.perm_cons_erase h.mem
  rw [requested] at single near
  cases b with
  | true =>
    use identifier :: identifiers.erase identifier, front
    rw [kept?, nearest?, requested, ← List.singleton_append, List.filterMap_append,
      List.filter_append, single, List.singleton_append, lowest?_cons near]
    rfl
  | false =>
    use identifiers.erase identifier ++ [identifier],
      front.trans (List.perm_append_singleton _ _).symm
    rw [kept?, nearest?, requested, List.filterMap_append, List.filter_append, single,
      highest?_concat near]
    rfl

theorem countAges_perm (perm : identifiers.Perm identifiers') :
  countAges identifiers = countAges identifiers'
  := perm.countP_eq _

/-- An attestation that alone is nearest is kept in any order. -/
theorem kept?_perm (perm : identifiers.Perm identifiers')
    (alone : ∀ other, IsNearest identifiers held b other → identifier = other)
    (h : kept? identifiers held b = some identifier) :
  kept? identifiers' held b = some identifier
  := by
  obtain ⟨kept, kept_eq⟩ := exists_kept? ((isNearest_of_kept? h).perm perm).toIsAttested
  rw [kept_eq, alone kept ((isNearest_of_kept? kept_eq).perm perm.symm)]

/-- The order of the request does not matter if and only if at most two age attestations are
requested or, for each truth value, a single identifier is nearest.  In any case the ages that
are told do not depend on the order. -/
theorem isOrderFree_iff (identifiers : List String) (held : List (Embedded IssuerSignedItem)) :
  (IsOrderFree identifiers held
      ↔ countAges identifiers ≤ 2 ∨ ∀ b identifier other,
        IsNearest identifiers held b identifier → IsNearest identifiers held b other →
          identifier = other)
    ∧ ∀ identifiers', identifiers.Perm identifiers' → 2 < countAges identifiers →
      ∀ b identifier other,
        IsAttested identifiers held b identifier → identifier ∉ superseded identifiers held →
        IsAttested identifiers' held b other → other ∉ superseded identifiers' held →
          age? identifier = age? other
  := by
  constructor
  · constructor
    · intro free
      rw [or_iff_not_imp_left, Nat.not_le]
      intro many b identifier other h h'
      obtain ⟨order, perm, kept⟩ := h.exists_perm
      obtain ⟨order', perm', kept'⟩ := h'.exists_perm
      -- in one order the first of them is kept and in the other one the second
      have returned : identifier ∉ superseded order held :=
        ((h.perm perm).not_mem_superseded_iff (countAges_perm perm ▸ many)).mpr kept
      rw [← free order perm, free order' perm',
        (h.perm perm').not_mem_superseded_iff (countAges_perm perm' ▸ many), kept'] at returned
      exact (Option.some.inj returned).symm
    · rintro (few | alone) identifiers' perm identifier
      · rw [mem_superseded_iff, mem_superseded_iff, ← countAges_perm perm]
        simp only [Nat.not_lt.mpr few, false_and]
      · have kept_iff (b : Bool) : kept? identifiers held b = some identifier
            ↔ kept? identifiers' held b = some identifier := by
          constructor
          · intro h
            apply kept?_perm perm _ h
            intro other h'
            exact alone b identifier other (isNearest_of_kept? h) h'
          · intro h
            apply kept?_perm perm.symm _ h
            intro other h'
            exact alone b identifier other ((isNearest_of_kept? h).perm perm.symm)
              (h'.perm perm.symm)
        rw [mem_superseded_iff, mem_superseded_iff, ← countAges_perm perm, perm.mem_iff]
        simp only [ne_eq, kept_iff]
  · intro identifiers' perm many b identifier other h returned h' returned'
    rw [h.not_mem_superseded_iff many] at returned
    rw [h'.not_mem_superseded_iff (countAges_perm perm ▸ many)] at returned'
    exact (isNearest_of_kept? returned).age_eq ((isNearest_of_kept? returned').perm perm.symm)

/-! ### Two spellings of an age -/

/-- An age attestation. -/
def eighteen : Embedded IssuerSignedItem where
  bytes := Cbor.encode (⟨18, [1], "age_over_18", .bool true⟩ : IssuerSignedItem)
  content := ⟨18, [1], "age_over_18", .bool true⟩
  decode_bytes := rfl

/-- An attestation of the same age, with a zero in front. -/
def paddedEighteen : Embedded IssuerSignedItem where
  bytes := Cbor.encode (⟨19, [1], "age_over_018", .bool true⟩ : IssuerSignedItem)
  content := ⟨19, [1], "age_over_018", .bool true⟩
  decode_bytes := rfl

/-- A request for two attestations of the same age and one of another age. -/
def spellings : List String :=
  ["age_over_18", "age_over_018", "age_over_21"]

/-- If two identifiers speak of the nearest age, the one that is requested first is kept. -/
theorem not_isOrderFree_spellings :
  spellings.Nodup
    ∧ superseded spellings [eighteen, paddedEighteen] = ["age_over_018", "age_over_21"]
    ∧ superseded ["age_over_018", "age_over_18", "age_over_21"] [eighteen, paddedEighteen]
      = ["age_over_18", "age_over_21"]
    ∧ ¬ IsOrderFree spellings [eighteen, paddedEighteen]
  := by
  have kept_first : superseded spellings [eighteen, paddedEighteen]
      = ["age_over_018", "age_over_21"] := by
    decide +kernel
  have kept_second : superseded ["age_over_018", "age_over_18", "age_over_21"]
      [eighteen, paddedEighteen] = ["age_over_18", "age_over_21"] := by
    decide +kernel
  refine ⟨by decide, kept_first, kept_second, ?_⟩
  intro free
  have same := free ["age_over_018", "age_over_18", "age_over_21"] (.swap _ _ _) "age_over_18"
  rw [kept_first, kept_second] at same
  simp at same

end Presentment.AgeAttestation
