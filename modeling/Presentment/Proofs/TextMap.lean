import Mathlib.Data.List.Induction
import Mathlib.Data.List.Nodup
import Presentment.NonEmpty

/-!
# Looking up in maps

A map with text keys is determined by what its keys stand for.  Each way to make a map is
described by what a key stands for in it.
-/

namespace Presentment

namespace TextMap

variable {β γ : Type}

@[simp]
theorem find?_empty (key : String) :
  (∅ : TextMap β).find? key = none
  := rfl

theorem find?_insertEntry (key : String) (value : β) (entries : List (String × β))
    (key' : String) :
  (insertEntry key value entries).find? (fun entry => entry.1 == key')
    = if key' = key then some (key, value) else entries.find? (fun entry => entry.1 == key')
  := by
  fun_induction insertEntry key value entries with
  | case1 =>
    by_cases h : key' = key
    · simp [h]
    · simp [Ne.symm h, h]
  | case2 entry rest _ =>
    by_cases h : key' = key
    · simp [h]
    · simp [Ne.symm h, h]
  | case3 entry rest _ heq =>
    by_cases h : key' = key
    · simp [h]
    · simp [Ne.symm h, h, ← heq]
  | case4 entry rest _ hne ih =>
    rw [List.find?_cons, ih]
    by_cases h : key' = key
    · simp [h, beq_eq_false_iff_ne.mpr (Ne.symm hne)]
    · simp only [List.find?_cons, h, if_false]

theorem find?_insert (m : TextMap β) (key : String) (value : β) (key' : String) :
  (m.insert key value).find? key' = if key' = key then some value else m.find? key'
  := by
  rw [find?, insert, find?_insertEntry]
  split
  · rfl
  · rfl

@[simp]
theorem find?_insert_self (m : TextMap β) (key : String) (value : β) :
  (m.insert key value).find? key = some value
  := by
  rw [find?_insert, if_pos rfl]

theorem find?_insert_of_ne (m : TextMap β) {key key' : String} (value : β) (h : key' ≠ key) :
  (m.insert key value).find? key' = m.find? key'
  := by
  rw [find?_insert, if_neg h]

theorem nodup_keys (m : TextMap β) :
  m.keys.Nodup
  := by
  rw [keys, List.Nodup, List.pairwise_map]
  apply m.sorted.imp
  intro a b hlt heq
  rw [heq] at hlt
  exact String.lt_irrefl _ hlt

/-- An entry is what its key stands for. -/
theorem mem_entries_iff {m : TextMap β} {key : String} {value : β} :
  (key, value) ∈ m.entries ↔ m.find? key = some value
  := by
  constructor
  · intro h
    obtain ⟨entry, hentry⟩ : ∃ entry, m.entries.find? (fun e => e.1 == key) = some entry := by
      apply Option.isSome_iff_exists.mp
      rw [List.find?_isSome]
      exact ⟨_, h, beq_self_eq_true key⟩
    have hkey : entry.1 = key := by simpa using List.find?_some hentry
    have heq : entry = (key, value) :=
      List.inj_on_of_nodup_map m.nodup_keys (List.mem_of_find?_eq_some hentry) h hkey
    rw [find?, hentry, heq]
    rfl
  · intro h
    obtain ⟨entry, hentry, rfl⟩ := Option.map_eq_some_iff.mp h
    have hkey : entry.1 = key := by simpa using List.find?_some hentry
    rw [← hkey]
    exact List.mem_of_find?_eq_some hentry

theorem isEmpty_iff {m : TextMap β} :
  m.isEmpty = true ↔ ∀ key, m.find? key = none
  := by
  rw [isEmpty, List.isEmpty_iff]
  constructor
  · intro h key
    rw [find?, h]
    rfl
  · intro h
    apply List.eq_nil_iff_forall_not_mem.mpr
    rintro ⟨key, value⟩ hmem
    rw [mem_entries_iff, h] at hmem
    cases hmem

theorem isEmpty_eq_false_iff {m : TextMap β} :
  m.isEmpty = false ↔ ∃ key, (m.find? key).isSome
  := by
  rw [← Bool.not_eq_true, isEmpty_iff, not_forall]
  simp only [Option.isSome_iff_ne_none, ne_eq]

theorem ext_entries {m m' : TextMap β} (h : m.entries = m'.entries) :
  m = m'
  := by
  cases m
  cases m'
  cases h
  rfl

theorem nodup_entries (m : TextMap β) :
  m.entries.Nodup
  := m.nodup_keys.of_map

/-- A map is determined by what its keys stand for. -/
theorem ext_find? {m m' : TextMap β} (h : ∀ key, m.find? key = m'.find? key) :
  m = m'
  := by
  have same : m.entries.Perm m'.entries := by
    apply (List.perm_ext_iff_of_nodup m.nodup_entries m'.nodup_entries).mpr
    rintro ⟨key, value⟩
    rw [mem_entries_iff, mem_entries_iff, h]
  apply ext_entries
  apply same.eq_of_pairwise _ m.sorted m'.sorted
  intro a b _ _ below above
  exact (String.lt_asymm below above).elim

/-- An entry with a key above all others comes last. -/
theorem insertEntry_eq_concat {key : String} {value : β} {entries : List (String × β)}
    (h : ∀ entry ∈ entries, entry.1 < key) :
  insertEntry key value entries = entries ++ [(key, value)]
  := by
  induction entries with
  | nil => rfl
  | cons entry rest ih =>
    have above := h entry List.mem_cons_self
    rw [insertEntry, if_neg, if_neg, ih]
    · rfl
    · exact fun entry hentry => h entry (List.mem_cons_of_mem _ hentry)
    · rintro rfl
      exact String.lt_irrefl _ above
    · intro below
      exact String.lt_irrefl _ (String.lt_trans above below)

theorem foldl_insert_entries {m : TextMap β} {rest : List (String × β)}
    (h : (m.entries ++ rest).Pairwise (fun a b => a.1 < b.1)) :
  (rest.foldl (fun m entry => m.insert entry.1 entry.2) m).entries = m.entries ++ rest
  := by
  induction rest generalizing m with
  | nil => exact (List.append_nil _).symm
  | cons entry rest ih =>
    have above : ∀ entry' ∈ m.entries, entry'.1 < entry.1 := by
      intro entry' hentry'
      exact (List.pairwise_append.mp h).2.2 entry' hentry' entry List.mem_cons_self
    have inserted : (m.insert entry.1 entry.2).entries = m.entries ++ [entry] :=
      insertEntry_eq_concat above
    rw [List.foldl_cons, ih, inserted, List.append_assoc]
    · rfl
    · rw [inserted, List.append_assoc]
      exact h

/-- A map is made from its own entries. -/
theorem ofList_entries (m : TextMap β) :
  ofList m.entries = m
  := by
  apply ext_entries
  rw [ofList, foldl_insert_entries]
  · rfl
  · exact m.sorted

@[simp]
theorem find?_filterMap (f : String → β → Option γ) (m : TextMap β) (key : String) :
  (m.filterMap f).find? key = (m.find? key).bind (f key)
  := by
  apply Option.ext
  intro c
  rw [← mem_entries_iff, Option.bind_eq_some_iff]
  simp only [filterMap, List.mem_filterMap, Option.map_eq_some_iff, Prod.mk.injEq, Prod.exists,
    ← mem_entries_iff]
  constructor
  · rintro ⟨_, b, hmem, c', hc, rfl, rfl⟩
    exact ⟨b, hmem, hc⟩
  · rintro ⟨b, hmem, hc⟩
    exact ⟨key, b, hmem, c, hc, rfl, rfl⟩

theorem find?_map (f : String → β → γ) (m : TextMap β) (key : String) :
  (m.map f).find? key = (m.find? key).map (f key)
  := by
  apply Option.ext
  intro c
  rw [← mem_entries_iff, map, List.mem_map, Option.map_eq_some_iff]
  constructor
  · rintro ⟨⟨key', b⟩, mem, heq⟩
    cases heq
    exact ⟨b, mem_entries_iff.mp mem, rfl⟩
  · rintro ⟨b, find_eq, rfl⟩
    exact ⟨_, mem_entries_iff.mpr find_eq, rfl⟩

/-- What a key stands for in the map of a list in which every key stands for the same. -/
theorem find?_ofList_const (keys : List String) (value : β) (key : String) :
  (ofList (keys.map (·, value))).find? key = if key ∈ keys then some value else none
  := by
  induction keys using List.reverseRecOn with
  | nil => rfl
  | append_singleton keys k ih =>
    rw [ofList, List.map_append, List.map_singleton, List.foldl_concat, find?_insert]
    rw [ofList] at ih
    by_cases h : key = k
    · simp [h]
    · simp [h, ih]

/-- The map of a list without repeated keys has the entries of the list. -/
theorem find?_ofList {entries : List (String × β)} (nodup : (entries.map (·.1)).Nodup)
    {key : String} {value : β} :
  (ofList entries).find? key = some value ↔ (key, value) ∈ entries
  := by
  induction entries using List.reverseRecOn with
  | nil => simp [ofList]
  | append_singleton entries entry ih =>
    obtain ⟨k, v⟩ := entry
    rw [List.map_append, List.map_singleton] at nodup
    obtain ⟨distinct, -, fresh⟩ := List.nodup_append.mp nodup
    rw [ofList, List.foldl_concat, find?_insert, List.mem_append, List.mem_singleton]
    by_cases h : key = k
    · have unlisted : (key, value) ∉ entries := by
        intro hmem
        exact fresh key (List.mem_map_of_mem hmem) k (List.mem_singleton_self k) h
      simp [h ▸ unlisted, h, eq_comm]
    · rw [if_neg h, ← ofList, ih distinct]
      simp [h]

end TextMap

namespace NonEmptyList

variable {α : Type}

theorem ofList?_eq_some_iff {as : List α} {bs : NonEmptyList α} :
  ofList? as = some bs ↔ bs.toList = as
  := by
  obtain ⟨bs, hbs⟩ := bs
  cases as with
  | nil => simp [ofList?, hbs]
  | cons a as => simp [ofList?, eq_comm]

theorem ofList?_eq_none_iff {as : List α} :
  ofList? as = none ↔ as = []
  := by
  cases as with
  | nil => simp [ofList?]
  | cons a as => simp [ofList?]

theorem elim_ofList? (as : List α) :
  (ofList? as).elim [] (·.toList) = as
  := by
  cases as with
  | nil => rfl
  | cons a as => rfl

/-- What is left of a list is left of it as a list with an element. -/
theorem ofList?_filter (p : α → Bool) (as : List α) :
  ofList? (as.filter p) = (ofList? as).bind (fun bs => ofList? (bs.toList.filter p))
  := by
  cases as with
  | nil => rfl
  | cons a as => rfl

end NonEmptyList

namespace NonEmptyMap

variable {β : Type}

theorem ofMap?_eq_some_iff {m : TextMap β} {n : NonEmptyMap β} :
  ofMap? m = some n ↔ n.toMap = m
  := by
  obtain ⟨n, hn⟩ := n
  rw [ofMap?]
  split
  · simp [eq_comm]
  · rename_i h
    constructor
    · intro h'
      cases h'
    · rintro rfl
      exact absurd hn h

theorem ofMap?_eq_none_iff {m : TextMap β} :
  ofMap? m = none ↔ ∀ key, m.find? key = none
  := by
  rw [← TextMap.isEmpty_iff, ofMap?]
  split
  · rename_i h
    simp [h]
  · rename_i h
    simp [Bool.not_eq_false _ ▸ h]

theorem exists_mem_entries (n : NonEmptyMap β) :
  ∃ entry, entry ∈ n.entries
  := by
  have nonempty := n.nonempty
  rw [TextMap.isEmpty, List.isEmpty_eq_false_iff_exists_mem] at nonempty
  exact nonempty

theorem bind_find?_ofMap? (m : TextMap β) (key : String) :
  (ofMap? m).bind (·.find? key) = m.find? key
  := by
  cases h : ofMap? m with
  | none => exact (ofMap?_eq_none_iff.mp h key).symm
  | some n => rw [Option.bind_some, find?, ofMap?_eq_some_iff.mp h]

end NonEmptyMap

end Presentment
