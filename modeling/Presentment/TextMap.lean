/-!
# Maps with text keys

A `TextMap β` is a list of entries in strictly increasing order of their keys, so equal
maps are equal lists.  Text is ordered by its characters, which is also the order of its
UTF-8 bytes.  An entry written later replaces an earlier one with the same key.
-/

namespace Presentment

/-- A finite map from text to `β`, listed in the order of its keys. -/
structure TextMap (β : Type u) where
  entries : List (String × β)
  sorted : entries.Pairwise (fun a b => a.1 < b.1)
  deriving DecidableEq

namespace TextMap

variable {β : Type u} {γ : Type v}

/-- Puts an entry into its place in a list of entries. -/
def insertEntry (key : String) (value : β) : List (String × β) → List (String × β)
  | [] => [(key, value)]
  | entry :: rest =>
    if key < entry.1 then (key, value) :: entry :: rest
    else if key = entry.1 then (key, value) :: rest
    else entry :: insertEntry key value rest

theorem mem_insertEntry {key : String} {value : β} {entries : List (String × β)}
    {entry : String × β} (h : entry ∈ insertEntry key value entries) :
  entry = (key, value) ∨ entry ∈ entries
  := by
  fun_induction insertEntry key value entries with
  | case1 => simp_all
  | case2 => simp_all
  | case3 => simp_all; grind
  | case4 first rest _ _ ih =>
    rcases List.mem_cons.mp h with rfl | h
    · simp
    · rcases ih h with rfl | h <;> simp_all

theorem sorted_insertEntry (key : String) (value : β) {entries : List (String × β)}
    (h : entries.Pairwise (fun a b => a.1 < b.1)) :
  (insertEntry key value entries).Pairwise (fun a b => a.1 < b.1)
  := by
  fun_induction insertEntry key value entries with
  | case1 => simp
  | case2 entry rest hlt =>
    rw [List.pairwise_cons] at h ⊢
    refine ⟨?_, List.pairwise_cons.mpr h⟩
    intro b hb
    rcases List.mem_cons.mp hb with rfl | hb
    · exact hlt
    · exact String.lt_trans hlt (h.1 b hb)
  | case3 entry rest _ heq =>
    rw [List.pairwise_cons] at h ⊢
    exact ⟨fun b hb => heq ▸ h.1 b hb, h.2⟩
  | case4 entry rest hlt hne ih =>
    rw [List.pairwise_cons] at h ⊢
    refine ⟨?_, ih h.2⟩
    intro b hb
    rcases mem_insertEntry hb with rfl | hb
    · apply String.not_le.mp
      intro hle
      exact hne (String.le_antisymm hle (String.not_lt.mp hlt))
    · exact h.1 b hb

/-- The map without entries. -/
def empty : TextMap β := ⟨[], .nil⟩

instance : EmptyCollection (TextMap β) := ⟨empty⟩

instance : Inhabited (TextMap β) := ⟨empty⟩

/-- `m` with `key` standing for `value`. -/
def insert (m : TextMap β) (key : String) (value : β) : TextMap β :=
  ⟨insertEntry key value m.entries, sorted_insertEntry key value m.sorted⟩

/-- The map of a list of entries; of two entries with the same key the later one counts. -/
def ofList (entries : List (String × β)) : TextMap β :=
  entries.foldl (fun m entry => m.insert entry.1 entry.2) ∅

theorem mem_insert {m : TextMap β} {key : String} {value : β} {entry : String × β}
    (h : entry ∈ (m.insert key value).entries) :
  entry = (key, value) ∨ entry ∈ m.entries
  := mem_insertEntry h

theorem mem_ofList {entries : List (String × β)} {entry : String × β}
    (h : entry ∈ (ofList entries).entries) :
  entry ∈ entries
  := by
  have fold : ∀ (rest : List (String × β)) (m : TextMap β),
      entry ∈ (rest.foldl (fun m entry => m.insert entry.1 entry.2) m).entries →
        entry ∈ rest ∨ entry ∈ m.entries := by
    intro rest
    induction rest with
    | nil => exact fun _ h => .inr h
    | cons first rest ih =>
      intro m h
      rcases ih _ h with h | h
      · exact .inl (List.mem_cons_of_mem first h)
      · rcases mem_insert h with rfl | h
        · exact .inl List.mem_cons_self
        · exact .inr h
  rcases fold entries ∅ h with h | h
  · exact h
  · exact absurd h List.not_mem_nil

/-- What `key` stands for. -/
def find? (m : TextMap β) (key : String) : Option β :=
  (m.entries.find? (fun entry => entry.1 == key)).map (·.2)

/-- The keys, in order. -/
def keys (m : TextMap β) : List String :=
  m.entries.map (·.1)

/-- The values, in the order of their keys. -/
def values (m : TextMap β) : List β :=
  m.entries.map (·.2)

def isEmpty (m : TextMap β) : Bool :=
  m.entries.isEmpty

def size (m : TextMap β) : Nat :=
  m.entries.length

/-- Each value replaced by its image. -/
def map (f : String → β → γ) (m : TextMap β) : TextMap γ where
  entries := m.entries.map (fun entry => (entry.1, f entry.1 entry.2))
  sorted := List.pairwise_map.mpr m.sorted

theorem sorted_filterMap (f : String → β → Option γ) {entries : List (String × β)}
    (h : entries.Pairwise (fun a b => a.1 < b.1)) :
  (entries.filterMap (fun entry => (f entry.1 entry.2).map (entry.1, ·))).Pairwise
    (fun a b => a.1 < b.1)
  := by
  apply List.Pairwise.filterMap _ _ h
  intro a a' hlt b hb b' hb'
  simp only [Option.map_eq_some_iff] at hb hb'
  obtain ⟨_, _, rfl⟩ := hb
  obtain ⟨_, _, rfl⟩ := hb'
  exact hlt

/-- The images of the entries that have one. -/
def filterMap (f : String → β → Option γ) (m : TextMap β) : TextMap γ where
  entries := m.entries.filterMap (fun entry => (f entry.1 entry.2).map (entry.1, ·))
  sorted := sorted_filterMap f m.sorted

/-- `m` with `f` applied to what `key` stands for, or to `none` when it stands for nothing. -/
def alter (m : TextMap β) (key : String) (f : Option β → β) : TextMap β :=
  m.insert key (f (m.find? key))

end TextMap

end Presentment
