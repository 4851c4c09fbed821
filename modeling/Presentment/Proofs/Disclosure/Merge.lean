import Mathlib.Data.List.Induction
import Mathlib.Data.List.Nodup
import Presentment.Disclosure.Filter

/-!
# Merged requests

What several items requests ask for, taken together: `mentions` lists every mention of an
element of a namespace, `asked` the elements that are mentioned, in the order in which they
come first, and `askedItem` is the item of such an element.  `merge_eq` says that merging
the requests lists just these, by document type and namespace.
-/

namespace Presentment.Disclosure

/-! ### Lists without repetition -/

theorem eraseDups_concat {α : Type} [BEq α] [LawfulBEq α] (as : List α) (a : α)
    [Decidable (a ∈ as)] :
  (as ++ [a]).eraseDups = if a ∈ as then as.eraseDups else as.eraseDups ++ [a]
  := by
  rw [List.eraseDups_append, List.removeAll]
  split
  · rename_i h
    simp [h]
  · rename_i h
    simp [h, List.eraseDups_cons]

theorem nodup_eraseDups {α : Type} [DecidableEq α] (as : List α) :
  as.eraseDups.Nodup
  := by
  induction as using List.reverseRecOn with
  | nil => simp
  | append_singleton as a ih =>
    rw [eraseDups_concat]
    split
    · exact ih
    · rename_i h
      apply List.nodup_append.mpr
      use ih, List.nodup_singleton a
      intro b hb c hc
      rw [List.mem_eraseDups] at hb
      rw [List.mem_singleton.mp hc]
      rintro rfl
      exact h hb

/-! ### Grouping -/

/-- Updating one key of a list of entries without repeated keys. -/
theorem updateOrAppend_map {α : Type} (key : String) (fresh : α) (f : α → α) (g : String → α)
    {keys : List String} (nodup : keys.Nodup) :
  updateOrAppend key fresh f (keys.map (fun k => (k, g k)))
    = if key ∈ keys then keys.map (fun k => (k, if k = key then f (g k) else g k))
      else keys.map (fun k => (k, g k)) ++ [(key, f fresh)]
  := by
  induction keys with
  | nil => rfl
  | cons k keys ih =>
    obtain ⟨hk, nodup⟩ := List.nodup_cons.mp nodup
    rw [List.map_cons, updateOrAppend]
    by_cases h : k = key
    · have others : keys.map (fun k => (k, if k = key then f (g k) else g k))
          = keys.map (fun k => (k, g k)) := by
        apply List.map_congr_left
        intro k' hk'
        rw [if_neg (fun e => hk (h.trans (Eq.symm e) ▸ hk'))]
      simp [h, others]
    · rw [if_neg h, ih nodup]
      simp only [List.mem_cons, Ne.symm h, false_or, List.map_cons, if_neg h]
      split
      · rfl
      · rfl

/-- Elements gathered by key: the keys in the order in which they come first, each with what
its elements add up to. -/
theorem foldl_updateOrAppend {α β : Type} (key : β → String) (fresh : α) (f : α → β → α)
    (xs : List β) :
  xs.foldl (fun acc x => updateOrAppend (key x) fresh (fun a => f a x) acc) []
    = (xs.map key).eraseDups.map (fun k => (k, (xs.filter (fun x => key x == k)).foldl f fresh))
  := by
  induction xs using List.reverseRecOn with
  | nil => rfl
  | append_singleton xs x ih =>
    rw [List.foldl_concat, ih, updateOrAppend_map _ _ _ _ (nodup_eraseDups _), List.map_append,
      List.map_singleton, eraseDups_concat]
    simp only [List.mem_eraseDups, List.filter_append, List.filter_cons, List.filter_nil,
      List.foldl_append]
    split
    · apply List.map_congr_left
      intro k _
      by_cases h : k = key x
      · simp [h]
      · simp [h, Ne.symm h]
    · rename_i h
      rw [List.map_append]
      congr 1
      · apply List.map_congr_left
        intro k hk
        have hne : key x ≠ k := by
          rintro rfl
          exact h (List.mem_eraseDups.mp hk)
        simp [hne]
      · have none : xs.filter (fun y => key y == key x) = [] := by
          apply List.filter_eq_nil_iff.mpr
          intro y hy hkey
          exact h (List.mem_map.mpr ⟨y, hy, by simpa using hkey⟩)
        simp [none]

/-! ### What is asked for -/

/-- The document types that are asked for. -/
def askedTypes (requests : List ItemsRequest) : List String :=
  (requests.map (·.docType)).eraseDups

/-- The namespaces of the requests for a document, with what is asked for in them. -/
def sections (requests : List ItemsRequest) (docType : String) :
    List (String × NonEmptyMap Bool) :=
  (requests.filter (·.docType == docType)).flatMap (·.namespaces.entries)

/-- The namespaces of a document that are asked for. -/
def askedNamespaces (requests : List ItemsRequest) (docType : String) : List String :=
  ((sections requests docType).map (·.1)).eraseDups

/-- Every mention of an element of a namespace, with the intent to retain it. -/
def mentions (requests : List ItemsRequest) (docType ns : String) : List (String × Bool) :=
  ((sections requests docType).filter (·.1 == ns)).flatMap (·.2.entries)

/-- The elements of a namespace that are asked for. -/
def asked (requests : List ItemsRequest) (docType ns : String) : List String :=
  ((mentions requests docType ns).map (·.1)).eraseDups

/-- The item of an element that is mentioned: it is retained if any mention intends to. -/
def askedItem (mentions : List (String × Bool)) (identifier : String) : RequestItem :=
  { elementIdentifier := identifier
    intentToRetain := some (mentions.any (fun mention => mention.1 == identifier && mention.2)) }

theorem addElement_map (mentions : List (String × Bool)) (identifier : String) (retain : Bool)
    {ids : List String} (nodup : ids.Nodup) :
  addElement (ids.map (askedItem mentions)) identifier retain
    = if identifier ∈ ids then ids.map (askedItem (mentions ++ [(identifier, retain)]))
      else ids.map (askedItem mentions)
        ++ [{ elementIdentifier := identifier, intentToRetain := some retain }]
  := by
  have other : ∀ id, id ≠ identifier →
      askedItem (mentions ++ [(identifier, retain)]) id = askedItem mentions id := by
    intro id hne
    simp [askedItem, Ne.symm hne]
  induction ids with
  | nil => rfl
  | cons id ids ih =>
    obtain ⟨hid, nodup⟩ := List.nodup_cons.mp nodup
    rw [List.map_cons, addElement]
    by_cases h : id = identifier
    · have others : ids.map (askedItem (mentions ++ [(identifier, retain)]))
          = ids.map (askedItem mentions) := by
        apply List.map_congr_left
        intro id' hid'
        apply other
        rintro rfl
        exact hid (h ▸ hid')
      subst h
      simp [others, askedItem]
    · have hne : (askedItem mentions id).elementIdentifier ≠ identifier := h
      rw [if_neg hne, ih nodup]
      simp only [List.mem_cons, Ne.symm h, false_or, List.map_cons, other id h]
      split
      · rfl
      · rfl

/-- Elements gathered one after the other. -/
theorem foldl_addElement (mentions : List (String × Bool)) :
  mentions.foldl (fun items mention => addElement items mention.1 mention.2) []
    = (mentions.map (·.1)).eraseDups.map (askedItem mentions)
  := by
  induction mentions using List.reverseRecOn with
  | nil => rfl
  | append_singleton mentions mention ih =>
    obtain ⟨identifier, retain⟩ := mention
    rw [List.foldl_concat, ih, addElement_map _ _ _ (nodup_eraseDups _), List.map_append,
      List.map_singleton, eraseDups_concat]
    simp only [List.mem_eraseDups]
    split
    · rfl
    · rename_i h
      have unmentioned : mentions.any (fun m => m.1 == identifier && m.2) = false := by
        apply List.any_eq_false.mpr
        intro m hm hmatch
        have hkey : m.1 = identifier := by simpa using (Bool.and_eq_true_iff.mp hmatch).1
        exact h (List.mem_map.mpr ⟨m, hm, hkey⟩)
      have others : ∀ id ∈ (mentions.map (·.1)).eraseDups,
          askedItem mentions id = askedItem (mentions ++ [(identifier, retain)]) id := by
        intro id hid
        have hne : identifier ≠ id := by
          rintro rfl
          exact h (List.mem_eraseDups.mp hid)
        simp [askedItem, hne]
      rw [List.map_append, List.map_congr_left others]
      simp [askedItem, unmentioned]

/-- The items of a document that are asked for, by namespace. -/
def askedItems (requests : List ItemsRequest) (docType : String) : RequestedItems :=
  (askedNamespaces requests docType).map (fun ns =>
    (ns, (asked requests docType ns).map (askedItem (mentions requests docType ns))))

theorem foldl_addRequest (requests : List ItemsRequest) (docType : String) :
  (requests.filter (·.docType == docType)).foldl addRequest [] = askedItems requests docType
  := by
  have flat : (requests.filter (·.docType == docType)).foldl addRequest []
      = (sections requests docType).foldl (fun namespaces entry =>
          updateOrAppend entry.1 [] (fun items =>
            entry.2.entries.foldl (fun items element => addElement items element.1 element.2) items)
            namespaces) [] := by
    rw [sections, List.foldl_flatMap]
    rfl
  rw [flat, foldl_updateOrAppend (fun entry : String × NonEmptyMap Bool => entry.1) []
    (fun items entry =>
      entry.2.entries.foldl (fun items element => addElement items element.1 element.2) items)]
  apply List.map_congr_left
  intro ns _
  rw [asked, ← foldl_addElement, mentions, List.foldl_flatMap]

/-- Merging lists what is asked for. -/
theorem merge_eq (requests : List ItemsRequest) :
  merge requests = (askedTypes requests).map (fun docType => (docType, askedItems requests docType))
  := by
  rw [merge, foldl_updateOrAppend (fun request : ItemsRequest => request.docType) []
    (fun namespaces request => addRequest namespaces request)]
  apply List.map_congr_left
  intro docType _
  rw [foldl_addRequest]

theorem nodup_askedTypes (requests : List ItemsRequest) :
  (askedTypes requests).Nodup
  := nodup_eraseDups _

theorem nodup_askedNamespaces (requests : List ItemsRequest) (docType : String) :
  (askedNamespaces requests docType).Nodup
  := nodup_eraseDups _

/-- Elements are asked for only in namespaces that are asked for. -/
theorem asked_eq_nil {requests : List ItemsRequest} {docType ns : String}
    (h : ns ∉ askedNamespaces requests docType) :
  asked requests docType ns = []
  := by
  have none : (sections requests docType).filter (·.1 == ns) = [] := by
    apply List.filter_eq_nil_iff.mpr
    intro entry hentry hns
    apply h
    rw [askedNamespaces, List.mem_eraseDups]
    exact List.mem_map.mpr ⟨entry, hentry, by simpa using hns⟩
  rw [asked, mentions, none]
  rfl

/-- Namespaces are asked for only in documents that are asked for. -/
theorem askedNamespaces_eq_nil {requests : List ItemsRequest} {docType : String}
    (h : docType ∉ askedTypes requests) :
  askedNamespaces requests docType = []
  := by
  have none : requests.filter (·.docType == docType) = [] := by
    apply List.filter_eq_nil_iff.mpr
    intro request hrequest htype
    apply h
    rw [askedTypes, List.mem_eraseDups]
    exact List.mem_map.mpr ⟨request, hrequest, by simpa using htype⟩
  rw [askedNamespaces, sections, none]
  rfl

/-- An element is mentioned when some request names it. -/
theorem mem_mentions_iff {requests : List ItemsRequest} {docType ns : String}
    {mention : String × Bool} :
  mention ∈ mentions requests docType ns
    ↔ ∃ request ∈ requests, request.docType = docType ∧ ∃ elements,
      (ns, elements) ∈ request.namespaces.entries ∧ mention ∈ elements.entries
  := by
  simp only [mentions, sections, List.mem_flatMap, List.mem_filter, beq_iff_eq]
  constructor
  · rintro ⟨⟨ns', elements⟩, ⟨⟨request, ⟨hrequest, htype⟩, hentry⟩, rfl⟩, hmention⟩
    use request, hrequest, htype, elements, hentry
  · rintro ⟨request, hrequest, htype, elements, hentry, hmention⟩
    use (ns, elements), ⟨⟨request, ⟨hrequest, htype⟩, hentry⟩, rfl⟩

/-- An element is asked for when some request names it. -/
theorem mem_asked_iff {requests : List ItemsRequest} {docType ns identifier : String} :
  identifier ∈ asked requests docType ns
    ↔ ∃ request ∈ requests, request.docType = docType ∧ ∃ elements retain,
      (ns, elements) ∈ request.namespaces.entries ∧ (identifier, retain) ∈ elements.entries
  := by
  rw [asked, List.mem_eraseDups, List.mem_map]
  constructor
  · rintro ⟨⟨_, retain⟩, hmention, rfl⟩
    obtain ⟨request, hrequest, htype, elements, hentry, hmem⟩ := mem_mentions_iff.mp hmention
    use request, hrequest, htype, elements, retain, hentry
  · rintro ⟨request, hrequest, htype, elements, retain, hentry, hmem⟩
    use (identifier, retain)
    constructor
    · apply mem_mentions_iff.mpr
      use request, hrequest, htype, elements, hentry
    · rfl

end Presentment.Disclosure
