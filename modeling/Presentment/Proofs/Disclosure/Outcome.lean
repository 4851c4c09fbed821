import Presentment.Proofs.Disclosure.Merge
import Presentment.Proofs.TextMap

/-!
# Outcomes

What disclosing a target adds to a disclosure, and what disclosing several targets adds up
to: the documents of those that return something, in order, an error for each of the others,
and one entry of the summaries for each target.
-/

namespace Presentment

namespace Disclosure

/-! ### Collecting -/

theorem nonEmpty?_eq_some_iff {α : Type} {as bs : List α} :
  nonEmpty? as = some bs ↔ as = bs ∧ as ≠ []
  := by
  cases as with
  | nil => simp [nonEmpty?]
  | cons a as => simp [nonEmpty?]

@[simp]
theorem nonEmpty?_eq_none_iff {α : Type} {as : List α} :
  nonEmpty? as = none ↔ as = []
  := by
  cases as with
  | nil => simp [nonEmpty?]
  | cons a as => simp [nonEmpty?]

@[simp]
theorem map_nonEmpty? {α β : Type} (f : α → β) (as : List α) :
  (nonEmpty? as).map (·.map f) = nonEmpty? (as.map f)
  := by
  cases as with
  | nil => rfl
  | cons a as => rfl

/-- What is left of a list is left of it as a list that is not empty. -/
theorem nonEmpty?_filter {α : Type} (p : α → Bool) (as : List α) :
  nonEmpty? (as.filter p) = (nonEmpty? as).bind (fun bs => nonEmpty? (bs.filter p))
  := by
  cases as with
  | nil => rfl
  | cons a as => rfl

@[simp]
theorem ofList?_map_toList {α : Type} (as : List α) :
  (NonEmptyList.ofList? as).map (·.toList) = nonEmpty? as
  := by
  cases as with
  | nil => rfl
  | cons a as => rfl

/-- Of entries without repeated keys everything that is found is collected. -/
theorem find?_collect {α β : Type} (f : α → Option β) {keys : List String} (g : String → α)
    (nodup : keys.Nodup) (key : String) :
  (collect f (keys.map (fun k => (k, g k)))).find? key = if key ∈ keys then f (g key) else none
  := by
  induction keys using List.reverseRecOn with
  | nil => rfl
  | append_singleton keys k ih =>
    obtain ⟨distinct, -, hk⟩ := List.nodup_append.mp nodup
    have hk : k ∉ keys := fun h => hk k h k (List.mem_singleton_self k) rfl
    replace ih := ih distinct
    have last : collect f ((keys ++ [k]).map (fun k => (k, g k)))
        = (f (g k)).elim (collect f (keys.map (fun k => (k, g k))))
          ((collect f (keys.map (fun k => (k, g k)))).insert k) := by
      rw [collect, List.map_append, List.map_singleton, List.foldl_concat]
      cases f (g k) <;> rfl
    simp only [last, List.mem_append, List.mem_singleton]
    by_cases h : key = k
    · subst h
      cases hg : f (g key) with
      | some b => simp
      | none => simp [ih, hk]
    · cases hg : f (g k) with
      | some b => simp [TextMap.find?_insert_of_ne _ b h, ih, h]
      | none => simp [ih, h]

/-! ### A single target -/

/-- The document that a target leads to, if anything is returned. -/
def Target.document? (t : Target) : Option DisclosedDocument :=
  t.credential.bind (fun c => Disclosure.document? c (t.answers c))

/-- The requested items that a target returns. -/
def Target.valid (t : Target) : TextMap (List RequestItem) :=
  match t.credential with
  | some c => answeredItems (t.answers c)
  | none => ∅

/-- The requested items that are not held for a target. -/
def Target.missing (t : Target) : TextMap (List RequestItem) :=
  match t.credential with
  | some c => missingItems (t.answers c)
  | none => collect nonEmpty? t.namespaces

/-- The error of a target that returns nothing. -/
def Target.error (t : Target) : DocumentError :=
  documentError ((t.credential.map (·.docType)).getD t.docType)

theorem disclose_documents (d : Disclosure) (t : Target) :
  (disclose d t).documents = d.documents ++ t.document?.toList
  := by
  rw [disclose, Target.document?]
  cases t.credential with
  | none => simp [discloseNothing]
  | some c =>
    dsimp only [discloseFrom, Option.bind_some]
    cases document? c (t.answers c) with
    | none => simp
    | some document => rfl

theorem disclose_documentErrors (d : Disclosure) (t : Target) :
  (disclose d t).documentErrors
    = d.documentErrors ++ if t.document?.isNone then [t.error] else []
  := by
  rw [disclose, Target.document?, Target.error]
  cases t.credential with
  | none => rfl
  | some c =>
    dsimp only [discloseFrom, Option.bind_some]
    obtain h | ⟨document, h⟩ := Option.eq_none_or_eq_some (document? c (t.answers c))
    · simp [h]
    · simp [h]

theorem disclose_validItems (d : Disclosure) (t : Target) :
  (disclose d t).validItems
    = if t.document?.isSome then d.validItems.insert t.key t.valid else d.validItems
  := by
  rw [disclose, Target.document?, Target.valid]
  cases t.credential with
  | none => rfl
  | some c =>
    dsimp only [discloseFrom, Option.bind_some]
    obtain h | ⟨document, h⟩ := Option.eq_none_or_eq_some (document? c (t.answers c))
    · simp [h]
    · simp [h]

theorem disclose_errorItems (d : Disclosure) (t : Target) :
  (disclose d t).errorItems = insertSummary d.errorItems t.key t.missing
  := by
  rw [disclose, Target.missing]
  cases t.credential with
  | none => rfl
  | some c =>
    dsimp only [discloseFrom]
    cases document? c (t.answers c) with
    | none => rfl
    | some document => rfl

theorem disclose_documentNames (d : Disclosure) (t : Target) :
  (disclose d t).documentNames
    = (t.credential.bind (·.displayName)).elim d.documentNames (d.documentNames.insert t.key)
  := by
  rw [disclose]
  cases t.credential with
  | none => rfl
  | some c =>
    dsimp only [discloseFrom, Option.bind_some]
    cases document? c (t.answers c) with
    | none =>
      cases c.displayName with
      | none => rfl
      | some name => rfl
    | some document =>
      cases c.displayName with
      | none => rfl
      | some name => rfl

/-! ### Several targets -/

theorem foldl_disclose_documents (ts : List Target) (d : Disclosure) :
  (ts.foldl disclose d).documents = d.documents ++ ts.filterMap (·.document?)
  := by
  induction ts generalizing d with
  | nil => simp
  | cons t ts ih =>
    rw [List.foldl_cons, ih, disclose_documents, List.append_assoc, List.filterMap_cons]
    cases t.document? with
    | none => rfl
    | some document => rfl

theorem foldl_disclose_documentErrors (ts : List Target) (d : Disclosure) :
  (ts.foldl disclose d).documentErrors
    = d.documentErrors ++ (ts.filter (·.document?.isNone)).map (·.error)
  := by
  induction ts generalizing d with
  | nil => simp
  | cons t ts ih =>
    rw [List.foldl_cons, ih, disclose_documentErrors, List.append_assoc, List.filter_cons]
    split
    · rfl
    · rfl

section

variable {target : String → Target} (keyed : ∀ key, (target key).key = key)
include keyed

/-- What a target with a document returns is listed under its key. -/
theorem foldl_disclose_validItems (keys : List String) (d : Disclosure) (key : String) :
  ((keys.map target).foldl disclose d).validItems.find? key
    = if key ∈ keys ∧ (target key).document?.isSome then some (target key).valid
      else d.validItems.find? key
  := by
  induction keys generalizing d with
  | nil => simp
  | cons k keys ih =>
    rw [List.map_cons, List.foldl_cons, ih, disclose_validItems, keyed]
    by_cases h : key = k
    · subst h
      cases (target key).document? with
      | none => simp
      | some document => simp
    · have same : (if (target k).document?.isSome then d.validItems.insert k (target k).valid
          else d.validItems).find? key = d.validItems.find? key := by
        split
        · exact TextMap.find?_insert_of_ne _ _ h
        · rfl
      simp [same, h]

/-- What is missing for a target is listed under its key, unless nothing is. -/
theorem foldl_disclose_errorItems (keys : List String) (d : Disclosure) (key : String) :
  ((keys.map target).foldl disclose d).errorItems.find? key
    = if key ∈ keys ∧ (target key).missing.isEmpty = false then some (target key).missing
      else d.errorItems.find? key
  := by
  induction keys generalizing d with
  | nil => simp
  | cons k keys ih =>
    rw [List.map_cons, List.foldl_cons, ih, disclose_errorItems, keyed, insertSummary]
    by_cases h : key = k
    · subst h
      cases hempty : (target key).missing.isEmpty with
      | false => simp
      | true => simp
    · have same : (if (target k).missing.isEmpty then d.errorItems
          else d.errorItems.insert k (target k).missing).find? key = d.errorItems.find? key := by
        split
        · rfl
        · exact TextMap.find?_insert_of_ne _ _ h
      simp [same, h]

/-- The name of the credential of a target is listed under its key, if it has one. -/
theorem foldl_disclose_documentNames (keys : List String) (d : Disclosure) (key : String) :
  ((keys.map target).foldl disclose d).documentNames.find? key
    = if key ∈ keys then
        ((target key).credential.bind (·.displayName)).or (d.documentNames.find? key)
      else d.documentNames.find? key
  := by
  induction keys generalizing d with
  | nil => simp
  | cons k keys ih =>
    rw [List.map_cons, List.foldl_cons, ih, disclose_documentNames, keyed]
    by_cases h : key = k
    · subst h
      cases (target key).credential.bind (·.displayName) with
      | none => simp
      | some name => simp
    · have same : (((target k).credential.bind (·.displayName)).elim d.documentNames
            (d.documentNames.insert k)).find? key
          = d.documentNames.find? key := by
        cases (target k).credential.bind (·.displayName) with
        | none => rfl
        | some name => exact TextMap.find?_insert_of_ne _ _ h
      simp [same, h]

end

end Disclosure

end Presentment
