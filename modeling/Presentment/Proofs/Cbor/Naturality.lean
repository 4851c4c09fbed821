import Presentment.Proofs.Cbor.Decoder
import Presentment.Proofs.Except

/-!
# Decoders that read alike

A reader maps to another when it reads nothing else: whatever the first reads, the second reads
from the same bytes as the image of it.  Each way to put decoders together respects this, so a
decoder that looks into the items of a message maps to one that leaves them as they stand.
-/

namespace Presentment

/-! ### Maps -/

namespace TextMap

variable {β γ : Type}

theorem insertEntry_map (f : β → γ) (key : String) (value : β) (entries : List (String × β)) :
  insertEntry key (f value) (entries.map (fun entry => (entry.1, f entry.2)))
    = (insertEntry key value entries).map (fun entry => (entry.1, f entry.2))
  := by
  induction entries with
  | nil => rfl
  | cons entry rest ih =>
    rw [List.map_cons, insertEntry, insertEntry, ih]
    split
    · rfl
    · split
      · rfl
      · rfl

theorem ofList_map (f : β → γ) (entries : List (String × β)) :
  ofList (entries.map (fun entry => (entry.1, f entry.2))) = (ofList entries).map (fun _ => f)
  := by
  have fold : ∀ m : TextMap β,
      (entries.map (fun entry => (entry.1, f entry.2))).foldl
          (fun m entry => m.insert entry.1 entry.2) (m.map (fun _ => f))
        = (entries.foldl (fun m entry => m.insert entry.1 entry.2) m).map (fun _ => f) := by
    induction entries with
    | nil => exact fun _ => rfl
    | cons entry rest ih =>
      intro m
      have inserted : (m.map (fun _ => f)).insert entry.1 (f entry.2)
          = (m.insert entry.1 entry.2).map (fun _ => f) :=
        ext_entries (insertEntry_map f entry.1 entry.2 m.entries)
      rw [List.map_cons, List.foldl_cons, List.foldl_cons, inserted]
      exact ih _
  exact fold ∅

end TextMap

namespace Cbor

variable {α β γ δ : Type}

/-! ### Readers -/

namespace Parse

theorem bind_eq_ok_iff {p : Parse α} {g : α → Parse β} {input rest : Bytes} {b : β} :
  (p >>= g) input = .ok (b, rest)
    ↔ ∃ a middle, p input = .ok (a, middle) ∧ g a middle = .ok (b, rest)
  := by
  change (p input >>= fun read => g read.1 read.2) = .ok (b, rest) ↔ _
  rw [Except.bind_eq_ok_iff, Prod.exists]

/-- Whatever `p` reads, `q` reads as its image under `f`. -/
def MapsTo (p : Parse α) (q : Parse β) (f : α → β) : Prop :=
  ∀ input a rest, p input = .ok (a, rest) → q input = .ok (f a, rest)

section

variable {p : Parse α} {q : Parse β} {f : α → β}

theorem MapsTo.bind {g : α → Parse γ} {k : β → Parse δ} {f' : γ → δ} (h : p.MapsTo q f)
    (h' : ∀ a, (g a).MapsTo (k (f a)) f') :
  (p >>= g).MapsTo (q >>= k) f'
  := by
  intro input c rest heq
  obtain ⟨a, middle, read, read'⟩ := bind_eq_ok_iff.mp heq
  exact bind_eq_ok_iff.mpr ⟨f a, middle, h _ _ _ read, h' a _ _ _ read'⟩

/-- Both read the same first. -/
theorem MapsTo.after (p : Parse α) {g : α → Parse γ} {k : α → Parse δ} {f' : γ → δ}
    (h : ∀ a, (g a).MapsTo (k a) f') :
  (p >>= g).MapsTo (p >>= k) f'
  := by
  have same : p.MapsTo p id := fun _ _ _ heq => heq
  exact same.bind h

theorem MapsTo.pure {a : α} {b : β} (h : f a = b) :
  (Pure.pure a : Parse α).MapsTo (Pure.pure b) f
  := by
  intro input a' rest heq
  cases heq
  exact congrArg (fun b => Except.ok (b, input)) h.symm

theorem MapsTo.refuse (cause : Refusal) :
  (Parse.refuse cause : Parse α).MapsTo q f
  := by
  intro input a rest heq
  cases heq

theorem MapsTo.elementsWithin (h : p.MapsTo q f) (fuel : Nat) (announced : Option Nat) :
  (Parse.elementsWithin p fuel announced).MapsTo (Parse.elementsWithin q fuel announced)
    (List.map f)
  := by
  induction fuel generalizing announced with
  | zero => exact .refuse _
  | succ fuel ih =>
    apply MapsTo.after (Parse.more announced)
    intro next
    cases next with
    | none => exact .pure rfl
    | some announced =>
      apply h.bind
      intro first
      apply (ih announced).bind
      intro others
      exact .pure rfl

theorem MapsTo.elements (h : p.MapsTo q f) (announced : Option Nat) :
  (Parse.elements p announced).MapsTo (Parse.elements q announced) (List.map f)
  := by
  apply MapsTo.after get
  intro input
  exact h.elementsWithin _ announced

end

end Parse

/-! ### Decoders -/

namespace Decoder

open Parse (MapsTo)

/-- Whatever `d` reads, `d'` reads as its image under `f`. -/
def MapsTo (d : Decoder α) (d' : Decoder β) (f : α → β) : Prop :=
  ∀ levels, (d.parse levels).MapsTo (d'.parse levels) f

variable {d : Decoder α} {d' : Decoder β} {f : α → β}

/-- What was checked and converted is as it stands without that. -/
theorem MapsTo.of_refine {g : α → Except Refusal γ} {f' : γ → β} (h : d.MapsTo d' f)
    (same : ∀ a c, g a = .ok c → f' c = f a) :
  (d.refine g).MapsTo d' f'
  := by
  intro levels input c rest heq
  obtain ⟨a, middle, read, converted⟩ := Parse.bind_eq_ok_iff.mp heq
  cases hg : g a with
  | ok c' =>
    rw [hg] at converted
    cases converted
    rw [same a c hg]
    exact h levels _ _ _ read
  | error cause =>
    rw [hg] at converted
    cases converted

theorem MapsTo.refine {g : α → Except Refusal γ} {g' : β → Except Refusal δ} {f' : γ → δ}
    (h : d.MapsTo d' f) (same : ∀ a c, g a = .ok c → g' (f a) = .ok (f' c)) :
  (d.refine g).MapsTo (d'.refine g') f'
  := by
  intro levels
  apply (h levels).bind
  intro a
  cases hg : g a with
  | ok c =>
    rw [same a c hg]
    exact .pure rfl
  | error cause => exact .refuse cause

theorem MapsTo.map {g : α → γ} {g' : β → δ} {f' : γ → δ} (h : d.MapsTo d' f)
    (same : ∀ a, f' (g a) = g' (f a)) :
  (d.map g).MapsTo (d'.map g') f'
  := by
  apply h.refine
  intro a c heq
  cases heq
  exact congrArg Except.ok (same a).symm

theorem MapsTo.nullable (h : d.MapsTo d' f) :
  (nullable d).MapsTo (nullable d') (Option.map f)
  := by
  intro levels input a? rest heq
  have present : (do return some (← d.parse levels) : Parse (Option α)).MapsTo
      (do return some (← d'.parse levels)) (Option.map f) := (h levels).bind fun _ => .pure rfl
  simp only [Decoder.nullable] at heq ⊢
  split at heq
  · cases heq
    rfl
  · cases heq
    rfl
  · exact present _ _ _ heq
  · cases heq

theorem MapsTo.list (h : d.MapsTo d' f)
    (values : ∀ item a, d.ofValue item = .ok a → d'.ofValue item = .ok (f a)) :
  d.list.MapsTo d'.list (List.map f)
  := by
  intro levels
  apply Parse.MapsTo.after
  intro head
  cases head with
  | array length =>
    cases levels with
    | zero => exact .refuse _
    | succ levels => exact (h levels).elements length
  | bytes length =>
    apply Parse.MapsTo.after
    intro bs
    cases read : bs.mapM (fun b => d.ofValue (.int b.toNat)) with
    | error cause => exact .refuse _
    | ok as =>
      have read' : bs.mapM (fun b => d'.ofValue (.int b.toNat)) = .ok (as.map f) := by
        rw [Except.mapM_eq_ok_iff] at read ⊢
        rw [List.forall₂_map_right_iff]
        exact read.imp fun _ a => values _ a
      rw [read']
      exact .pure rfl
  | _ => exact .refuse _

theorem MapsTo.textMap (h : d.MapsTo d' f) :
  d.textMap.MapsTo d'.textMap (TextMap.map (fun _ => f))
  := by
  intro levels
  apply Parse.MapsTo.after
  intro head
  cases head with
  | map length =>
    cases levels with
    | zero => exact .refuse _
    | succ levels =>
      have entry : (do
          let key ← text.parse levels
          let a ← d.parse levels
          return (key, a) : Parse (String × α)).MapsTo (do
          let key ← text.parse levels
          let b ← d'.parse levels
          return (key, b)) (fun entry => (entry.1, f entry.2)) := by
        apply Parse.MapsTo.after
        intro key
        exact (h levels).bind fun _ => .pure rfl
      apply (entry.elements length).bind
      intro entries
      exact .pure (TextMap.ofList_map f entries).symm
  | _ => exact .refuse _

/-! ### Records -/

/-- What becomes of a record when the field of a given name is read. -/
def fieldOf (field : γ → String → Option (Decoder γ)) (gathered : γ) (name : String) : Decoder γ :=
  (field gathered name).getD (value.map (fun _ => gathered))

theorem parseFields_succ (field : γ → String → Option (Decoder γ)) (levels fuel : Nat)
    (announced : Option Nat) (gathered : γ) :
  record.parseFields field levels (fuel + 1) announced gathered
    = (do
      match ← Parse.more announced with
      | none => return gathered
      | some announced => do
        let name ← fieldName.parse levels
        let gathered ← (fieldOf field gathered name).parse levels
        record.parseFields field levels fuel announced gathered)
  := by
  rw [record.parseFields]
  apply bind_congr
  intro next
  cases next with
  | none => rfl
  | some announced =>
    apply bind_congr
    intro name
    rw [fieldOf]
    cases field gathered name with
    | some d => rfl
    | none => simp [Decoder.map, Decoder.refine]

theorem MapsTo.parseFields {field : γ → String → Option (Decoder γ)}
    {field' : δ → String → Option (Decoder δ)} {g : γ → δ}
    (h : ∀ gathered name,
      (fieldOf field gathered name).MapsTo (fieldOf field' (g gathered) name) g)
    (levels fuel : Nat) (announced : Option Nat) (gathered : γ) :
  (record.parseFields field levels fuel announced gathered).MapsTo
    (record.parseFields field' levels fuel announced (g gathered)) g
  := by
  induction fuel generalizing announced gathered with
  | zero => exact .refuse _
  | succ fuel ih =>
    rw [parseFields_succ, parseFields_succ]
    apply Parse.MapsTo.after
    intro next
    cases next with
    | none => exact .pure rfl
    | some announced =>
      apply Parse.MapsTo.after
      intro name
      apply (h gathered name levels).bind
      exact ih announced

/-- Records are read alike if each of their fields is. -/
theorem MapsTo.record {start : γ} {start' : δ} {field : γ → String → Option (Decoder γ)}
    {field' : δ → String → Option (Decoder δ)} {finish : γ → Except Refusal α}
    {finish' : δ → Except Refusal β} {g : γ → δ} (hstart : g start = start')
    (h : ∀ gathered name,
      (fieldOf field gathered name).MapsTo (fieldOf field' (g gathered) name) g)
    (hfinish : ∀ gathered a, finish gathered = .ok a → finish' (g gathered) = .ok (f a)) :
  (record start field finish).MapsTo (record start' field' finish') f
  := by
  subst hstart
  apply MapsTo.refine (f := g) _ hfinish
  intro levels
  apply Parse.MapsTo.after
  intro head
  cases head with
  | map length =>
    cases levels with
    | zero => exact .refuse _
    | succ levels =>
      apply Parse.MapsTo.after
      intro input
      exact MapsTo.parseFields h levels _ length start
  | _ => exact .refuse _

end Decoder

end Cbor

end Presentment
