import Presentment.Cose.Message
import Presentment.Proofs.Cbor.Nesting

/-!
# Headers nest no deeper than they were written

A header is brought into the form in which it is written: its entries are put into order, and a
single counter signature loses the list around it.  None of this makes it any deeper, so a message
that was read nests no deeper than the item it was read from.
-/

namespace Presentment.Cose

open Cbor (Value)

/-- Whatever `f` makes of an item nests no deeper. -/
def KeepsDepth (f : Value → Except Error Value) : Prop :=
  ∀ item v, f item = .ok v → v.depth ≤ item.depth

theorem Label.toValue_of_ofValue {key : Value} {label : Label} (h : ofValue key = .ok label) :
  label.toValue = key
  := by
  rw [ofValue.eq_def] at h
  split at h
  · split at h
    · cases h
      rfl
    · cases h
  · cases h
    rfl
  · cases h

namespace Header

/-- The item of a header with these entries nests at most one level more than `n`. -/
def EntriesNest (n : Nat) (entries : List (Label × Value)) : Prop :=
  ∀ entry ∈ entries, entry.1.toValue.depth ≤ n ∧ entry.2.depth ≤ n

theorem depth_toValue_le_iff {h : Header} {n : Nat} :
  h.toValue.depth ≤ n + 1 ↔ EntriesNest n h.entries
  := by
  rw [toValue, Value.depth_map_le_iff, List.forall_mem_map]
  rfl

variable {signature : Value → Except Error Value}

/-- What is only checked stays as it is. -/
theorem depth_le_of_checked {check : Except Error Unit} {item v : Value}
    (h : (do check; return item) = Except.ok v) :
  v.depth ≤ item.depth
  := by
  obtain ⟨-, -, kept⟩ := Except.bind_eq_ok_iff.mp h
  cases kept
  exact Nat.le_refl _

theorem keepsDepth_normalizeEntry (hsignature : KeepsDepth signature) (label : Label) :
  KeepsDepth (normalizeEntry signature label)
  := by
  intro item v h
  simp only [normalizeEntry] at h
  split at h
  case h_1 => exact depth_le_of_checked h
  case h_2 =>
    split at h
    · cases h
    · exact depth_le_of_checked h
    · cases h
  case h_3 =>
    obtain ⟨-, -, h⟩ := Except.bind_eq_ok_iff.mp h
    split at h
    · exact depth_le_of_checked h
    · cases h
      exact Nat.le_refl _
  case h_4 => exact depth_le_of_checked h
  case h_5 => exact depth_le_of_checked h
  case h_6 => exact depth_le_of_checked h
  -- Counter signatures are the only entries that change.
  case h_7 =>
    split at h
    · exact hsignature _ v h
    · rename_i signatures items tail
      obtain ⟨normalized, hnormalized, h⟩ := Except.bind_eq_ok_iff.mp h
      have inside : ∀ v ∈ normalized, v.depth ≤ Value.depthItems (.array items :: tail) := by
        intro v mem
        obtain ⟨item, mem', hitem⟩ :=
          exists_of_mem_of_forall₂ (Except.mapM_eq_ok_iff.mp hnormalized) mem
        exact Nat.le_trans (hsignature item v hitem)
          (Value.depthItems_le_iff.mp (Nat.le_refl _) item mem')
      split at h
      · cases h
        exact Nat.le_succ_of_le (inside v List.mem_cons_self)
      · cases h
        exact Value.depth_array_le_iff.mpr inside
    · cases h
  case h_8 =>
    cases h
    exact Nat.le_refl _

theorem entriesNest_readEntries {n : Nat} (hsignature : KeepsDepth signature)
    {entries : List (Value × Value)}
    (hentries : ∀ entry ∈ entries, entry.1.depth ≤ n ∧ entry.2.depth ≤ n)
    {seen read : List (Label × Value)} (hseen : EntriesNest n seen)
    (h : readEntries signature seen entries = .ok read) :
  EntriesNest n read
  := by
  induction entries generalizing seen with
  | nil =>
    cases h
    exact fun entry mem => hseen entry (List.mem_reverse.mp mem)
  | cons entry entries ih =>
    obtain ⟨key, item⟩ := entry
    obtain ⟨⟨key_depth, item_depth⟩, hentries⟩ := List.forall_mem_cons.mp hentries
    rw [readEntries] at h
    obtain ⟨label, hlabel, h⟩ := Except.bind_eq_ok_iff.mp h
    dsimp only at h
    split at h
    · cases h
    · obtain ⟨item', hitem, h⟩ := Except.bind_eq_ok_iff.mp h
      split at h
      · cases h
      · refine ih hentries (List.forall_mem_cons.mpr ⟨⟨?_, ?_⟩, hseen⟩) h
        · rw [Label.toValue_of_ofValue hlabel]
          exact key_depth
        · exact Nat.le_trans (keepsDepth_normalizeEntry hsignature label _ _ hitem) item_depth

theorem depth_ofValueWithin_le {fuel : Nat} (hsignature : KeepsDepth (signatureWithin fuel))
    {item : Value} {header : Header} (h : ofValueWithin fuel item = .ok header) :
  header.toValue.depth ≤ item.depth
  := by
  rw [ofValueWithin.eq_def] at h
  split at h
  · rename_i entries
    obtain ⟨read, hread, h⟩ := Except.bind_eq_ok_iff.mp h
    cases h
    have nests := entriesNest_readEntries hsignature
      (Value.depth_map_le_iff.mp (Nat.le_refl (Value.map entries).depth)) (List.forall_mem_nil _)
      hread
    exact depth_toValue_le_iff.mpr fun entry mem => nests entry (List.mem_mergeSort.mp mem)
  · cases h

theorem keepsDepth_signatureWithin (fuel : Nat) :
  KeepsDepth (signatureWithin fuel)
  := by
  induction fuel with
  | zero =>
    intro item v h
    rw [signatureWithin.eq_def] at h
    split at h
    · split at h
      · cases h
      · cases h
    · cases h
  | succ fuel ih =>
    intro item v h
    rw [signatureWithin.eq_def] at h
    split at h
    · rename_i protectedHeader unprotectedHeader signature
      split at h
      · obtain ⟨header, hheader, h⟩ := Except.bind_eq_ok_iff.mp h
        split at h
        · obtain ⟨_, _, h⟩ := Except.bind_eq_ok_iff.mp h
          cases h
          have keeps := depth_ofValueWithin_le ih hheader
          simp only [Value.depth, Value.depthItems]
          omega
        · cases h
      · cases h
    · cases h

/-- A header nests no deeper than the item that it was read from. -/
theorem depth_ofValue_le {item : Value} {header : Header} (h : ofValue item = .ok header) :
  header.toValue.depth ≤ item.depth
  := depth_ofValueWithin_le (keepsDepth_signatureWithin _) h

end Header

namespace Message

variable {kind : Proof} {levels : Nat}

/-- The item of a message differs from the one that it was read from in the unprotected header
only. -/
theorem exists_of_ofValue {item : Value} {m : Message kind} (h : ofValue item = .ok m) :
  ∃ unprotectedHeader, Header.ofValue unprotectedHeader = .ok m.unprotectedHeader
    ∧ item = .array [.bytes m.protectedHeader.bytes, unprotectedHeader,
      m.payload.elim .null .bytes, .bytes m.proof]
  := by
  simp only [ofValue] at h
  split at h
  · split at h
    · split at h
      · obtain ⟨_, ⟨⟩, h⟩ := Except.bind_eq_ok_iff.mp h
        obtain ⟨header, hheader, h⟩ := Except.bind_eq_ok_iff.mp h
        split at h
        · obtain ⟨_, -, h⟩ := Except.bind_eq_ok_iff.mp h
          cases h
          exact ⟨_, hheader, rfl⟩
        · cases h
      · obtain ⟨_, ⟨⟩, h⟩ := Except.bind_eq_ok_iff.mp h
        obtain ⟨header, hheader, h⟩ := Except.bind_eq_ok_iff.mp h
        split at h
        · obtain ⟨_, -, h⟩ := Except.bind_eq_ok_iff.mp h
          cases h
          exact ⟨_, hheader, rfl⟩
        · cases h
      · cases h
    · cases h
  · cases h

/-- A message nests no deeper than the item that it was read from. -/
theorem depth_ofValue_le {item : Value} {m : Message kind} (h : ofValue item = .ok m) :
  m.toValue.depth ≤ item.depth
  := by
  obtain ⟨unprotectedHeader, hheader, rfl⟩ := exists_of_ofValue h
  have keeps := Header.depth_ofValue_le hheader
  simp only [toValue, Value.depth, Value.depthItems]
  omega

theorem yields_nests (kind : Proof) (levels : Nat) :
  (Cbor.Wire.decoder : Cbor.Decoder (Message kind)).Yields levels (Cbor.Nests levels)
  := by
  refine (Cbor.yields_value levels).refine fun item m nests h => ?_
  exact Nat.le_trans (depth_ofValue_le (Except.mapError_eq_ok_iff.mp h)) nests

/-- A message that was read, and is read back from its own bytes, is read back wherever there is
room for it. -/
theorem survives_of_nests {m : Message kind} (nests : Cbor.Nests levels m)
    (recodes : Cbor.Recodes m) :
  Cbor.Survives levels m
  := nests.survives (fun _ => rfl) recodes

end Message

end Presentment.Cose
