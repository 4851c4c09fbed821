import Presentment.Embedded
import Presentment.Proofs.Cbor.Decoder

/-!
# Embedded items survive

The bytes of an embedded item are written as they are, so they are the same again when they
are read, and what they stand for is the same as well.
-/

namespace Presentment.Embedded

open Cbor (Survives Wire)

variable {α : Type} [Wire α]

theorem ofBytes_bytes (e : Embedded α) :
  ofBytes e.bytes = .ok e
  := by
  rw [ofBytes]
  split
  · exact congrArg Except.ok (eq_of_bytes_eq rfl)
  · rename_i heq
    rw [e.decode_bytes] at heq
    cases heq

theorem ofValue_toValue (e : Embedded α) :
  ofValue e.toValue = .ok e
  := ofBytes_bytes e

theorem bytes_of_ofBytes {bs : Bytes} {e : Embedded α} (h : ofBytes bs = .ok e) :
  e.bytes = bs
  := by
  rw [ofBytes] at h
  split at h
  · cases h
    rfl
  · cases h

/-- A value that survives is embedded as it is. -/
theorem content_of_ofContent {a : α} {e : Embedded α} (h : ofContent a = .ok e)
    (survives : Survives Cbor.maxLevels a) (short : (Cbor.encode a).length < Cbor.headCapacity) :
  e.content = a
  := by
  have decoded := e.decode_bytes
  rw [bytes_of_ofBytes h, survives.decode_encode short] at decoded
  cases decoded
  rfl

/-- A value that survives can be embedded. -/
theorem exists_ofContent {a : α} (survives : Survives Cbor.maxLevels a)
    (short : (Cbor.encode a).length < Cbor.headCapacity) :
  ∃ e : Embedded α, ofContent a = .ok e
  := by
  have decoded := survives.decode_encode short
  rw [ofContent, ofBytes]
  split
  · exact ⟨_, rfl⟩
  · rename_i heq
    rw [decoded] at heq
    cases heq

theorem survives {levels : Nat} (e : Embedded α) :
  Survives (levels + 1) e
  := by
  have item : Survives (levels + 1) (Cbor.Value.tag 24 (.bytes e.bytes)) :=
    Cbor.survives_tag (Cbor.survives_bytes e.bytes) (by decide) (by decide)
  exact item.refine (ofValue_toValue e)

end Presentment.Embedded
