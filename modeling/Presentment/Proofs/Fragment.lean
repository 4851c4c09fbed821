import Presentment.Fragment

/-!
# Framing

The fragments of a message carry it: all but the last one announce that more follow, and their
payloads make up the message.  Whoever appends the payloads gets the message back.
-/

namespace Presentment.Fragment

/-- The fragments carry `data`, and the last of them is marked. -/
inductive Carries : List Bytes → Bytes → Prop
  | last (payload : Bytes) : Carries [Header.last.byte :: payload] payload
  | more (payload : Bytes) {fragments : List Bytes} {data : Bytes} :
      Carries fragments data →
        Carries ((Header.more.byte :: payload) :: fragments) (payload ++ data)

theorem parse_byte (header : Header) (payload : Bytes) :
  parse (header.byte :: payload) = .ok (header, payload)
  := by
  cases header with
  | more => rfl
  | last => rfl

theorem carries_frame (data : Bytes) (block : BlockSize) (h : data ≠ []) :
  Carries (frame data block) data
  := by
  fun_induction frame data block with
  | case1 data hempty => exact absurd (List.isEmpty_iff.mp hempty) h
  | case2 data hnonempty hshort => exact .last data
  | case3 data hnonempty hlong ih =>
    have rest : data.drop block.size ≠ [] := by
      intro hdrop
      exact hlong (List.isEmpty_iff.mpr hdrop)
    have carried := Carries.more (data.take block.size) (ih rest)
    rw [List.take_append_drop] at carried
    exact carried

/-- Reading fragments gives the message that they carry. -/
theorem Carries.reassembleFrom {fragments : List Bytes} {data : Bytes}
    (h : Carries fragments data) (buffer : Bytes) (others : List Bytes) :
  Fragment.reassembleFrom buffer (fragments ++ others) = .ok (some (buffer ++ data))
  := by
  induction h generalizing buffer with
  | last payload =>
    rw [List.singleton_append, Fragment.reassembleFrom, append, parse_byte]
    rfl
  | more payload _ ih =>
    rw [List.cons_append, Fragment.reassembleFrom, append, parse_byte, ← List.append_assoc]
    exact ih (buffer ++ payload)

/-- A message is put together from its fragments. -/
theorem reassemble?_frame {data : Bytes} (h : data ≠ []) (block : BlockSize) :
  reassemble? (frame data block) = .ok (some data)
  := by
  have read := (carries_frame data block h).reassembleFrom [] []
  rwa [List.append_nil] at read

/-! ### Fragments that come one after the other -/

/-- What fragments carry, whatever they announce. -/
def payloads (fragments : List Bytes) : Bytes :=
  (fragments.map List.tail).flatten

theorem payloads_concat (fragments : List Bytes) (fragment : Bytes) :
  payloads (fragments ++ [fragment]) = payloads fragments ++ fragment.tail
  := by
  rw [payloads, List.map_append, List.flatten_append]
  exact congrArg _ (List.append_nil _)

/-- A fragment is its header and what it carries. -/
theorem eq_of_parse {fragment payload : Bytes} {header : Header}
    (h : parse fragment = .ok (header, payload)) :
  fragment = header.byte :: payload
  := by
  cases fragment with
  | nil => cases h
  | cons first rest =>
    rw [parse, Header.ofByte] at h
    split at h
    · rename_i more
      cases h
      rw [more, Header.byte]
    · split at h
      · rename_i last
        cases h
        rw [last, Header.byte]
      · cases h

theorem tail_of_parse {fragment payload : Bytes} {header : Header}
    (h : parse fragment = .ok (header, payload)) :
  fragment.tail = payload
  := by
  rw [eq_of_parse h, List.tail_cons]

theorem append_of_parse {fragment payload : Bytes} {header : Header}
    (h : parse fragment = .ok (header, payload)) (buffer : Bytes) :
  append buffer fragment = .ok (header, buffer ++ payload)
  := by
  rw [append, h]
  rfl

theorem append_of_parse_error {fragment : Bytes} {e : Error} (h : parse fragment = .error e)
    (buffer : Bytes) :
  append buffer fragment = .error e
  := by
  rw [append, h]
  rfl

/-- A fragment that is appended was read. -/
theorem exists_of_append {buffer buffer' fragment : Bytes} {header : Header}
    (h : append buffer fragment = .ok (header, buffer')) :
  ∃ payload, parse fragment = .ok (header, payload) ∧ buffer' = buffer ++ payload
  := by
  cases hparse : parse fragment with
  | error e =>
    rw [append_of_parse_error hparse] at h
    cases h
  | ok result =>
    rw [append_of_parse hparse] at h
    cases h
    exact ⟨_, rfl, rfl⟩

/-- As long as no message is complete, it goes on with the fragments that come later. -/
theorem reassembleFrom_append {fragments : List Bytes} {buffer : Bytes}
    (h : reassembleFrom buffer fragments = .ok none) (others : List Bytes) :
  reassembleFrom buffer (fragments ++ others)
    = reassembleFrom (buffer ++ payloads fragments) others
  := by
  induction fragments generalizing buffer with
  | nil => rw [List.nil_append, payloads, List.map_nil, List.flatten_nil, List.append_nil]
  | cons fragment fragments ih =>
    cases hparse : parse fragment with
    | error e =>
      rw [reassembleFrom, append_of_parse_error hparse] at h
      cases h
    | ok result =>
      obtain ⟨header, payload⟩ := result
      rw [reassembleFrom, append_of_parse hparse] at h
      rw [List.cons_append, reassembleFrom, append_of_parse hparse]
      cases header with
      | last => cases h
      | more =>
        have later := ih h
        rw [List.append_assoc] at later
        rw [payloads, List.map_cons, List.flatten_cons, tail_of_parse hparse]
        exact later

theorem reassemble?_concat_more {fragments : List Bytes} {fragment payload : Bytes}
    (h : reassemble? fragments = .ok none) (parse_eq : parse fragment = .ok (.more, payload)) :
  reassemble? (fragments ++ [fragment]) = .ok none
  := by
  rw [reassemble?, reassembleFrom_append h, reassembleFrom, append_of_parse parse_eq]
  rfl

theorem reassemble?_concat_last {fragments : List Bytes} {fragment payload : Bytes}
    (h : reassemble? fragments = .ok none) (parse_eq : parse fragment = .ok (.last, payload)) :
  reassemble? (fragments ++ [fragment]) = .ok (some (payloads fragments ++ payload))
  := by
  rw [reassemble?, reassembleFrom_append h, reassembleFrom, append_of_parse parse_eq]
  rfl

end Presentment.Fragment
