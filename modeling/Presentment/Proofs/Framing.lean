import Presentment.Proofs.Fragment

/-!
# Cutting and putting together

A message is cut into full blocks and a last one, which may be shorter, and `count` tells into
how many.  `Assembles` says what becomes of any byte strings that are taken for fragments: what
comes before the first one that does not announce more is gathered, and that one decides.  So
cutting a message and putting it together are inverse to each other.
-/

namespace Presentment.Fragment

variable {data : Bytes} {block : BlockSize} {len index : Nat}

/-! ### Blocks -/

/-- Enough blocks are those that hold all bytes. -/
theorem count_le_iff {n : Nat} :
  count len block ≤ n ↔ len ≤ n * block.size
  := by
  have pos := block.size_pos
  rw [count, Nat.div_le_iff_le_mul pos]
  omega

theorem count_eq_zero_iff :
  count len block = 0 ↔ len = 0
  := by
  rw [← Nat.le_zero, count_le_iff, Nat.zero_mul, Nat.le_zero]

theorem count_eq_one (h : 0 < len) (short : len ≤ block.size) :
  count len block = 1
  := by
  have few : count len block ≤ 1 := by
    rw [count_le_iff, Nat.one_mul]
    exact short
  have needed : count len block ≠ 0 := by
    rw [ne_eq, count_eq_zero_iff]
    exact Nat.ne_of_gt h
  omega

/-- Behind a full block, one block less is needed. -/
theorem count_eq_succ (long : block.size < len) :
  count len block = count (len - block.size) block + 1
  := by
  have few : count len block ≤ count (len - block.size) block + 1 := by
    have others := count_le_iff.mp (Nat.le_refl (count (len - block.size) block))
    rw [count_le_iff, Nat.succ_mul]
    omega
  have many : count (len - block.size) block ≤ count len block - 1 := by
    have all := count_le_iff.mp (Nat.le_refl (count len block))
    rw [count_le_iff, Nat.sub_mul, Nat.one_mul]
    omega
  have needed : count len block ≠ 0 := by
    rw [ne_eq, count_eq_zero_iff]
    omega
  omega

theorem length_slice :
  (slice data index block).1.length = min block.size (data.length - index * block.size)
  := by
  rw [slice, List.length_take, List.length_drop]

/-- A block reaches the end of the message if no more blocks are needed. -/
theorem slice_snd_iff :
  (slice data index block).2 ↔ count data.length block ≤ index + 1
  := by
  rw [slice, count_le_iff, List.isEmpty_iff, List.drop_drop, List.drop_eq_nil_iff, Nat.succ_mul]

theorem slice_succ :
  slice data (index + 1) block = slice (data.drop block.size) index block
  := by
  have rest_eq : data.drop ((index + 1) * block.size)
      = (data.drop block.size).drop (index * block.size) := by
    rw [List.drop_drop, Nat.succ_mul, Nat.add_comm]
  rw [slice, rest_eq]
  rfl

/-- A block as it is found with numbers up to a limit: whatever exceeds the limit is cut down
to it. -/
def sliceWithin (limit : Nat) (data : Bytes) (index : Nat) (block : BlockSize) : Bytes × Bool :=
  let start := min (min (index * block.size) limit) data.length
  let stop := min (min (start + block.size) limit) data.length
  (data.extract start stop, stop == data.length)

/-- What is cut down lies behind the message anyway. -/
theorem sliceWithin_eq {limit : Nat} (h : data.length ≤ limit) :
  sliceWithin limit data index block = slice data index block
  := by
  rw [sliceWithin, slice]
  apply Prod.ext
  · rw [List.extract_eq_take_drop]
    rcases Nat.lt_or_ge (index * block.size) data.length with inside | behind
    · have start_eq : min (min (index * block.size) limit) data.length = index * block.size := by
        omega
      rw [start_eq, List.take_eq_take_iff, List.length_drop]
      omega
    · have start_eq : min (min (index * block.size) limit) data.length = data.length := by
        omega
      rw [start_eq, List.drop_length, List.drop_eq_nil_of_le behind, List.take_nil, List.take_nil]
  · rw [Bool.eq_iff_iff, beq_iff_eq, List.isEmpty_iff, List.drop_drop, List.drop_eq_nil_iff]
    omega

/-! ### Cutting -/

/-- The fragment that carries a block, which may be the last one. -/
def ofBlock (cut : Bytes × Bool) : Bytes :=
  (if cut.2 then Header.last else Header.more).byte :: cut.1

/-- The fragments carry the blocks in order. -/
theorem frame_eq_map :
  frame data block
    = (List.range (count data.length block)).map (fun index => ofBlock (slice data index block))
  := by
  fun_induction frame data block with
  | case1 data hempty =>
    rw [List.isEmpty_iff.mp hempty, List.length_nil, count_eq_zero_iff.mpr rfl]
    rfl
  | case2 data hnonempty hshort =>
    have short := List.drop_eq_nil_iff.mp (List.isEmpty_iff.mp hshort)
    have pos : 0 < data.length := List.length_pos_iff.mpr (mt List.isEmpty_iff.mpr hnonempty)
    have whole : slice data 0 block = (data, true) := by
      rw [slice, Nat.zero_mul, List.drop_zero, List.take_of_length_le short, hshort]
    rw [count_eq_one pos short, List.range_one, List.map_singleton, whole]
    rfl
  | case3 data hnonempty hlong ih =>
    have long : block.size < data.length :=
      Nat.not_le.mp (mt (List.isEmpty_iff.mpr ∘ List.drop_eq_nil_iff.mpr) hlong)
    have first : slice data 0 block = (data.take block.size, false) := by
      rw [slice, Nat.zero_mul, List.drop_zero, Bool.eq_false_iff.mpr hlong]
    have later : (fun index => ofBlock (slice data index block)) ∘ Nat.succ
        = fun index => ofBlock (slice (data.drop block.size) index block) := by
      funext index
      rw [Function.comp_apply, slice_succ]
    rw [count_eq_succ long, List.range_succ_eq_map, List.map_cons, List.map_map, later, first, ih,
      List.length_drop]
    rfl

theorem length_frame :
  (frame data block).length = count data.length block
  := by
  rw [frame_eq_map, List.length_map, List.length_range]

/-- A fragment carries at least one byte; all but the last one are full and announce more. -/
theorem of_mem_frame {before after : List Bytes} {fragment : Bytes}
    (h : frame data block = before ++ fragment :: after) :
  ∃ (header : Header) (payload : Bytes), fragment = header.byte :: payload
    ∧ 0 < payload.length ∧ payload.length ≤ block.size
    ∧ (header = .last ↔ after = [])
    ∧ (after ≠ [] → payload.length = block.size)
  := by
  have total : count data.length block = before.length + 1 + after.length := by
    rw [← length_frame, h, List.length_append, List.length_cons]
    omega
  have found : fragment = ofBlock (slice data before.length block) := by
    have here : (frame data block)[before.length]? = some fragment := by
      rw [h, List.getElem?_append_right (Nat.le_refl _), Nat.sub_self, List.getElem?_cons_zero]
    rw [frame_eq_map, List.getElem?_map, List.getElem?_range (by omega)] at here
    exact (Option.some.inj here).symm
  have begun : before.length * block.size < data.length := by
    rw [← Nat.not_le, ← count_le_iff]
    omega
  have pos := block.size_pos
  have last_iff : (slice data before.length block).2 ↔ after = [] := by
    rw [slice_snd_iff, total, ← List.length_eq_zero_iff]
    omega
  refine ⟨_, _, found, ?_, ?_, ?_, ?_⟩
  · rw [length_slice]
    omega
  · rw [length_slice]
    exact Nat.min_le_left _ _
  · rw [← last_iff]
    cases (slice data before.length block).2 with
    | true => simp
    | false => simp
  · intro hafter
    have more : ¬count data.length block ≤ before.length + 1 := by
      rw [← slice_snd_iff, last_iff]
      exact hafter
    rw [count_le_iff, Nat.succ_mul] at more
    rw [length_slice]
    omega

/-! ### Putting together -/

/-- What comes of byte strings, read as fragments of one message.  Those that come first announce
more, and carry `payloads`. -/
inductive Assembles (payloads : List Bytes) : List Bytes → Except Error (Option Bytes) → Prop
  /-- All of them announce more. -/
  | incomplete : Assembles payloads (payloads.map (Header.more.byte :: ·)) (.ok none)
  | complete (payload : Bytes) (others : List Bytes) :
      Assembles payloads
        (payloads.map (Header.more.byte :: ·) ++ (Header.last.byte :: payload) :: others)
        (.ok (some (payloads.flatten ++ payload)))
  | empty (others : List Bytes) :
      Assembles payloads (payloads.map (Header.more.byte :: ·) ++ [] :: others) (.error .empty)
  | invalidHeader {byte : UInt8} (payload : Bytes) (others : List Bytes)
      (invalid : ∀ header, byte ≠ Header.byte header) :
      Assembles payloads (payloads.map (Header.more.byte :: ·) ++ (byte :: payload) :: others)
        (.error (.invalidHeader byte))

section

variable {payloads fragments : List Bytes} {outcome : Except Error (Option Bytes)}

theorem ofByte_of_invalid {byte : UInt8} (invalid : ∀ header, byte ≠ Header.byte header) :
  Header.ofByte byte = .error (.invalidHeader byte)
  := (if_neg (invalid .more)).trans (if_neg (invalid .last))

/-- Fragments that announce more are gathered. -/
theorem reassembleFrom_map_more (payloads others : List Bytes) (buffer : Bytes) :
  reassembleFrom buffer (payloads.map (Header.more.byte :: ·) ++ others)
    = reassembleFrom (buffer ++ payloads.flatten) others
  := by
  induction payloads generalizing buffer with
  | nil => rw [List.map_nil, List.nil_append, List.flatten_nil, List.append_nil]
  | cons payload payloads ih =>
    rw [List.map_cons, List.cons_append, reassembleFrom,
      append_of_parse (parse_byte .more payload), List.flatten_cons, ← List.append_assoc]
    exact ih (buffer ++ payload)

theorem Assembles.reassemble?_eq (h : Assembles payloads fragments outcome) :
  reassemble? fragments = outcome
  := by
  cases h with
  | incomplete =>
    have gathered := reassembleFrom_map_more payloads [] []
    rw [List.append_nil] at gathered
    exact gathered
  | complete payload others =>
    rw [reassemble?, reassembleFrom_map_more, reassembleFrom,
      append_of_parse (parse_byte .last payload), List.nil_append]
    rfl
  | empty others =>
    rw [reassemble?, reassembleFrom_map_more, reassembleFrom, append_of_parse_error rfl]
    rfl
  | @invalidHeader byte payload others invalid =>
    have parse_eq : parse (byte :: payload) = .error (.invalidHeader byte) := by
      rw [parse, ofByte_of_invalid invalid]
      rfl
    rw [reassemble?, reassembleFrom_map_more, reassembleFrom, append_of_parse_error parse_eq]
    rfl

theorem Assembles.more (h : Assembles payloads fragments outcome) (payload : Bytes) :
  ∃ outcome, Assembles (payload :: payloads) ((Header.more.byte :: payload) :: fragments) outcome
  := by
  cases h with
  | incomplete => exact ⟨_, .incomplete⟩
  | complete last others => exact ⟨_, .complete last others⟩
  | empty others => exact ⟨_, .empty others⟩
  | invalidHeader last others invalid => exact ⟨_, .invalidHeader last others invalid⟩

/-- Something comes of all byte strings. -/
theorem exists_assembles (fragments : List Bytes) :
  ∃ payloads outcome, Assembles payloads fragments outcome
  := by
  induction fragments with
  | nil => exact ⟨[], _, .incomplete⟩
  | cons fragment fragments ih =>
    cases fragment with
    | nil => exact ⟨[], _, .empty fragments⟩
    | cons byte payload =>
      by_cases invalid : ∀ header, byte ≠ Header.byte header
      · exact ⟨[], _, .invalidHeader payload fragments invalid⟩
      · obtain ⟨header, hheader⟩ := Classical.not_forall.mp invalid
        obtain rfl := Classical.not_not.mp hheader
        cases header with
        | last => exact ⟨[], _, .complete payload fragments⟩
        | more =>
          obtain ⟨payloads, outcome, assembles⟩ := ih
          exact ⟨_, assembles.more payload⟩

theorem reassemble?_eq_iff :
  reassemble? fragments = outcome ↔ ∃ payloads, Assembles payloads fragments outcome
  := by
  constructor
  · rintro rfl
    obtain ⟨payloads, outcome, assembles⟩ := exists_assembles fragments
    rw [assembles.reassemble?_eq]
    exact ⟨payloads, assembles⟩
  · rintro ⟨payloads, assembles⟩
    exact assembles.reassemble?_eq

/-- As long as a fragment is missing there is no message. -/
theorem Carries.reassembleFrom_of_isPrefix (h : Carries fragments data) {fewer : List Bytes}
    (earlier : fewer <+: fragments) (proper : fewer ≠ fragments) (buffer : Bytes) :
  Fragment.reassembleFrom buffer fewer = .ok none
  := by
  induction h generalizing fewer buffer with
  | last payload =>
    rcases List.prefix_cons_iff.mp earlier with rfl | ⟨later, rfl, hlater⟩
    · rfl
    · rw [List.prefix_nil.mp hlater] at proper
      exact absurd rfl proper
  | more payload _ ih =>
    rcases List.prefix_cons_iff.mp earlier with rfl | ⟨later, rfl, hlater⟩
    · rfl
    · rw [Fragment.reassembleFrom, append_of_parse (parse_byte .more payload)]
      exact ih hlater (fun heq => proper (congrArg _ heq)) (buffer ++ payload)

end

/-- Cutting a message and putting it together are inverse to each other.  A message is cut into as
many fragments as `count` tells, with numbers of any size that can count its bytes: full ones that
announce more and a last one.  Whatever follows them, they give the message back, but none of them
can be missing; and of any byte strings what comes first and announces more is gathered. -/
theorem frame_isReversible (data : Bytes) (block : BlockSize) :
  (frame data block).length = count data.length block
    ∧ (count data.length block = 0 ↔ data = [])
    ∧ (∀ limit, data.length ≤ limit →
      frame data block = (List.range (count data.length block)).map
        (fun index => ofBlock (sliceWithin limit data index block)))
    ∧ (∀ before fragment after, frame data block = before ++ fragment :: after →
      ∃ (header : Header) (payload : Bytes), fragment = header.byte :: payload
        ∧ 0 < payload.length ∧ payload.length ≤ block.size
        ∧ (header = .last ↔ after = [])
        ∧ (after ≠ [] → payload.length = block.size))
    ∧ (data ≠ [] → ∀ others, reassemble? (frame data block ++ others) = .ok (some data))
    ∧ (∀ fragments, fragments <+: frame data block → fragments ≠ frame data block →
      reassemble? fragments = .ok none)
    ∧ ∀ fragments outcome,
      reassemble? fragments = outcome ↔ ∃ payloads, Assembles payloads fragments outcome
  := by
  refine ⟨length_frame, ?_, ?_, fun _ _ _ => of_mem_frame, ?_, ?_, fun _ _ => reassemble?_eq_iff⟩
  · rw [count_eq_zero_iff, List.length_eq_zero_iff]
  · intro limit hlimit
    simp only [sliceWithin_eq hlimit]
    exact frame_eq_map
  · intro nonempty others
    exact (carries_frame data block nonempty).reassembleFrom [] others
  · intro fragments earlier proper
    have nonempty : data ≠ [] := by
      rintro rfl
      rw [frame, List.isEmpty_nil, if_pos rfl] at earlier proper
      exact proper (List.prefix_nil.mp earlier)
    exact (carries_frame data block nonempty).reassembleFrom_of_isPrefix earlier proper []

/-- Five bytes are cut into three fragments.  What follows the last one does not matter, but before
it everything does. -/
theorem frame_isReversible_five :
  frame [1, 2, 3, 4, 5] ⟨2, by decide⟩ = [[1, 1, 2], [1, 3, 4], [0, 5]]
    ∧ (∃ (header : Header) (payload : Bytes), [1, 3, 4] = header.byte :: payload
      ∧ 0 < payload.length ∧ payload.length ≤ 2
      ∧ (header = .last ↔ [[0, 5]] = ([] : List Bytes))
      ∧ ([[0, 5]] ≠ ([] : List Bytes) → payload.length = 2))
    ∧ reassemble? ([[1, 1, 2], [1, 3, 4], [0, 5]] ++ [[], [7]]) = .ok (some [1, 2, 3, 4, 5])
    ∧ reassemble? [[1, 1, 2], [1, 3, 4]] = .ok none
    ∧ reassemble? [[1, 1, 2], [7, 3, 4], [0, 5]] = .error (.invalidHeader 7)
  := by
  obtain ⟨-, -, cut, full, restored, missing, assembled⟩ :=
    frame_isReversible [1, 2, 3, 4, 5] ⟨2, by decide⟩
  have frame_eq : frame [1, 2, 3, 4, 5] ⟨2, by decide⟩ = [[1, 1, 2], [1, 3, 4], [0, 5]] :=
    (cut 0xFFFFFFFFFFFFFFFF (by decide)).trans (by decide)
  have second := full [[1, 1, 2]] [1, 3, 4] [[0, 5]] frame_eq
  have whole := restored (by decide) [[], [7]]
  have incomplete := missing [[1, 1, 2], [1, 3, 4]]
  rw [frame_eq] at whole incomplete
  refine ⟨frame_eq, second, whole, incomplete ⟨[[0, 5]], rfl⟩ (by decide), ?_⟩
  apply (assembled _ _).mpr
  refine ⟨[[1, 2]], Assembles.invalidHeader [3, 4] [[0, 5]] ?_⟩
  intro header
  cases header with
  | more | last => decide

end Presentment.Fragment
