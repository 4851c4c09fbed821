import Mathlib.Data.List.Nodup
import Mathlib.Data.List.Range
import Mathlib.Tactic.Use
import Presentment.Security.SessionKey

/-!
# The nonces of a session key

Every call of `encrypt` or `decrypt` takes the next number, whether it succeeds or not, and the
nonce that it uses is made from this number.  The numbers start over for no key, so no nonce is
used twice under one, and when they are used up every call fails and nothing changes.
-/

namespace Presentment.SessionKey

variable {suite : CipherSuite} {k : SessionKey}

/-! ### Calls -/

/-- A call that uses a session key. -/
inductive Call where
  | encrypt (text : Bytes)
  | decrypt (ciphertext : Bytes)

namespace Call

/-- What a call comes to under a nonce. -/
def outcome (suite : CipherSuite) (key nonce : Bytes) : Call → Except SessionError Bytes
  | .encrypt text => match suite.encrypt? key nonce text with
    | some ciphertext => .ok ciphertext
    | none => .error .encryption
  | .decrypt ciphertext => match suite.decrypt? key nonce ciphertext with
    | some text => .ok text
    | none => .error .decryption

/-- What a call does with a session key. -/
def run (suite : CipherSuite) (call : Call) (k : SessionKey) :
    Except SessionError Bytes × SessionKey :=
  match call with
  | .encrypt text => k.encrypt suite text
  | .decrypt ciphertext => k.decrypt suite ciphertext

end Call

/-- A session key after some calls. -/
def after (suite : CipherSuite) (calls : List Call) (k : SessionKey) : SessionKey :=
  calls.foldl (fun k call => (call.run suite k).2) k

/-- The nonces that calls use, in order. -/
def nonces (suite : CipherSuite) : List Call → SessionKey → List Bytes
  | [], _ => []
  | call :: calls, k =>
    (k.next.toOption.map Prod.fst).toList ++ nonces suite calls (call.run suite k).2

@[simp]
theorem after_nil (suite : CipherSuite) (k : SessionKey) :
  after suite [] k = k
  := rfl

theorem after_cons (suite : CipherSuite) (call : Call) (calls : List Call) (k : SessionKey) :
  after suite (call :: calls) k = after suite calls (call.run suite k).2
  := rfl

/-! ### Counting -/

theorem next_of_lt (left : k.counter < maxCounter) :
  k.next = .ok (nonce k.party (k.counter + 1), { k with counter := k.counter + 1 })
  := if_pos left

theorem next_of_le (exhausted : maxCounter ≤ k.counter) :
  k.next = .error .counterExhausted
  := if_neg (Nat.not_lt.mpr exhausted)

/-- A call uses the next number, whether it succeeds or not. -/
theorem Call.run_of_lt (suite : CipherSuite) (call : Call) (left : k.counter < maxCounter) :
  call.run suite k = (call.outcome suite k.key (nonce k.party (k.counter + 1)),
    { k with counter := k.counter + 1 })
  := by
  cases call with
  | encrypt text =>
    rw [run, outcome, SessionKey.encrypt, next_of_lt left]
    dsimp only
    cases suite.encrypt? k.key (nonce k.party (k.counter + 1)) text with
    | some ciphertext => rfl
    | none => rfl
  | decrypt ciphertext =>
    rw [run, outcome, SessionKey.decrypt, next_of_lt left]
    dsimp only
    cases suite.decrypt? k.key (nonce k.party (k.counter + 1)) ciphertext with
    | some text => rfl
    | none => rfl

/-- When the numbers are used up, a call does nothing. -/
theorem Call.run_of_le (suite : CipherSuite) (call : Call) (exhausted : maxCounter ≤ k.counter) :
  call.run suite k = (.error .counterExhausted, k)
  := by
  cases call with
  | encrypt text => rw [run, SessionKey.encrypt, next_of_le exhausted]
  | decrypt ciphertext => rw [run, SessionKey.decrypt, next_of_le exhausted]

/-- Calls change nothing but the number, which does not pass the highest. -/
theorem after_eq (suite : CipherSuite) (calls : List Call) (bounded : k.counter ≤ maxCounter) :
  after suite calls k = { k with counter := min (k.counter + calls.length) maxCounter }
  := by
  induction calls generalizing k with
  | nil => rw [after_nil, List.length_nil, Nat.add_zero, Nat.min_eq_left bounded]
  | cons call calls ih =>
    rw [after_cons, List.length_cons]
    rcases Nat.lt_or_ge k.counter maxCounter with left | exhausted
    · rw [call.run_of_lt suite left]
      have later := ih (k := { k with counter := k.counter + 1 }) left
      rw [later, Nat.add_assoc, Nat.add_comm 1]
    · rw [call.run_of_le suite exhausted, ih bounded]
      congr 1
      omega

/-- The nonces of the calls are those of the numbers that follow. -/
theorem nonces_eq (suite : CipherSuite) (calls : List Call) (k : SessionKey) :
  nonces suite calls k
    = (List.range' (k.counter + 1) (min calls.length (maxCounter - k.counter))).map
        (nonce k.party)
  := by
  induction calls generalizing k with
  | nil => simp [nonces]
  | cons call calls ih =>
    rw [nonces, ih, List.length_cons]
    rcases Nat.lt_or_ge k.counter maxCounter with left | exhausted
    · rw [next_of_lt left, call.run_of_lt suite left]
      have count : min (calls.length + 1) (maxCounter - k.counter)
          = min calls.length (maxCounter - (k.counter + 1)) + 1 := by
        omega
      rw [count, List.range'_succ, List.map_cons]
      rfl
    · rw [next_of_le exhausted, call.run_of_le suite exhausted, Nat.sub_eq_zero_of_le exhausted,
        Nat.min_zero, Nat.min_zero]
      rfl

/-! ### Nonces -/

/-- Numbers that fit into four bytes have different nonces. -/
theorem nonce_injective {party : Party} {m n : Nat} (hm : m ≤ maxCounter) (hn : n ≤ maxCounter)
    (h : nonce party m = nonce party n) :
  m = n
  := by
  have same : Bytes.ofNat 4 m = Bytes.ofNat 4 n := List.append_cancel_left h
  have read := congrArg Bytes.toNat same
  have fits : Bytes.capacity 4 = maxCounter + 1 := rfl
  rw [Bytes.toNat_ofNat, Bytes.toNat_ofNat, fits, Nat.mod_eq_of_lt (Nat.lt_succ_of_le hm),
    Nat.mod_eq_of_lt (Nat.lt_succ_of_le hn)] at read
  exact read

/-- No nonce is used twice. -/
theorem nodup_nonces (suite : CipherSuite) (calls : List Call) (k : SessionKey) :
  (nonces suite calls k).Nodup
  := by
  rw [nonces_eq]
  apply List.Nodup.map_on _ List.nodup_range'
  intro m hm n hn h
  rw [List.mem_range'_1] at hm hn
  apply nonce_injective _ _ h
  · omega
  · omega

/-- The calls with a session key are numbered. -/
structure IsNumbered (suite : CipherSuite) (k : SessionKey) : Prop where
  /-- Call `n` uses the nonce of number `n`, in four bytes. -/
  run_eq : ∀ (calls : List Call) (call : Call), calls.length < maxCounter →
    call.run suite (after suite calls k)
      = (call.outcome suite k.key
          (k.party.identifier ++ Bytes.ofNat 4 (calls.length + 1)),
        { k with counter := calls.length + 1 })
  /-- When the numbers are used up, a call does nothing. -/
  exhausted : ∀ (calls : List Call) (call : Call), maxCounter ≤ calls.length →
    call.run suite (after suite calls k) = (.error .counterExhausted, after suite calls k)
      ∧ (after suite calls k).counter = maxCounter
  nodup : ∀ calls : List Call, (nonces suite calls k).Nodup

/-- The calls with a session key that was not used before are numbered. -/
theorem isNumbered (suite : CipherSuite) (unused : k.counter = 0) :
  IsNumbered suite k
  := by
  have bounded : k.counter ≤ maxCounter := unused ▸ Nat.zero_le _
  constructor
  case run_eq =>
    intro calls call left
    have reached : after suite calls k = { k with counter := calls.length } := by
      rw [after_eq suite calls bounded, unused, Nat.zero_add, Nat.min_eq_left (Nat.le_of_lt left)]
    rw [reached]
    exact call.run_of_lt suite left
  case exhausted =>
    intro calls call full
    have reached : after suite calls k = { k with counter := maxCounter } := by
      rw [after_eq suite calls bounded, unused, Nat.zero_add, Nat.min_eq_right full]
    rw [reached]
    exact ⟨call.run_of_le suite (Nat.le_refl _), rfl⟩
  case nodup => exact fun calls => nodup_nonces suite calls k

end Presentment.SessionKey
