import Mathlib.Data.List.Forall2

/-!
# Results

When a sequence of steps that may fail succeeds, each of them does.
-/

namespace Except

variable {ε α β : Type}

theorem bind_eq_ok_iff {x : Except ε α} {f : α → Except ε β} {b : β} :
  (x >>= f) = .ok b ↔ ∃ a, x = .ok a ∧ f a = .ok b
  := by
  cases x with
  | error e => simp [bind, Except.bind]
  | ok a => simp [bind, Except.bind]

theorem bind_eq_error_iff {x : Except ε α} {f : α → Except ε β} {e : ε} :
  (x >>= f) = .error e ↔ x = .error e ∨ ∃ a, x = .ok a ∧ f a = .error e
  := by
  cases x with
  | error e => simp [bind, Except.bind]
  | ok a => simp [bind, Except.bind]

theorem map_eq_ok_iff {x : Except ε α} {f : α → β} {b : β} :
  f <$> x = .ok b ↔ ∃ a, x = .ok a ∧ f a = b
  := by
  cases x with
  | error e => simp [Functor.map, Except.map]
  | ok a => simp [Functor.map, Except.map]

theorem mapError_eq_ok_iff {ε' : Type} {x : Except ε α} {f : ε → ε'} {a : α} :
  x.mapError f = .ok a ↔ x = .ok a
  := by
  cases x with
  | error e => simp [Except.mapError]
  | ok a => simp [Except.mapError]

theorem mapError_eq_error_iff {ε' : Type} {x : Except ε α} {f : ε → ε'} {e : ε'} :
  x.mapError f = .error e ↔ ∃ cause, x = .error cause ∧ f cause = e
  := by
  cases x with
  | error cause => simp [Except.mapError]
  | ok a => simp [Except.mapError]

theorem toOption_eq_some_iff {x : Except ε α} {a : α} :
  x.toOption = some a ↔ x = .ok a
  := by
  cases x with
  | error e => simp [Except.toOption]
  | ok a => simp [Except.toOption]

theorem mapM_eq_ok_iff {f : α → Except ε β} {as : List α} {bs : List β} :
  as.mapM f = .ok bs ↔ List.Forall₂ (fun a b => f a = .ok b) as bs
  := by
  induction as generalizing bs with
  | nil =>
    rw [List.mapM_nil, List.forall₂_nil_left_iff]
    constructor
    · intro h
      cases h
      rfl
    · rintro rfl
      rfl
  | cons a as ih =>
    rw [List.mapM_cons, bind_eq_ok_iff, List.forall₂_cons_left_iff]
    apply exists_congr
    intro b
    constructor
    · rintro ⟨ha, h⟩
      obtain ⟨bs', hbs, heq⟩ := bind_eq_ok_iff.mp h
      cases heq
      exact ⟨bs', ha, ih.mp hbs, rfl⟩
    · rintro ⟨bs', ha, hbs, rfl⟩
      use ha
      rw [ih.mpr hbs]
      rfl

theorem exists_mapM {f : α → Except ε β} {as : List α} (h : ∀ a ∈ as, ∃ b, f a = .ok b) :
  ∃ bs, as.mapM f = .ok bs
  := by
  induction as with
  | nil => exact ⟨[], rfl⟩
  | cons a as ih =>
    obtain ⟨⟨b, ha⟩, h⟩ := List.forall_mem_cons.mp h
    obtain ⟨bs, has⟩ := ih h
    use b :: bs
    rw [List.mapM_cons, ha, has]
    rfl

/-- A sequence of steps fails as the first of them that fails does. -/
theorem mapM_eq_error_iff {f : α → Except ε β} {as : List α} {e : ε} :
  as.mapM f = .error e
    ↔ ∃ before a after, as = before ++ a :: after ∧ (∀ a ∈ before, ∃ b, f a = .ok b)
      ∧ f a = .error e
  := by
  induction as with
  | nil =>
    constructor
    · intro h
      cases h
    · rintro ⟨before, a, after, heq, -⟩
      exact absurd heq.symm (List.append_ne_nil_of_right_ne_nil _ (List.cons_ne_nil _ _))
  | cons a as ih =>
    rw [List.mapM_cons, bind_eq_error_iff]
    constructor
    · rintro (failed | ⟨b, made, h⟩)
      · use [], a, as, rfl
        exact ⟨List.forall_mem_nil _, failed⟩
      · rcases bind_eq_error_iff.mp h with h | ⟨_, -, h⟩
        · obtain ⟨before, a', after, rfl, earlier, failed⟩ := ih.mp h
          use a :: before, a', after, rfl
          exact ⟨List.forall_mem_cons.mpr ⟨⟨b, made⟩, earlier⟩, failed⟩
        · cases h
    · rintro ⟨before, a', after, heq, earlier, failed⟩
      cases before with
      | nil =>
        cases heq
        exact .inl failed
      | cons first before =>
        cases heq
        obtain ⟨⟨b, made⟩, earlier⟩ := List.forall_mem_cons.mp earlier
        apply Or.inr
        use b, made
        rw [ih.mpr ⟨before, a', after, rfl, earlier, failed⟩]
        rfl

end Except

/-- What stands in a list stands for something in a list that is related to it. -/
theorem exists_of_mem_of_forall₂ {α β : Type} {r : α → β → Prop} {as : List α} {bs : List β}
    (h : List.Forall₂ r as bs) {b : β} (hb : b ∈ bs) :
  ∃ a ∈ as, r a b
  := by
  induction h with
  | nil => cases hb
  | cons hr _ ih =>
    rcases List.mem_cons.mp hb with rfl | hb
    · exact ⟨_, List.mem_cons_self, hr⟩
    · obtain ⟨a, ha, hr⟩ := ih hb
      exact ⟨a, List.mem_cons_of_mem _ ha, hr⟩

/-- Two lists that are related to the same list, one from each side. -/
theorem forall₂_comp {α β γ : Type} {r : α → β → Prop} {r' : β → γ → Prop} {t : α → γ → Prop}
    {as : List α} {bs : List β} {cs : List γ} (h : List.Forall₂ r as bs)
    (h' : List.Forall₂ r' bs cs) (himp : ∀ a b c, r a b → r' b c → t a c) :
  List.Forall₂ t as cs
  := by
  induction h generalizing cs with
  | nil =>
    cases h'
    exact .nil
  | cons hr _ ih =>
    cases h' with
    | cons hr' h' => exact .cons (himp _ _ _ hr hr') (ih h')
