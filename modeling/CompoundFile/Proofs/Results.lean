import Mathlib

/-!
# Results that may be errors

When a computation that may fail succeeds, so did every part of it. For two parts one behind the
other this is `bind_eq_ok_iff`, for the elements of a list `mapM_eq_ok_iff`.

**Two computations** are compared by their results (`Parallel`): both fail with the same error, or
both succeed and the values are related. Computations are parallel when their parts are.
-/

namespace CompoundFile

variable {ε α β : Type}

theorem bind_eq_ok_iff {x : Except ε α} {f : α → Except ε β} {b : β} :
    x >>= f = .ok b ↔ ∃ a, x = .ok a ∧ f a = .ok b := by
  cases x with
  | error e =>
    constructor
    · intro h
      cases h
    · rintro ⟨a, h, -⟩
      cases h
  | ok a =>
    constructor
    · exact fun h => ⟨a, rfl, h⟩
    · rintro ⟨a', h, h'⟩
      cases h
      exact h'

/-- A check that fails with an error before the rest of a computation. -/
theorem guard_eq_ok_iff {p : Prop} [Decidable p] {e : ε} {rest : PUnit → Except ε β} {b : β} :
    (if p then (throw e : Except ε PUnit) >>= rest else rest ()) = .ok b ↔
      ¬p ∧ rest () = .ok b := by
  by_cases hp : p
  · rw [if_pos hp]
    refine ⟨fun h => ?_, fun h => absurd hp h.1⟩
    cases h
  · rw [if_neg hp]
    exact ⟨fun h => ⟨hp, h⟩, And.right⟩

theorem map_eq_ok_iff {f : α → β} {x : Except ε α} {b : β} :
    x.map f = .ok b ↔ ∃ a, x = .ok a ∧ f a = b := by
  cases x <;> simp [Except.map]

theorem mapError_eq_ok_iff {ε' : Type} {f : ε → ε'} {x : Except ε α} {a : α} :
    x.mapError f = .ok a ↔ x = .ok a := by
  cases x <;> simp [Except.mapError]

theorem map_eq_error_iff {f : α → β} {x : Except ε α} {e : ε} :
    x.map f = .error e ↔ x = .error e := by
  cases x <;> simp [Except.map]

theorem mapError_eq_error_iff {ε' : Type} {f : ε → ε'} {x : Except ε α} {e : ε'} :
    x.mapError f = .error e ↔ ∃ e', x = .error e' ∧ f e' = e := by
  cases x <;> simp [Except.mapError]

theorem bind_eq_error_iff {x : Except ε α} {f : α → Except ε β} {e : ε} :
    x >>= f = .error e ↔ x = .error e ∨ ∃ a, x = .ok a ∧ f a = .error e := by
  cases x with
  | error e' =>
    constructor
    · intro h
      exact Or.inl (congrArg _ (Except.error.inj h))
    · rintro (h | ⟨a, h, -⟩)
      · exact congrArg _ (Except.error.inj h)
      · cases h
  | ok a =>
    constructor
    · exact fun h => Or.inr ⟨a, rfl, h⟩
    · rintro (h | ⟨a', h, h'⟩)
      · cases h
      · cases h
        exact h'

theorem exists_error_iff {x : Except ε α} : (∃ e, x = .error e) ↔ ¬∃ a, x = .ok a := by
  cases x <;> simp

theorem mapM_eq_ok_iff {f : α → Except ε β} {xs : List α} {ys : List β} :
    xs.mapM f = .ok ys ↔ List.Forall₂ (fun x y => f x = .ok y) xs ys := by
  induction xs generalizing ys with
  | nil =>
    rw [List.mapM_nil, List.forall₂_nil_left_iff]
    constructor
    · intro h
      cases h
      rfl
    · rintro rfl
      rfl
  | cons x xs ih =>
    rw [List.mapM_cons, bind_eq_ok_iff]
    simp only [bind_eq_ok_iff, ih, List.forall₂_cons_left_iff]
    constructor
    · rintro ⟨y, hy, rest, hrest, h⟩
      cases h
      exact ⟨y, rest, hy, hrest, rfl⟩
    · rintro ⟨y, rest, hy, hrest, rfl⟩
      exact ⟨y, hy, rest, hrest, rfl⟩

/-- Every element has a result exactly when all have. -/
theorem mapM_ok_iff {f : α → Except ε β} {xs : List α} :
    (∃ ys, xs.mapM f = .ok ys) ↔ ∀ x ∈ xs, ∃ y, f x = .ok y := by
  induction xs with
  | nil => exact iff_of_true ⟨[], rfl⟩ (List.forall_mem_nil _)
  | cons x xs ih =>
    rw [List.mapM_cons, List.forall_mem_cons, ← ih]
    simp only [bind_eq_ok_iff]
    constructor
    · rintro ⟨ys, y, hy, rest, hrest, -⟩
      exact ⟨⟨y, hy⟩, rest, hrest⟩
    · rintro ⟨⟨y, hy⟩, rest, hrest⟩
      exact ⟨y :: rest, y, hy, rest, hrest, rfl⟩

/-- The results of the elements that pass a test, in their order. -/
theorem mapM_filter_eq_ok_iff {f : α → Except ε β} {p : α → Bool} {xs : List α} {ys : List β} :
    (xs.filter p).mapM f = .ok ys ↔ (∀ x ∈ xs, p x → ∃ y, f x = .ok y) ∧
      xs.filterMap (fun x => if p x then (f x).toOption else none) = ys := by
  induction xs generalizing ys with
  | nil => simp [pure, Except.pure]
  | cons x xs ih =>
    rw [List.forall_mem_cons]
    by_cases hp : p x
    · rw [List.filter_cons_of_pos hp, List.mapM_cons]
      simp only [bind_eq_ok_iff, ih]
      constructor
      · rintro ⟨y, hy, rest, ⟨hxs, rfl⟩, h⟩
        cases h
        exact ⟨⟨fun _ => ⟨y, hy⟩, hxs⟩, by simp [hp, hy, Except.toOption]⟩
      · rintro ⟨⟨hx, hxs⟩, rfl⟩
        obtain ⟨y, hy⟩ := hx hp
        exact ⟨y, hy, _, ⟨hxs, rfl⟩, by simp [hp, hy, Except.toOption, pure, Except.pure]⟩
    · rw [List.filter_cons_of_neg hp, ih]
      simp [hp]

/-! ## Two computations -/

/-- Two computations fail with the same error, or both succeed and give related values. -/
inductive Parallel (R : α → β → Prop) : Except ε α → Except ε β → Prop where
  | error (e : ε) : Parallel R (.error e) (.error e)
  | ok {a : α} {b : β} (h : R a b) : Parallel R (.ok a) (.ok b)

namespace Parallel

variable {γ δ : Type} {R : α → β → Prop} {S : γ → δ → Prop}

theorem refl {R : α → α → Prop} (hR : ∀ a, R a a) (x : Except ε α) : Parallel R x x := by
  cases x with
  | error e => exact .error e
  | ok a => exact .ok (hR a)

theorem eq {R : α → α → Prop} {x y : Except ε α} (h : Parallel R x y) (hR : ∀ a b, R a b → a = b) :
    x = y := by
  cases h with
  | error => rfl
  | ok h => rw [hR _ _ h]

theorem map {x : Except ε α} {y : Except ε β} {f : α → γ} {g : β → δ} (h : Parallel R x y)
    (hfg : ∀ a b, R a b → S (f a) (g b)) : Parallel S (x.map f) (y.map g) := by
  cases h with
  | error e => exact .error e
  | ok h => exact .ok (hfg _ _ h)

theorem bind {x : Except ε α} {y : Except ε β} {f : α → Except ε γ} {g : β → Except ε δ}
    (h : Parallel R x y) (hfg : ∀ a b, R a b → Parallel S (f a) (g b)) :
    Parallel S (x >>= f) (y >>= g) := by
  cases h with
  | error e => exact .error e
  | ok h => exact hfg _ _ h

/-- The same first part. -/
theorem bind_same {x : Except ε α} {f : α → Except ε γ} {g : α → Except ε δ}
    (hfg : ∀ a, x = .ok a → Parallel S (f a) (g a)) : Parallel S (x >>= f) (x >>= g) := by
  cases x with
  | error e => exact .error e
  | ok a => exact hfg a rfl

/-- The same check before the rest of both computations. -/
theorem guard {p : Prop} [Decidable p] {e : ε} {rest : PUnit → Except ε α}
    {rest' : PUnit → Except ε β} (h : Parallel R (rest ()) (rest' ())) :
    Parallel R (if p then (throw e : Except ε PUnit) >>= rest else rest ())
      (if p then (throw e : Except ε PUnit) >>= rest' else rest' ()) := by
  by_cases hp : p
  · rw [if_pos hp, if_pos hp]
    exact .error e
  · rw [if_neg hp, if_neg hp]
    exact h

theorem mapM {ι : Type} {f : ι → Except ε α} {g : ι → Except ε β} {is : List ι}
    (h : ∀ i ∈ is, Parallel R (f i) (g i)) : Parallel (List.Forall₂ R) (is.mapM f) (is.mapM g) := by
  induction is with
  | nil => exact .ok .nil
  | cons i is ih =>
    obtain ⟨hi, his⟩ := List.forall_mem_cons.1 h
    rw [List.mapM_cons, List.mapM_cons]
    exact hi.bind fun a b hab => (ih his).bind fun as bs hrest => .ok (.cons hab hrest)

end Parallel

end CompoundFile
