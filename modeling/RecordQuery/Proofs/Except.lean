import Mathlib.Data.List.Forall2

/-!
# Computations that may fail

What it takes for a computation in `Except` to come out well: a sequence of steps does when each
step does, and a map over a list does when every element does (`Except.mapM_eq_ok`). The first
lemmas are simp lemmas, so that `simp only [..] at h` turns a computation into its steps.

Two computations that differ in nothing but their errors have the same `Except.toOption`, which
passes through steps in the same way. `Except.FailsWith` says which errors a computation can end
with: those of a sequence of steps are those of the steps.
-/

namespace Except

variable {ε ε' α β γ : Type}

@[simp]
theorem bind_eq_ok {x : Except ε α} {f : α → Except ε β} {b : β} :
    (x >>= f) = .ok b ↔ ∃ a, x = .ok a ∧ f a = .ok b := by
  cases x <;> simp [Bind.bind, Except.bind]

@[simp]
theorem map_eq_ok {f : α → β} {x : Except ε α} {b : β} :
    f <$> x = .ok b ↔ ∃ a, x = .ok a ∧ f a = b := by
  cases x <;> simp [Functor.map, Except.map]

@[simp]
theorem pure_eq_ok {a b : α} : (pure a : Except ε α) = .ok b ↔ a = b := by
  simp [pure, Except.pure]

@[simp]
theorem throw_eq_ok {e : ε} {b : α} : (throw e : Except ε α) = .ok b ↔ False := by
  simp [throw, throwThe, MonadExceptOf.throw]

theorem mapError_eq_ok {f : ε → ε'} {x : Except ε α} {a : α} :
    x.mapError f = .ok a ↔ x = .ok a := by
  cases x <;> simp [Except.mapError]

theorem ite_throw_eq_ok {p : Prop} [Decidable p] {e : ε} {x : Except ε α} {a : α} :
    (if p then throw e else x) = .ok a ↔ ¬ p ∧ x = .ok a := by
  by_cases h : p
  · simp [h]
  · simp [h]

/-- A map over a list succeeds exactly when it does on every element. -/
theorem mapM_eq_ok {f : α → Except ε β} {xs : List α} {ys : List β} :
    xs.mapM f = .ok ys ↔ List.Forall₂ (fun x y => f x = .ok y) xs ys := by
  induction xs generalizing ys with
  | nil => cases ys <;> simp
  | cons x xs ih =>
    simp only [List.mapM_cons, bind_eq_ok, pure_eq_ok, ih]
    constructor
    · rintro ⟨y, hy, zs, hzs, rfl⟩
      exact .cons hy hzs
    · rintro (_ | ⟨hy, hzs⟩)
      exact ⟨_, hy, _, hzs, rfl⟩

theorem map_succeeds_iff {f : α → β} {x : Except ε α} :
    (∃ b, f <$> x = .ok b) ↔ ∃ a, x = .ok a := by
  simp only [map_eq_ok]
  constructor
  · rintro ⟨_, a, ha, -⟩
    exact ⟨a, ha⟩
  · rintro ⟨a, ha⟩
    exact ⟨f a, a, ha, rfl⟩

theorem mapM_succeeds_iff {f : α → Except ε β} {xs : List α} :
    (∃ ys, xs.mapM f = .ok ys) ↔ ∀ x ∈ xs, ∃ y, f x = .ok y := by
  induction xs with
  | nil => simp
  | cons x xs ih =>
    rw [List.forall_mem_cons, ← ih]
    simp

/-- What is done to every result of a map over a list can be done to the list of results. -/
theorem mapM_map {f : α → Except ε β} {g : β → γ} {xs : List α} :
    xs.mapM (fun x => g <$> f x) = List.map g <$> xs.mapM f := by
  induction xs with
  | nil => rfl
  | cons x xs ih =>
    rw [List.mapM_cons, List.mapM_cons, ih]
    cases f x with
    | error e => rfl
    | ok y => cases xs.mapM f <;> rfl

/-! ## Computations up to their errors -/

theorem toOption_eq_some {x : Except ε α} {a : α} : x.toOption = some a ↔ x = .ok a := by
  cases x <;> simp [Except.toOption]

@[simp]
theorem toOption_pure (a : α) : (pure a : Except ε α).toOption = some a := rfl

@[simp]
theorem toOption_throw (e : ε) : (throw e : Except ε α).toOption = none := rfl

@[simp]
theorem toOption_map (f : α → β) (x : Except ε α) : (f <$> x).toOption = x.toOption.map f := by
  cases x <;> rfl

@[simp]
theorem toOption_bind (x : Except ε α) (f : α → Except ε β) :
    (x >>= f).toOption = x.toOption.bind fun a => (f a).toOption := by
  cases x <;> rfl

theorem toOption_mapM {f g : α → Except ε β} {xs : List α}
    (h : ∀ x ∈ xs, (f x).toOption = (g x).toOption) :
    (xs.mapM f).toOption = (xs.mapM g).toOption := by
  induction xs with
  | nil => rfl
  | cons x xs ih =>
    simp only [List.mapM_cons, toOption_bind, toOption_pure, h x List.mem_cons_self,
      ih fun x hx => h x (List.mem_cons_of_mem _ hx)]

/-! ## Errors -/

/-- If the computation fails then with an error of which `P` is true. -/
def FailsWith (x : Except ε α) (P : ε → Prop) : Prop := ∀ e, x = .error e → P e

variable {P Q : ε → Prop} {x : Except ε α}

theorem FailsWith.mono (h : x.FailsWith P) (hPQ : ∀ e, P e → Q e) : x.FailsWith Q :=
  fun e he => hPQ e (h e he)

theorem failsWith_pure (a : α) : (pure a : Except ε α).FailsWith P := nofun

theorem failsWith_throw {e : ε} (h : P e) : (throw e : Except ε α).FailsWith P := by
  intro e' he
  cases he
  exact h

theorem FailsWith.bind {f : α → Except ε β} (hx : x.FailsWith P)
    (hf : ∀ a, x = .ok a → (f a).FailsWith P) : (x >>= f).FailsWith P := by
  cases x with
  | error e =>
    intro e' he
    cases he
    exact hx e rfl
  | ok a => exact hf a rfl

theorem FailsWith.map {f : α → β} (hx : x.FailsWith P) : (f <$> x).FailsWith P := by
  cases x with
  | error e =>
    intro e' he
    cases he
    exact hx e rfl
  | ok a => nofun

theorem FailsWith.mapError {P : ε' → Prop} {f : ε → ε'} (hx : x.FailsWith fun e => P (f e)) :
    (x.mapError f).FailsWith P := by
  cases x with
  | error e =>
    intro e' he
    cases he
    exact hx e rfl
  | ok a => nofun

/-- A map over a list fails as it does on one of the elements. -/
theorem FailsWith.mapM {f : α → Except ε β} {xs : List α} (h : ∀ x ∈ xs, (f x).FailsWith P) :
    (xs.mapM f).FailsWith P := by
  induction xs with
  | nil => exact failsWith_pure []
  | cons x xs ih =>
    rw [List.mapM_cons]
    apply FailsWith.bind (h x List.mem_cons_self)
    intro y _
    apply FailsWith.bind (ih fun x hx => h x (List.mem_cons_of_mem _ hx))
    intro ys _
    exact failsWith_pure _

end Except
