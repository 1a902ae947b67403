import Mathlib.Tactic.Common

/-! # Computations that may fail

    `Except` as the result of a function that may raise, return an error or
    throw: how the computations that succeed are made up.

    * `bind_eq_ok` — a sequence succeeds when its parts do.
    * `isOk_bind`, `exists_eq_ok` — the same, when only the success matters.
    * `mapM_*` — a list of conversions, extended at its end.
    * `Related` — two computations that fail alike, or have related results.
-/

namespace Outcome

variable {ε α β : Type}

theorem bind_eq_ok {x : Except ε α} {f : α → Except ε β} {b : β} :
    x >>= f = .ok b ↔ ∃ a, x = .ok a ∧ f a = .ok b := by
  cases x with
  | error e => simp [bind, Except.bind]
  | ok a => simp [bind, Except.bind]

theorem bind_eq_error {x : Except ε α} {f : α → Except ε β} {e : ε} :
    x >>= f = .error e ↔ x = .error e ∨ ∃ a, x = .ok a ∧ f a = .error e := by
  cases x with
  | error e' => simp [bind, Except.bind]
  | ok a => simp [bind, Except.bind]

/-- A computation that is observed not to fail has a value. -/
theorem exists_eq_ok {x : Except ε α} (h : x.isOk = true) : ∃ a, x = .ok a := by
  cases x with
  | error e => cases h
  | ok a => exact ⟨a, rfl⟩

/-- The same, for a value that was observed too. -/
theorem exists_of_any {x : Except ε α} {p : α → Bool} (h : x.toOption.any p = true) :
    ∃ a, x = .ok a ∧ p a = true := by
  cases x with
  | error e => cases h
  | ok a => exact ⟨a, rfl, h⟩

theorem toOption_eq_some {x : Except ε α} {a : α} : x.toOption = some a ↔ x = .ok a := by
  cases x with
  | error e => simp [Except.toOption]
  | ok b => simp [Except.toOption]

theorem isOk_of_eq_ok {x : Except ε α} {a : α} (h : x = .ok a) : x.isOk = true := by
  subst h
  rfl

theorem isOk_bind {x : Except ε α} {f : α → Except ε β} :
    (x >>= f).isOk = true ↔ ∃ a, x = .ok a ∧ (f a).isOk = true := by
  cases x with
  | error e =>
    constructor
    · intro h
      cases h
    · rintro ⟨a, ha, -⟩
      cases ha
  | ok a =>
    constructor
    · exact fun h => ⟨a, rfl, h⟩
    · rintro ⟨b, hb, h⟩
      obtain rfl := Except.ok.inj hb
      exact h

theorem map_eq_ok {x : Except ε α} {f : α → β} {b : β} :
    x.map f = .ok b ↔ ∃ a, x = .ok a ∧ f a = b := by
  cases x with
  | error e => simp [Except.map]
  | ok a => simp [Except.map]

theorem map_eq_error {x : Except ε α} {f : α → β} {e : ε} :
    x.map f = .error e ↔ x = .error e := by
  cases x with
  | error e' => simp [Except.map]
  | ok a => simp [Except.map]

/-- Renaming the errors changes no result. -/
theorem mapError_eq_ok {ε' : Type*} {f : ε → ε'} {x : Except ε α} {a : α} :
    x.mapError f = .ok a ↔ x = .ok a := by
  cases x with
  | error e => simp [Except.mapError]
  | ok b => simp [Except.mapError]

/-! ## Conversions over lists -/

section Lists

variable {f : α → Except ε β} {xs xs' : List α} {ys ys' : List β}

/-- A list converts when every item does. Induction over the items. -/
theorem mapM_eq_ok : xs.mapM f = .ok ys ↔ List.Forall₂ (fun x y => f x = .ok y) xs ys := by
  induction xs generalizing ys with
  | nil =>
    rw [List.mapM_nil]
    constructor
    · intro h
      obtain rfl := Except.ok.inj h
      exact .nil
    · intro h
      cases h with
      | nil => rfl
  | cons x xs ih =>
    rw [List.mapM_cons, bind_eq_ok]
    constructor
    · rintro ⟨y, hy, h⟩
      obtain ⟨rest, hrest, h⟩ := bind_eq_ok.mp h
      obtain rfl := Except.ok.inj h
      exact .cons hy (ih.mp hrest)
    · intro h
      cases h with
      | cons hy hrest => exact ⟨_, hy, bind_eq_ok.mpr ⟨_, ih.mpr hrest, rfl⟩⟩

/-- Converting one more item. -/
theorem mapM_append_singleton {x : α} {y : β} (hxs : xs.mapM f = .ok ys) (hx : f x = .ok y) :
    (xs ++ [x]).mapM f = .ok (ys ++ [y]) := by
  rw [List.mapM_append, hxs]
  simp only [List.mapM_cons, List.mapM_nil, hx, bind, Except.bind, pure, Except.pure]

/-- Converting a further list. -/
theorem mapM_append_ok (hxs : xs.mapM f = .ok ys) (hxs' : xs'.mapM f = .ok ys') :
    (xs ++ xs').mapM f = .ok (ys ++ ys') := by
  rw [List.mapM_append, hxs, hxs']
  rfl

theorem mapM_singleton {x : α} {y : β} (hx : f x = .ok y) : [x].mapM f = .ok [y] := by
  have hnil : ([] : List α).mapM f = .ok [] := rfl
  simpa using mapM_append_singleton hnil hx

end Lists

/-! ## Two computations -/

/-- Both fail with one error, or both succeed with related results. -/
inductive Related (R : α → β → Prop) : Except ε α → Except ε β → Prop
  | error (e : ε) : Related R (.error e) (.error e)
  | ok {a : α} {b : β} (h : R a b) : Related R (.ok a) (.ok b)

namespace Related

variable {γ δ : Type} {R : α → β → Prop} {x : Except ε α} {y : Except ε β}

theorem bind {S : γ → δ → Prop} {f : α → Except ε γ} {g : β → Except ε δ} (h : Related R x y)
    (hnext : ∀ a b, R a b → Related S (f a) (g b)) : Related S (x >>= f) (y >>= g) := by
  cases h with
  | error e => exact .error e
  | ok hab => exact hnext _ _ hab

theorem mapError {ε' : Type} (f : ε → ε') (h : Related R x y) :
    Related R (x.mapError f) (y.mapError f) := by
  cases h with
  | error e => exact .error _
  | ok hab => exact .ok hab

/-- One result is found from the other. -/
theorem exists_of_ok {a : α} (h : Related R x y) (hx : x = .ok a) : ∃ b, y = .ok b ∧ R a b := by
  subst hx
  cases h with
  | ok hab => exact ⟨_, rfl, hab⟩

end Related

end Outcome
