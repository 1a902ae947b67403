import Quantora.Framework.Causal

/-! # Operators on columns and changes of the entries

    An operator may not care in which units its column is given: a change of the
    inputs goes over into a change of the outputs.

    * `Equivariant` and its closure rules: composition, pointwise maps, pairing.
    * The operators of `Column` are equivariant when their functions are. -/

/-- A change of the inputs by `f` is a change of the outputs by `g`. -/
def Equivariant {α β : Type*} (f : α → α) (g : β → β) (F : List α → List β) : Prop :=
  ∀ xs, F (xs.map f) = (F xs).map g

namespace Equivariant

open Column

variable {α β γ δ : Type*} {f : α → α} {g : β → β} {k : γ → γ}

/-! ## Closure rules -/

protected theorem id : Equivariant f f (fun xs => xs) := fun _ => rfl

theorem map {F : List α → List β} (hF : Equivariant f g F) (h : β → γ)
    (hh : ∀ b, h (g b) = k (h b)) : Equivariant f k (fun xs => (F xs).map h) := by
  intro xs
  show (F (xs.map f)).map h = ((F xs).map h).map k
  rw [hF, List.map_map, List.map_map]
  exact List.map_congr_left fun b _ => hh b

theorem comp {F : List β → List γ} {G : List α → List β} (hF : Equivariant g k F)
    (hG : Equivariant f g G) : Equivariant f k (fun xs => F (G xs)) := by
  intro xs
  show F (G (xs.map f)) = (F (G xs)).map k
  rw [hG, hF]

theorem zipWith {F : List α → List β} {G : List α → List γ} {l : δ → δ} (hF : Equivariant f g F)
    (hG : Equivariant f k G) (op : β → γ → δ) (hop : ∀ b c, op (g b) (k c) = l (op b c)) :
    Equivariant f l (fun xs => List.zipWith op (F xs) (G xs)) := by
  intro xs
  show List.zipWith op (F (xs.map f)) (G (xs.map f)) = (List.zipWith op (F xs) (G xs)).map l
  rw [hF, hG, List.zipWith_map, List.map_zipWith]
  congr 1
  funext b c
  exact hop b c

theorem zip {F : List α → List β} {G : List α → List γ} (hF : Equivariant f g F)
    (hG : Equivariant f k G) : Equivariant f (Prod.map g k) (fun xs => (F xs).zip (G xs)) :=
  hF.zipWith hG Prod.mk fun _ _ => rfl

/-! ## Machines -/

/-- A machine whose state changes with its inputs. Induction over the column. -/
theorem scan {σ : Type*} {step : σ → α → σ × β} (u : σ → σ)
    (hstep : ∀ s a, step (u s) (f a) = (u (step s a).1, g (step s a).2)) (s : σ) (xs : List α) :
    Column.scan step (u s) (xs.map f) = (Column.scan step s xs).map g := by
  induction xs generalizing s with
  | nil => rfl
  | cons x xs ih =>
    rw [List.map_cons, Column.scan, Column.scan, hstep, List.map_cons]
    exact congrArg _ (ih _)

protected theorem prefixes {F : List α → β} (hF : ∀ xs, F (xs.map f) = g (F xs)) :
    Equivariant f g (prefixes F) := by
  intro xs
  refine scan (List.map f) (fun seen a => ?_) [] xs
  have hseen : seen.map f ++ [f a] = (seen ++ [a]).map f := by rw [List.map_append]; rfl
  simp only [hseen, hF]

protected theorem shift : Equivariant f (Option.map f) (shift : List α → List (Option α)) :=
  fun xs => scan (Option.map f) (fun _ _ => rfl) none xs

/-! ## Functions of the defined entries -/

theorem reduceOption_map (xs : List (Option α)) :
    (xs.map (Option.map f)).reduceOption = xs.reduceOption.map f := by
  induction xs with
  | nil => rfl
  | cons x xs ih => cases x <;> simp [ih]

theorem scatter_map (xs : List (Option α)) (ys : List (Option β)) :
    scatter (xs.map (Option.map f)) (ys.map (Option.map g))
      = (scatter xs ys).map (Option.map g) := by
  induction xs generalizing ys with
  | nil => rfl
  | cons x xs ih =>
    cases x with
    | none => simp [scatter, ih]
    | some x =>
      cases ys with
      | nil => simpa [scatter] using ih []
      | cons y ys => simp [scatter, ih]

protected theorem onDefined {F : List α → List (Option β)}
    (hF : Equivariant f (Option.map g) F) :
    Equivariant (Option.map f) (Option.map g) (onDefined F) := by
  intro xs
  rw [onDefined, onDefined, reduceOption_map, hF, scatter_map]

end Equivariant
