import Mathlib.Data.List.Perm.Basic
import Mathlib.Algebra.BigOperators.Group.List.Basic

/-! # Projections of a fold

    A fold over events, seen through one view of its state.

    * `foldl_filter` — the events that a view does not see can be left out.
    * `foldl_add` — a view that every event adds to ends at its first value plus
      the sum of what the events add.
    * `Reordered` — the same events, those of one key in the same order. Such a
      list is a permutation (`Reordered.perm`).
-/

namespace Projection

variable {σ τ ε κ M : Type*}

/-- A view that changes with the events it sees, and then as a function of
    itself alone, is the same if it is shown those events only. -/
theorem foldl_filter {step : σ → ε → σ} (view : σ → τ) (sees : ε → Bool)
    (advance : τ → ε → τ)
    (hsees : ∀ s e, sees e = true → view (step s e) = advance (view s) e)
    (hskips : ∀ s e, sees e = false → view (step s e) = view s) (events : List ε) (s : σ) :
    view (events.foldl step s) = view ((events.filter sees).foldl step s) := by
  -- Both folds are the fold of `advance`.
  have hall : ∀ s, view (events.foldl step s) = (events.filter sees).foldl advance (view s) := by
    induction events with
    | nil => intro s; rfl
    | cons e events ih =>
      intro s
      rw [List.foldl_cons, ih]
      cases he : sees e with
      | true => rw [List.filter_cons_of_pos he, List.foldl_cons, hsees s e he]
      | false => rw [List.filter_cons_of_neg (by simp [he]), hskips s e he]
  have hseen : ∀ (seen : List ε) s, (∀ e ∈ seen, sees e = true) →
      view (seen.foldl step s) = seen.foldl advance (view s) := by
    intro seen
    induction seen with
    | nil => intro s _; rfl
    | cons e seen ih =>
      intro s hmem
      rw [List.foldl_cons, List.foldl_cons, ih _ fun d hd => hmem d (List.mem_cons_of_mem e hd),
        hsees s e (hmem e List.mem_cons_self)]
  rw [hall, hseen _ s fun e he => (List.mem_filter.mp he).2]

/-- A view that each event adds to. -/
theorem foldl_add [AddMonoid M] {step : σ → ε → σ} {view : σ → M} {added : ε → M}
    (hstep : ∀ s e, view (step s e) = view s + added e) (events : List ε) (s : σ) :
    view (events.foldl step s) = view s + (events.map added).sum := by
  induction events generalizing s with
  | nil => simp
  | cons e events ih => rw [List.foldl_cons, ih, hstep, List.map_cons, List.sum_cons, add_assoc]

section Reordered

variable [DecidableEq κ]

/-- The same events, with the events of each key in the same order. -/
def Reordered (key : ε → κ) (xs ys : List ε) : Prop :=
  ∀ k, xs.filter (fun e => key e = k) = ys.filter (fun e => key e = k)

theorem Reordered.perm [DecidableEq ε] {key : ε → κ} {xs ys : List ε} (h : Reordered key xs ys) :
    xs.Perm ys := by
  rw [List.perm_iff_count]
  intro e
  have hcount : ∀ zs : List ε, zs.count e = (zs.filter (fun d => key d = key e)).count e := by
    intro zs
    rw [List.count_filter (by simp)]
  rw [hcount xs, hcount ys, h (key e)]

end Reordered

end Projection
