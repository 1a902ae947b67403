import Mathlib.Algebra.BigOperators.Fin
import Mathlib.Algebra.Order.BigOperators.Group.List
import Mathlib.Algebra.Order.Chebyshev
import Mathlib.Tactic.Linarith

/-! # Shares of a whole

    Lists of shares that are not negative and add up to one, and how concentrated
    they are.

    * `sum_sq` — the sum of the squares. It is between one over the number of
      shares and the greatest of them.
    * `sum_take_le_one`, `head_le_sum_take` — the first shares of a list.
    * `lt_sum_mul`, `exists_sum_mul_le` — values and their weighted mean.
-/

namespace Shares

variable {K : Type*} [Field K] [LinearOrder K] [IsStrictOrderedRing K] {shares : List K}

/-- The sum of the squared shares. -/
def sum_sq (shares : List K) : K := (shares.map (fun x => x * x)).sum

/-- Equal shares have the least sum of squares: the inequality of Cauchy and Schwarz
    against a list of ones. -/
theorem one_div_length_le (hsum : shares.sum = 1) : 1 / (shares.length : K) ≤ sum_sq shares := by
  have hlen : (0 : K) < shares.length := by
    refine Nat.cast_pos.mpr (List.length_pos_iff.mpr ?_)
    rintro rfl
    exact zero_ne_one hsum
  have hcauchy := sq_sum_le_card_mul_sum_sq (s := Finset.univ)
    (f := fun i : Fin shares.length => shares[i])
  have hones : ∑ i : Fin shares.length, shares[i] = shares.sum := by simp
  have hsquares : ∑ i : Fin shares.length, shares[i] ^ 2 = sum_sq shares := by
    simp only [sum_sq, sq]
    exact Fin.sum_univ_fun_getElem shares (fun x => x * x)
  rw [hones, hsquares, hsum, Finset.card_univ, Fintype.card_fin, one_pow] at hcauchy
  rwa [div_le_iff₀ hlen, mul_comm]

/-- A share squared is at most the greatest share times it. -/
theorem sum_sq_le {greatest : K} (hsum : shares.sum = 1)
    (h : ∀ x ∈ shares, 0 ≤ x ∧ x ≤ greatest) : sum_sq shares ≤ greatest := by
  calc sum_sq shares ≤ (shares.map (fun x => greatest * x)).sum :=
        List.sum_le_sum fun x hx => mul_le_mul_of_nonneg_right (h x hx).2 (h x hx).1
    _ = greatest * shares.sum := by rw [List.sum_map_mul_left, List.map_id']
    _ = greatest := by rw [hsum, mul_one]

theorem sum_take_le_one (hsum : shares.sum = 1) (h : ∀ x ∈ shares, 0 ≤ x) (k : ℕ) :
    (shares.take k).sum ≤ 1 :=
  hsum ▸ (List.take_sublist k shares).sum_le_sum h

theorem head_le_sum_take {first : K} {rest : List K} (h : ∀ x ∈ rest, 0 ≤ x) {k : ℕ}
    (hk : 0 < k) : first ≤ ((first :: rest).take k).sum := by
  cases k with
  | zero => exact absurd hk (lt_irrefl 0)
  | succ k =>
    rw [List.take_succ_cons, List.sum_cons]
    exact le_add_of_nonneg_right (List.sum_nonneg fun x hx => h x (List.mem_of_mem_take hx))

/-- Values weighted by shares. Some share is positive, so the bound stays strict. -/
theorem lt_sum_mul {ι : Type*} {items : List ι} {share value : ι → K} {low : K}
    (hsum : (items.map share).sum = 1) (hshare : ∀ i ∈ items, 0 ≤ share i)
    (h : ∀ i ∈ items, low < value i) : low < (items.map (fun i => value i * share i)).sum := by
  obtain ⟨i, hi, hpos⟩ : ∃ i ∈ items, 0 < share i := by
    refine List.exists_lt_of_sum_lt (fun _ => (0 : K)) share ?_
    rw [List.map_const', List.sum_replicate, smul_zero, hsum]
    exact one_pos
  calc low = low * (items.map share).sum := by rw [hsum, mul_one]
    _ = (items.map (fun i => low * share i)).sum := (List.sum_map_mul_left items share low).symm
    _ < (items.map (fun i => value i * share i)).sum := by
        apply List.sum_lt_sum
        · exact fun j hj => mul_le_mul_of_nonneg_right (h j hj).le (hshare j hj)
        · exact ⟨i, hi, mul_lt_mul_of_pos_right (h i hi) hpos⟩

/-- Some value is at least their weighted mean. -/
theorem exists_sum_mul_le {ι : Type*} {items : List ι} {share value : ι → K}
    (hsum : (items.map share).sum = 1) (hshare : ∀ i ∈ items, 0 ≤ share i) :
    ∃ i ∈ items, (items.map (fun i => value i * share i)).sum ≤ value i := by
  by_contra hnone
  push Not at hnone
  have hlow : -(items.map (fun i => value i * share i)).sum
      < (items.map (fun i => -value i * share i)).sum :=
    lt_sum_mul hsum hshare (fun i hi => neg_lt_neg (hnone i hi))
  have hneg : (items.map (fun i => -value i * share i)).sum
      = -(items.map (fun i => value i * share i)).sum := by
    rw [← neg_one_mul, ← List.sum_map_mul_left]
    simp only [neg_mul, one_mul]
  rw [hneg] at hlow
  exact lt_irrefl _ hlow

end Shares
