import Mathlib.Tactic.Ring
import Quantora.Framework.Shares

/-! # Statistics of columns

    Columns are functions of the rows of a table. A weighted column is the sum of
    some columns, each times its weight.

    * `mean`, `scatter` — the mean of a column, and the sum of the products of the
      deviations of two columns. A variance or a covariance is a scatter over a
      count.
    * `mean_weighted`, `scatter_weighted` — both are linear.
    * `scatter_weighted_le` — the scatter of a weighted column with itself is at
      most the weighted scatter of its parts, if the weights are shares of one.
-/

namespace Statistics

variable {K ρ ι : Type*} [Field K]

/-- The mean of a column. -/
def mean (rows : List ρ) (f : ρ → K) : K := (rows.map f).sum / rows.length

/-- The deviation of a row from the mean of the column. -/
def deviation (rows : List ρ) (f : ρ → K) (row : ρ) : K := f row - mean rows f

/-- The products of the deviations of two columns, summed. -/
def scatter (rows : List ρ) (f g : ρ → K) : K :=
  (rows.map (fun row => deviation rows f row * deviation rows g row)).sum

/-- Some columns, each times its weight. -/
def weighted (items : List ι) (weight : ι → K) (f : ι → ρ → K) (row : ρ) : K :=
  (items.map (fun i => f i row * weight i)).sum

section Linear

variable (rows : List ρ) (items : List ι) (weight : ι → K) (f : ι → ρ → K) (g : ρ → K)

/-- Summing the rows of a weighted column. Induction over the columns. -/
theorem sum_weighted (rows : List ρ) :
    (rows.map (weighted items weight f)).sum
      = (items.map (fun i => (rows.map (f i)).sum * weight i)).sum := by
  induction items with
  | nil =>
    show (rows.map (fun _ => (0 : K))).sum = 0
    simp
  | cons i items ih =>
    have hsplit : rows.map (weighted (i :: items) weight f)
        = rows.map (fun row => f i row * weight i + weighted items weight f row) := rfl
    rw [hsplit, List.sum_map_add, ih, List.map_cons, List.sum_cons, List.sum_map_mul_right]

theorem mean_weighted :
    mean rows (weighted items weight f)
      = (items.map (fun i => mean rows (f i) * weight i)).sum := by
  unfold mean
  rw [sum_weighted, div_eq_mul_inv, ← List.sum_map_mul_right]
  congr 1
  apply List.map_congr_left
  intro i _
  ring

/-- The deviation of a weighted column is the weighted deviation. -/
theorem deviation_weighted (row : ρ) :
    deviation rows (weighted items weight f) row
      = weighted items weight (fun i => deviation rows (f i)) row := by
  have hsplit : (items.map (fun i => (f i row - mean rows (f i)) * weight i)).sum
      = (items.map (fun i => f i row * weight i + -1 * (mean rows (f i) * weight i))).sum := by
    congr 1
    apply List.map_congr_left
    intro i _
    ring
  unfold deviation
  rw [mean_weighted]
  unfold weighted
  rw [hsplit, List.sum_map_add, List.sum_map_mul_left]
  ring

/-- **The scatter of a weighted column** with another one. -/
theorem scatter_weighted :
    scatter rows (weighted items weight f) g
      = (items.map (fun i => scatter rows (f i) g * weight i)).sum := by
  unfold scatter
  have hrows : ∀ row, deviation rows (weighted items weight f) row * deviation rows g row
      = weighted items weight (fun i row => deviation rows (f i) row * deviation rows g row)
          row := by
    intro row
    rw [deviation_weighted]
    unfold weighted
    rw [← List.sum_map_mul_right]
    congr 1
    apply List.map_congr_left
    intro i _
    ring
  simp only [hrows]
  exact sum_weighted items weight _ rows

end Linear

/-! ## Convexity -/

section Ordered

variable [LinearOrder K] [IsStrictOrderedRing K] {rows : List ρ} {items : List ι} {weight : ι → K}
  {f : ι → ρ → K}

/-- The square of a weighted mean is at most the weighted mean of the squares: the
    weighted squares of the distances from the mean are not negative. -/
theorem sq_weighted_le {value : ι → K} (hweight : ∀ i ∈ items, 0 ≤ weight i)
    (hsum : (items.map weight).sum = 1) :
    (items.map (fun i => value i * weight i)).sum * (items.map (fun i => value i * weight i)).sum
      ≤ (items.map (fun i => value i * value i * weight i)).sum := by
  generalize hm : (items.map (fun i => value i * weight i)).sum = m
  have hnonneg : 0 ≤ (items.map (fun i => (value i - m) * (value i - m) * weight i)).sum := by
    apply List.sum_nonneg
    intro x hx
    obtain ⟨i, hi, rfl⟩ := List.mem_map.mp hx
    exact mul_nonneg (mul_self_nonneg _) (hweight i hi)
  have hexpand : (items.map (fun i => (value i - m) * (value i - m) * weight i)).sum
      = (items.map (fun i => value i * value i * weight i)).sum - m * m := by
    calc (items.map (fun i => (value i - m) * (value i - m) * weight i)).sum
        = (items.map (fun i => value i * value i * weight i
            + (-(2 * m)) * (value i * weight i) + m * m * weight i)).sum := by
          congr 1
          apply List.map_congr_left
          intro i _
          ring
      _ = (items.map (fun i => value i * value i * weight i)).sum + -(2 * m) * m
            + m * m * 1 := by
          rw [List.sum_map_add, List.sum_map_add, List.sum_map_mul_left, List.sum_map_mul_left,
            hm, hsum]
      _ = (items.map (fun i => value i * value i * weight i)).sum - m * m := by ring
  rw [hexpand] at hnonneg
  exact sub_nonneg.mp hnonneg

/-- **Diversification**: mixing columns scatters no more than they do on average. -/
theorem scatter_weighted_le (hweight : ∀ i ∈ items, 0 ≤ weight i)
    (hsum : (items.map weight).sum = 1) :
    scatter rows (weighted items weight f) (weighted items weight f)
      ≤ (items.map (fun i => scatter rows (f i) (f i) * weight i)).sum := by
  unfold scatter
  calc (rows.map (fun row => deviation rows (weighted items weight f) row
          * deviation rows (weighted items weight f) row)).sum
      ≤ (rows.map (weighted items weight
          (fun i row => deviation rows (f i) row * deviation rows (f i) row))).sum := by
        apply List.sum_le_sum
        intro row _
        rw [deviation_weighted]
        exact sq_weighted_le hweight hsum
    _ = _ := sum_weighted items weight _ rows

theorem scatter_self_nonneg (g : ρ → K) : 0 ≤ scatter rows g g := by
  apply List.sum_nonneg
  intro x hx
  obtain ⟨row, -, rfl⟩ := List.mem_map.mp hx
  exact mul_self_nonneg _

/-- One of the columns scatters at least as much as the mix. -/
theorem exists_scatter_le (hweight : ∀ i ∈ items, 0 ≤ weight i)
    (hsum : (items.map weight).sum = 1) :
    ∃ i ∈ items, scatter rows (weighted items weight f) (weighted items weight f)
      ≤ scatter rows (f i) (f i) := by
  obtain ⟨i, hi, hle⟩ : ∃ i ∈ items,
      (items.map (fun i => scatter rows (f i) (f i) * weight i)).sum
        ≤ scatter rows (f i) (f i) := Shares.exists_sum_mul_le hsum hweight
  exact ⟨i, hi, (scatter_weighted_le hweight hsum).trans hle⟩

end Ordered

end Statistics
