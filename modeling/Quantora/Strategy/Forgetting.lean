import Mathlib.Data.List.MinMax
import Mathlib.Order.Bounds.Basic
import Mathlib.Tactic.NormNum
import Mathlib.Tactic.Positivity
import Quantora.Framework.Smoothing
import Quantora.Strategy.Warmups

/-! # The exponential average forgets its start

    `ema` of `indicators/moving_average.py` over a column that may have NaN. Its
    seed is a plain mean, so two averages of one series that start at different bars
    begin apart, and every bar brings them closer by the same factor.

    * `ema_column` — `ema`, NaN included; `ema_column_of_numbers` is the form
      that the strategies use.
    * `ema_cases` — a defined value is the seed, or one step from the value
      before.
    * `ema_between` — what a defined value has seen.
    * `ema_forgets` — bounds, constant series and the law of the difference. -/

namespace Quantora

namespace indicators

open Smoothing

/-! ## With missing values -/

/-- One pass of the loop: `alpha * value + (1.0 - alpha) * current`. -/
def ema_step (alpha : ℚ) (current value : Cell) : Cell :=
  Cell.add (Cell.mul (some alpha) value) (Cell.mul (some (1 - alpha)) current)

/-- `values.mean()`, which NaN passes through. -/
def cell_mean (values : List Cell) : Cell := (values.mapM id).map mean

/-- `2.0 / (span + 1.0)`. -/
def ema_alpha (span : ℕ) : ℚ := 2 / (span + 1)

/-- `ema` of a series that may have NaN. -/
def ema_column (series : List Cell) (span : ℕ) : List Cell :=
  if series.length < span then List.replicate series.length none
  else
    let seed := cell_mean (series.take span)
    List.replicate (span - 1) none
      ++ seed :: Column.levels (ema_step (ema_alpha span)) seed (series.drop span)

theorem ema_step_eq_some {alpha x : ℚ} {current value : Cell} :
    ema_step alpha current value = some x ↔
      ∃ c v, current = some c ∧ value = some v ∧ x = blend alpha v c := by
  cases current with
  | none => cases value <;> simp [ema_step, Cell.add, Cell.mul]
  | some c =>
    cases value with
    | none => simp [ema_step, Cell.add, Cell.mul]
    | some v => simp [ema_step, Cell.add, Cell.mul, blend, eq_comm]

theorem cell_mean_eq_some {cells : List Cell} {x : ℚ} :
    cell_mean cells = some x ↔ ∃ values, cells = values.map some ∧ x = mean values := by
  rw [cell_mean, Option.map_eq_some_iff]
  exact exists_congr fun values => and_congr mapM_id_eq_some eq_comm

/-- Over numbers it is the average of the strategies. -/
theorem ema_column_of_numbers (values : List ℚ) (span : ℕ) :
    ema_column (values.map some) span = ema values span := by
  -- Induction over the values after the seed.
  have hloop : ∀ (xs : List ℚ) (seed : ℚ),
      Column.levels (ema_step (ema_alpha span)) (some seed) (xs.map some)
        = ema_loop (ema_alpha span) seed xs := by
    intro xs
    induction xs with
    | nil => exact fun _ => rfl
    | cons x xs ih => exact fun seed => congrArg (List.cons _) (ih _)
  rw [ema_column, ema, List.length_map]
  by_cases hlen : values.length < span
  · rw [if_pos hlen, if_pos hlen]
  · have hseed : cell_mean ((values.map some).take span) = some (mean (values.take span)) := by
      rw [cell_mean_eq_some]
      exact ⟨values.take span, by rw [List.map_take], rfl⟩
    rw [if_neg hlen, if_neg hlen]
    show _ ++ cell_mean _ :: Column.levels _ (cell_mean _) _ = _
    rw [hseed, ← List.map_drop, hloop]
    rfl

/-! ## One bar -/

section Bars

variable {series : List Cell} {span : ℕ}

/-- No value before the seed. -/
theorem ema_before_seed {n : ℕ} (hn : n + 1 < span) {x : ℚ} :
    (ema_column series span)[n]? ≠ some (some x) := by
  unfold ema_column
  by_cases hlen : series.length < span
  · rw [if_pos hlen, List.getElem?_replicate]
    split_ifs <;> simp
  · rw [if_neg hlen, List.getElem?_append_left (by rw [List.length_replicate]; omega),
      List.getElem?_replicate]
    split_ifs <;> simp

theorem ema_at_seed (hspan : 1 ≤ span) {n : ℕ} (hn : n + 1 = span) :
    (ema_column series span)[n]?
      = if n < series.length then some (cell_mean (series.take span)) else none := by
  unfold ema_column
  by_cases hlen : series.length < span
  · rw [if_pos hlen, if_neg (by omega), List.getElem?_replicate, if_neg (by omega)]
  · rw [if_neg hlen, if_pos (by omega), List.getElem?_append_right (by simp; omega),
      List.length_replicate, show n - (span - 1) = 0 by omega]
    rfl

/-- After the seed each value comes from the one before. -/
theorem ema_after_seed (hspan : 1 ≤ span) {n : ℕ} (hn : span ≤ n + 1) :
    (ema_column series span)[n + 1]?
      = ((ema_column series span)[n]?).bind
          (fun before => series[n + 1]?.map (ema_step (ema_alpha span) before)) := by
  unfold ema_column
  by_cases hlen : series.length < span
  · simp only [if_pos hlen, List.getElem?_replicate]
    rw [if_neg (by omega), if_neg (by omega)]
    rfl
  · rw [if_neg hlen, List.getElem?_append_right (by simp; omega),
      List.getElem?_append_right (by simp; omega), List.length_replicate,
      show n + 1 - (span - 1) = (n + 1 - span) + 1 by omega,
      show n - (span - 1) = n + 1 - span by omega, Column.getElem?_cons_levels,
      List.getElem?_drop, show span + (n + 1 - span) = n + 1 by omega]

/-- **Step lemma**: a defined value is the mean of the first values, or one step
    from the defined value before it. -/
theorem ema_cases (hspan : 1 ≤ span) {n : ℕ} {x : ℚ} :
    (ema_column series span)[n]? = some (some x) ↔
      (n + 1 = span ∧ n < series.length ∧
        ∃ values, series.take (n + 1) = values.map some ∧ x = mean values) ∨
      ∃ m c v, n = m + 1 ∧ span ≤ m + 1 ∧ (ema_column series span)[m]? = some (some c) ∧
        series[m + 1]? = some (some v) ∧ x = blend (ema_alpha span) v c := by
  rcases Nat.lt_trichotomy (n + 1) span with hn | hn | hn
  · refine iff_of_false (ema_before_seed hn) ?_
    rintro (⟨heq, -⟩ | ⟨m, c, v, rfl, hm, -⟩) <;> omega
  · constructor
    · intro h
      rw [ema_at_seed hspan hn] at h
      split_ifs at h with hlen
      subst hn
      exact .inl ⟨rfl, hlen, cell_mean_eq_some.mp (Option.some.inj h)⟩
    · rintro (⟨-, hlen, hmean⟩ | ⟨m, c, v, rfl, hm, -⟩)
      · subst hn
        rw [ema_at_seed hspan rfl, if_pos hlen, cell_mean_eq_some.mpr hmean]
      · omega
  · obtain ⟨m, rfl⟩ : ∃ m, n = m + 1 := ⟨n - 1, by omega⟩
    have hm : span ≤ m + 1 := Nat.lt_succ_iff.mp hn
    rw [ema_after_seed hspan hm]
    constructor
    · intro h
      obtain ⟨before, hbefore, h⟩ := Option.bind_eq_some_iff.mp h
      obtain ⟨value, hvalue, h⟩ := Option.map_eq_some_iff.mp h
      obtain ⟨c, v, rfl, rfl, rfl⟩ := ema_step_eq_some.mp h
      exact .inr ⟨m, c, v, rfl, hm, hbefore, hvalue, rfl⟩
    · rintro (⟨heq, -⟩ | ⟨m', c, v, heq, -, hc, hv, rfl⟩)
      · omega
      · obtain rfl := Nat.succ_inj.mp heq
        rw [hc, hv]
        exact congrArg some (ema_step_eq_some.mpr ⟨c, v, rfl, rfl, rfl⟩)

theorem ema_alpha_bounds (hspan : 1 ≤ span) : 0 ≤ ema_alpha span ∧ ema_alpha span ≤ 1 := by
  have hpos : (0 : ℚ) < span + 1 := by positivity
  have hone : (1 : ℚ) ≤ span := by exact_mod_cast hspan
  refine ⟨div_nonneg (by norm_num) hpos.le, ?_⟩
  rw [ema_alpha, div_le_one hpos]
  linarith

/-- **Run lemma**: a defined value has seen numbers only, and lies between any
    bounds of them. Induction over the bars from the seed on. -/
theorem ema_between (hspan : 1 ≤ span) {n : ℕ} {x : ℚ}
    (h : (ema_column series span)[n]? = some (some x)) :
    ∃ values : List ℚ, values ≠ [] ∧ series.take (n + 1) = values.map some ∧
      (∀ low, (∀ v ∈ values, low ≤ v) → low ≤ x) ∧
      ∀ high, (∀ v ∈ values, v ≤ high) → x ≤ high := by
  obtain ⟨hzero, hone⟩ := ema_alpha_bounds hspan
  induction n using Nat.strong_induction_on generalizing x with
  | _ n ih =>
    rcases (ema_cases hspan).mp h with
      ⟨-, hlen, values, hvalues, rfl⟩ | ⟨m, c, v, rfl, -, hc, hv, rfl⟩
    · -- The seed is a mean.
      have hne : values ≠ [] := by
        rintro rfl
        have hnil := congrArg List.length hvalues
        rw [List.length_take, List.map_nil, List.length_nil] at hnil
        omega
      exact ⟨values, hne, hvalues, fun low hlow => le_mean hne hlow,
        fun high hhigh => mean_le hne hhigh⟩
    · -- A step stays between its two values.
      obtain ⟨values, hne, hvalues, hlower, hupper⟩ := ih m (Nat.lt_succ_self m) hc
      refine ⟨values ++ [v], by simp, ?_, fun low hlow => ?_, fun high hhigh => ?_⟩
      · rw [List.take_add_one, hvalues, hv, List.map_append]
        rfl
      · rw [List.forall_mem_append] at hlow
        exact le_blend hzero hone (hlow.2 v List.mem_cons_self) (hlower low hlow.1)
      · rw [List.forall_mem_append] at hhigh
        exact blend_le hzero hone (hhigh.2 v List.mem_cons_self) (hupper high hhigh.1)

/-- A constant series keeps its constant from the seed on. -/
theorem ema_of_constant (hspan : 1 ≤ span) (c : ℚ) (count : ℕ) {n : ℕ} {cell : Cell}
    (h : (ema_column (List.replicate count (some c)) span)[n]? = some cell) :
    cell = if n + 1 < span then none else some c := by
  have hnumbers : List.replicate count (some c) = (List.replicate count c).map some := by
    rw [List.map_replicate]
  rw [hnumbers, ema_column_of_numbers] at h
  have hdefined := definedFrom_ema _ hspan n cell h
  cases cell with
  | none => rw [if_pos (by simp at hdefined; omega)]
  | some x =>
    have hn : span - 1 ≤ n := hdefined.mp rfl
    rw [← ema_column_of_numbers] at h
    obtain ⟨values, -, hvalues, hlower, hupper⟩ := ema_between hspan h
    have hconstant : ∀ v ∈ values, v = c := by
      intro v hv
      have hmem : v ∈ (List.replicate count c).take (n + 1) := by
        rw [← List.map_take] at hvalues
        rwa [List.map_injective_iff.mpr (Option.some_injective ℚ) hvalues]
      exact List.eq_of_mem_replicate (List.mem_of_mem_take hmem)
    rw [if_neg (by omega), le_antisymm (hupper c fun v hv => (hconstant v hv).le)
      (hlower c fun v hv => (hconstant v hv).ge)]

end Bars

/-! ## Two starts -/

/-- The average at bar `t` of the series that starts at bar `start`. -/
def ema_from (series : List Cell) (span start t : ℕ) : Cell :=
  if t < start then none else ((ema_column (series.drop start) span)[t - start]?).join

section Starts

variable {series : List Cell} {span start s t : ℕ} {p x : ℚ}

theorem ema_from_eq_some :
    ema_from series span start t = some x ↔
      start ≤ t ∧ (ema_column (series.drop start) span)[t - start]? = some (some x) := by
  unfold ema_from
  by_cases ht : t < start
  · rw [if_pos ht]
    exact iff_of_false (by simp) fun h => absurd h.1 (by omega)
  · rw [if_neg ht, Option.join_eq_some_iff, and_iff_right (not_lt.mp ht)]

/-- Once defined, the next defined value is one step from a defined value, on a
    bar that does not depend on the start. -/
theorem ema_from_succ (hspan : 1 ≤ span) (hs : ema_from series span start s = some p) (hst : s ≤ t)
    (h : ema_from series span start (t + 1) = some x) :
    ∃ c v, ema_from series span start t = some c ∧ series[t + 1]? = some (some v) ∧
      x = blend (ema_alpha span) v c := by
  obtain ⟨hstart, hp⟩ := ema_from_eq_some.mp hs
  obtain ⟨-, hx⟩ := ema_from_eq_some.mp h
  have hseeded : ¬ s - start + 1 < span := fun hlt => ema_before_seed hlt hp
  rcases (ema_cases hspan).mp hx with ⟨hseed, -⟩ | ⟨m, c, v, hm, -, hc, hv, rfl⟩
  · omega
  · obtain rfl : m = t - start := by omega
    refine ⟨c, v, ema_from_eq_some.mpr ⟨hstart.trans hst, hc⟩, ?_, rfl⟩
    rwa [List.getElem?_drop, show start + (t - start + 1) = t + 1 by omega] at hv

/-- **Run lemma**: every bar brings two averages closer by one factor. -/
theorem ema_from_sub (hspan : 1 ≤ span) {start' : ℕ} {q y : ℚ}
    (hp : ema_from series span start s = some p) (hq : ema_from series span start' s = some q)
    (hst : s ≤ t) (hx : ema_from series span start t = some x)
    (hy : ema_from series span start' t = some y) :
    x - y = (1 - ema_alpha span) ^ (t - s) * (p - q) := by
  induction t, hst using Nat.le_induction generalizing x y with
  | base =>
    obtain rfl := Option.some.inj (hx.symm.trans hp)
    obtain rfl := Option.some.inj (hy.symm.trans hq)
    rw [Nat.sub_self, pow_zero, one_mul]
  | succ t hst ih =>
    obtain ⟨c, v, hc, hv, rfl⟩ := ema_from_succ hspan hp hst hx
    obtain ⟨c', v', hc', hv', rfl⟩ := ema_from_succ hspan hq hst hy
    -- Both see the same value.
    obtain rfl : v = v' := Option.some.inj (Option.some.inj (hv.symm.trans hv'))
    rw [blend_sub_blend, ih hc hc', Nat.succ_sub hst, pow_succ']
    ring

end Starts

/-- **Main result**: a defined average lies between the least and the greatest
    input so far, a constant series keeps its constant, and two averages of one
    series that start at different bars differ at bar `t` by a power of
    `1 - 2 / (span + 1)` times what they differed by at bar `s`. -/
theorem ema_forgets {span : ℕ} (hspan : 1 ≤ span) :
    (∀ (series : List Cell) (n : ℕ) (x : ℚ), (ema_column series span)[n]? = some (some x) →
      none ∉ series.take (n + 1) ∧ ∃ low high,
        IsLeast {v | some v ∈ series.take (n + 1)} low ∧
        IsGreatest {v | some v ∈ series.take (n + 1)} high ∧ low ≤ x ∧ x ≤ high) ∧
    (∀ (c : ℚ) (count n : ℕ) (cell : Cell),
      (ema_column (List.replicate count (some c)) span)[n]? = some cell →
      cell = if n + 1 < span then none else some c) ∧
    ∀ (series : List Cell) (start start' s t : ℕ) (p q x y : ℚ),
      ema_from series span start s = some p → ema_from series span start' s = some q → s ≤ t →
      ema_from series span start t = some x → ema_from series span start' t = some y →
      x - y = (1 - 2 / (span + 1)) ^ (t - s) * (p - q) := by
  refine ⟨fun series n x h => ?_, fun c count n cell h => ema_of_constant hspan c count h,
    fun series start start' s t p q x y hp hq hst hx hy => ema_from_sub hspan hp hq hst hx hy⟩
  obtain ⟨values, hne, hvalues, hlower, hupper⟩ := ema_between hspan h
  have hmem : ∀ v, some v ∈ series.take (n + 1) ↔ v ∈ values := by
    intro v
    rw [hvalues, List.mem_map_of_injective (Option.some_injective ℚ)]
  have hlen := List.length_pos_iff.mpr hne
  refine ⟨by rw [hvalues]; simp, values.minimum_of_length_pos hlen,
    values.maximum_of_length_pos hlen, ⟨?_, fun v hv => ?_⟩, ⟨?_, fun v hv => ?_⟩, ?_, ?_⟩
  · exact (hmem _).mpr (List.minimum_of_length_pos_mem hlen)
  · exact List.minimum_of_length_pos_le_of_mem ((hmem v).mp hv) hlen
  · exact (hmem _).mpr (List.maximum_of_length_pos_mem hlen)
  · exact List.le_maximum_of_length_pos_of_mem ((hmem v).mp hv) hlen
  · exact hlower _ fun v hv => List.minimum_of_length_pos_le_of_mem hv hlen
  · exact hupper _ fun v hv => List.le_maximum_of_length_pos_of_mem hv hlen

/-- Five closes, averaged from the first and from the second. -/
def five_closes : List Cell := [some 1, some 2, some 3, some 5, some 9]

theorem ema_forgets_on_five_closes :
    ∃ p q x y : ℚ, ema_from five_closes 3 0 3 = some p ∧ ema_from five_closes 3 1 3 = some q ∧
      ema_from five_closes 3 0 4 = some x ∧ ema_from five_closes 3 1 4 = some y ∧
      x - y = (1 - 2 / ((3 : ℕ) + 1)) ^ (4 - 3) * (p - q) := by
  have hp : ema_from five_closes 3 0 3 = some (7 / 2) := by decide +kernel
  have hq : ema_from five_closes 3 1 3 = some (10 / 3) := by decide +kernel
  have hx : ema_from five_closes 3 0 4 = some (25 / 4) := by decide +kernel
  have hy : ema_from five_closes 3 1 4 = some (37 / 6) := by decide +kernel
  exact ⟨7 / 2, 10 / 3, 25 / 4, 37 / 6, hp, hq, hx, hy,
    (ema_forgets (by decide)).2.2 five_closes 0 1 3 4 _ _ _ _ hp hq (by decide) hx hy⟩

end indicators

end Quantora
