import Mathlib.Algebra.Order.BigOperators.Group.List
import Mathlib.Tactic.Positivity
import Quantora.Framework.Held
import Quantora.Strategy.Indicators

/-! # Warm-ups of the indicators

    From which bar on an indicator is defined. Past its warm-up no indicator
    here is undefined again, so a held position is always compared with a
    defined value.

    * `ema` from its seed, `rolling` over defined values from its first full window.
    * `macd` — the line from `slow - 1`, the histogram from `slow + signal - 2`. -/

namespace Quantora

namespace indicators

open Column

/-! ## Moving averages -/

theorem definedFrom_ema_loop (alpha seed : ℚ) (values : List ℚ) :
    DefinedFrom 0 (ema_loop alpha seed values) := by
  unfold ema_loop
  induction values generalizing seed with
  | nil => intro i x hx; cases hx
  | cons value values ih =>
    intro i x hx
    cases i with
    | zero =>
      rw [← Option.some.inj hx]
      simp
    | succ i => simpa using ih _ i x hx

theorem definedFrom_ema (values : List ℚ) {span : ℕ} (hspan : 1 ≤ span) :
    DefinedFrom (span - 1) (ema values span) := by
  unfold ema
  by_cases hlen : values.length < span
  · rw [if_pos hlen]
    exact DefinedFrom.replicate_none _ _ (by omega)
  · rw [if_neg hlen]
    apply DefinedFrom.replicate_append
    intro i x hx
    cases i with
    | zero =>
      rw [← Option.some.inj hx]
      simp
    | succ i =>
      rw [definedFrom_ema_loop _ _ _ i x hx]
      simp

/-- Past its warm-up the MACD is defined, line and histogram. -/
theorem definedFrom_macd (values : List ℚ) {fast slow signal : ℕ} (hfast : 1 ≤ fast)
    (hslow : fast < slow) (hsignal : 1 ≤ signal) :
    DefinedFrom (slow - 1) (macd values fast slow signal).macd ∧
      DefinedFrom (slow - 1 + (signal - 1)) (macd values fast slow signal).histogram := by
  have hline : DefinedFrom (slow - 1) (macd values fast slow signal).macd := by
    have hboth := (definedFrom_ema values hfast).zipWith (· - ·)
      (definedFrom_ema values (show 1 ≤ slow by omega))
    rwa [show max (fast - 1) (slow - 1) = slow - 1 by omega] at hboth
  have hsignal_line : DefinedFrom (slow - 1 + (signal - 1)) (macd values fast slow signal).signal :=
    hline.scatter (definedFrom_ema _ hsignal) ((causal_ema hsignal).length _)
  have hhistogram := hline.zipWith (· - ·) hsignal_line
  rw [show max (slow - 1) (slow - 1 + (signal - 1)) = slow - 1 + (signal - 1) by omega]
    at hhistogram
  exact ⟨hline, hhistogram⟩

/-! ## Rolling windows -/

/-- The last `window` values at index `i`. -/
def window_at {α : Type} (window : ℕ) (values : List α) (i : ℕ) : List α :=
  (values.take (i + 1)).drop (i + 1 - window)

/-- A rolling statistic of a column without missing values. -/
theorem getElem?_rolling {α : Type} {window : ℕ} {statistic : List α → Cell} {values : List α}
    {i : ℕ} {c : Cell} (h : (rolling window statistic (values.map some))[i]? = some c) :
    c = if i + 1 < window then none else statistic (window_at window values i) := by
  unfold rolling at h
  rw [getElem?_prefixes] at h
  obtain ⟨x, hx, rfl⟩ := Option.map_eq_some_iff.mp h
  have hi : i < values.length := by simpa using (List.getElem?_eq_some_iff.mp hx).1
  have hlen : ((values.map some).take (i + 1)).length = i + 1 := by simp; omega
  rw [hlen]
  by_cases hwarm : i + 1 < window
  · rw [if_pos hwarm, if_pos hwarm]
  · rw [if_neg hwarm, if_neg hwarm, ← List.map_take, ← List.map_drop, mapM_id_map_some]
    rfl

/-- Where a rolling statistic is defined its window is full and has no missing
    value. -/
theorem window_of_rolling {α : Type} {window : ℕ} {statistic : List α → Cell}
    {xs : List (Option α)} {i : ℕ} {c : ℚ}
    (h : (rolling window statistic xs)[i]? = some (some c)) :
    window ≤ i + 1 ∧ ∀ j x, i + 1 - window ≤ j → j ≤ i → xs[j]? = some x → x.isSome := by
  unfold rolling at h
  rw [getElem?_prefixes] at h
  obtain ⟨x, hx, h⟩ := Option.map_eq_some_iff.mp h
  have hi : i < xs.length := (List.getElem?_eq_some_iff.mp hx).1
  have hlen : (xs.take (i + 1)).length = i + 1 := by rw [List.length_take]; omega
  rw [hlen] at h
  by_cases hwarm : i + 1 < window
  · rw [if_pos hwarm] at h
    cases h
  rw [if_neg hwarm] at h
  obtain ⟨ys, hys, -⟩ := Option.bind_eq_some_iff.mp h
  refine ⟨not_lt.mp hwarm, fun j x hj hji hx => ?_⟩
  -- The entry at `j` is in the window, at `j - (i + 1 - window)`.
  have hmem : x ∈ (xs.take (i + 1)).drop (i + 1 - window) := by
    refine List.mem_of_getElem? (i := j - (i + 1 - window)) ?_
    rw [List.getElem?_drop, show i + 1 - window + (j - (i + 1 - window)) = j by omega,
      List.getElem?_take_of_lt (by omega), hx]
  rw [mapM_id_eq_some.mp hys] at hmem
  obtain ⟨y, -, rfl⟩ := List.mem_map.mp hmem
  rfl

/-- A column whose first value is missing costs one more bar. -/
theorem warmup_of_rolling {α : Type} {window : ℕ} {statistic : List α → Cell}
    {xs : List (Option α)} {i : ℕ} {c : ℚ} (hfirst : xs[0]? = some none)
    (h : (rolling window statistic xs)[i]? = some (some c)) : window ≤ i := by
  obtain ⟨hfull, hdefined⟩ := window_of_rolling h
  by_contra hlt
  have hmissing := hdefined 0 none (by omega) (Nat.zero_le i) hfirst
  cases hmissing

/-- Such columns: what is shifted, and what is differenced. -/
theorem shift_first {xs : List Cell} (h : xs ≠ []) : (shift xs)[0]? = some none := by
  cases xs with
  | nil => exact absurd rfl h
  | cons x xs => rfl

theorem diff_first {xs : List Cell} (h : xs ≠ []) : (diff xs)[0]? = some none := by
  cases xs with
  | nil => exact absurd rfl h
  | cons x xs =>
    show some (Cell.sub x none) = some none
    cases x <;> rfl

/-- A correlation of differences has seen as many of them as its window holds. -/
theorem warmup_of_correlation {rt : Runtime} {a b : List Cell} {window i : ℕ} {c : ℚ}
    (ha : a ≠ []) (h : (rolling_correlation rt (diff a) (diff b) window)[i]? = some (some c)) :
    window ≤ i := by
  unfold rolling_correlation at h
  rw [List.getElem?_map] at h
  obtain ⟨quotient, hquotient, hclip⟩ := Option.map_eq_some_iff.mp h
  obtain ⟨covariance, denominator, hcov, -, rfl⟩ := List.getElem?_zipWith_eq_some.mp hquotient
  obtain ⟨x, hx, -⟩ := Option.map_eq_some_iff.mp hclip
  obtain ⟨y, z, rfl, -, -⟩ := Option.map₂_eq_some_iff.mp hx
  unfold rolling_cov at hcov
  by_cases hb : b = []
  · subst hb
    -- Without a second column there are no pairs at all.
    rw [show diff [] = [] from rfl, List.zipWith_nil_right] at hcov
    cases hcov
  · refine warmup_of_rolling (List.getElem?_zipWith_eq_some.mpr
      ⟨none, none, diff_first ha, diff_first hb, rfl⟩) hcov

/-- Over defined values an average is defined from the first full window on. -/
theorem definedFrom_sma (values : List ℚ) (window : ℕ) :
    DefinedFrom (window - 1) (sma (values.map some) window) := by
  intro i c hc
  rw [getElem?_rolling hc]
  by_cases hwarm : i + 1 < window
  · rw [if_pos hwarm]
    simp
    omega
  · rw [if_neg hwarm]
    simp
    omega

theorem mean_nonneg {values : List ℚ} (h : ∀ x ∈ values, 0 ≤ x) : 0 ≤ mean values := by
  unfold mean
  have hsum : 0 ≤ values.sum := List.sum_nonneg h
  positivity

theorem variance_nonneg (values : List ℚ) : 0 ≤ variance values := by
  apply mean_nonneg
  intro x hx
  obtain ⟨y, -, rfl⟩ := List.mem_map.mp hx
  exact mul_self_nonneg _

end indicators

end Quantora
