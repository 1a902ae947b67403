import Mathlib.Algebra.Order.BigOperators.Group.List
import Mathlib.Algebra.Order.Field.Basic
import Mathlib.Tactic.Linarith
import Mathlib.Tactic.Ring
import Quantora.Framework.Causal

/-! # Smoothing

    A level that moves a fixed fraction of the way to each new value.

    * `blend` — one step. It stays between its two values, and two levels that
      see the same value come closer by a fixed factor.
    * `mean` — stays between the bounds of its values.
    * `Column.levels` — the levels of a run; `getElem?_cons_levels` is one step of
      it.
-/

namespace Smoothing

variable {K : Type*} [Field K]

/-- Move the fraction `a` of the way from `level` to `value`. -/
def blend (a value level : K) : K := a * value + (1 - a) * level

@[simp] theorem blend_self (a value : K) : blend a value value = value := by
  unfold blend
  ring

/-- The value that both levels see cancels. -/
theorem blend_sub_blend (a value p q : K) :
    blend a value p - blend a value q = (1 - a) * (p - q) := by
  unfold blend
  ring

section Bounds

variable [LinearOrder K] [IsStrictOrderedRing K] {a value level low high : K}

theorem le_blend (ha : 0 ≤ a) (ha' : a ≤ 1) (hvalue : low ≤ value) (hlevel : low ≤ level) :
    low ≤ blend a value level := by
  have hfirst : a * low ≤ a * value := mul_le_mul_of_nonneg_left hvalue ha
  have hsecond : (1 - a) * low ≤ (1 - a) * level :=
    mul_le_mul_of_nonneg_left hlevel (sub_nonneg.mpr ha')
  calc low = blend a low low := (blend_self a low).symm
    _ ≤ blend a value level := add_le_add hfirst hsecond

theorem blend_le (ha : 0 ≤ a) (ha' : a ≤ 1) (hvalue : value ≤ high) (hlevel : level ≤ high) :
    blend a value level ≤ high := by
  have hfirst : a * value ≤ a * high := mul_le_mul_of_nonneg_left hvalue ha
  have hsecond : (1 - a) * level ≤ (1 - a) * high :=
    mul_le_mul_of_nonneg_left hlevel (sub_nonneg.mpr ha')
  calc blend a value level ≤ blend a high high := add_le_add hfirst hsecond
    _ = high := blend_self a high

variable {values : List K}

theorem le_mean (hne : values ≠ []) (h : ∀ v ∈ values, low ≤ v) :
    low ≤ values.sum / values.length := by
  have hlen : (0 : K) < values.length := Nat.cast_pos.mpr (List.length_pos_iff.mpr hne)
  rw [le_div_iff₀ hlen, mul_comm, ← nsmul_eq_mul]
  exact List.card_nsmul_le_sum values low h

theorem mean_le (hne : values ≠ []) (h : ∀ v ∈ values, v ≤ high) :
    values.sum / values.length ≤ high := by
  have hlen : (0 : K) < values.length := Nat.cast_pos.mpr (List.length_pos_iff.mpr hne)
  rw [div_le_iff₀ hlen, mul_comm, ← nsmul_eq_mul]
  exact List.sum_le_card_nsmul values high h

end Bounds

end Smoothing

/-! ## Runs of levels -/

namespace Column

variable {α σ : Type*}

/-- A machine that puts out its own state. -/
def levels (step : σ → α → σ) : σ → List α → List σ :=
  scan (fun level x => (step level x, step level x))

/-- Each level comes from the one before. Induction over the list. -/
theorem getElem?_cons_levels (step : σ → α → σ) (level : σ) (xs : List α) (n : ℕ) :
    (level :: levels step level xs)[n + 1]?
      = ((level :: levels step level xs)[n]?).bind (fun before => xs[n]?.map (step before)) := by
  induction xs generalizing level n with
  | nil => simp [levels, scan]
  | cons x xs ih =>
    cases n with
    | zero => rfl
    | succ n => exact ih (step level x) n

end Column
