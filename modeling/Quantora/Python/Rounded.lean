import Quantora.Framework.Binary64
import Quantora.Python.Conversions
import Quantora.Python.Floats

/-! # Rounded arithmetic

    What the machine makes of an exact result: the nearest float, or infinity
    when there is none that large. `x * y` in Python is `(x.mul y).rounded`.

    Most of the model is exact. This is for the few places where a last digit
    decides what the program does.

    * `rounded` — the float that is nearest to a result.
    * `rounded_le`, `rounded_neg` — rounding keeps order, and turns round with
      the sign.
    * `le_rounded_iff`, `rounded_le_iff`, `zero_lt_rounded_iff` — when a result is
      not rounded past a float.
    * `truncate` — `int(x)`.
    * `power` — `x ** y`, which raises where a product would be infinite.
    * `machine_runtime` — a runtime whose square root is the rounded one. -/

namespace Quantora

/-- The square root of the machine; the rest is left open. -/
def machine_runtime : Runtime := { (default : Runtime) with sqrt := Binary64.sqrt }

namespace Python

namespace Float

/-- The nearest float. -/
def of_exact (x : ℚ) : Float :=
  if Binary64.Overflows x then .inf (decide (x < 0)) else .num (Binary64.round x)

def rounded : Float → Float
  | .num x => of_exact x
  | .inf negative => .inf negative
  | .nan => .nan

/-- `int(x)`: NaN and the infinities have no integer. -/
def truncate : Float → Except PyError ℤ
  | .num x => .ok (Python.truncate x)
  | .inf _ => .error (.OverflowError "cannot convert float infinity to integer")
  | .nan => .error (.ValueError "cannot convert float NaN to integer")

/-- `f"{x:.2f}"`. -/
def fmt_2f : Float → String
  | .num x => Python.fmt_2f x
  | .inf negative => if negative then "-inf" else "inf"
  | .nan => "nan"

end Float

/-- `x ** y` is rounded past the largest float: it is not below the middle between
    that float and `2^1024`. The root of `y` is taken on the other side. -/
def PowerOverflows (x y : ℚ) : Prop := (2 ^ 1024 - 2 ^ 970) ^ y.den ≤ x ^ y.num.toNat

instance (x y : ℚ) : Decidable (PowerOverflows x y) :=
  inferInstanceAs (Decidable ((2 ^ 1024 - 2 ^ 970 : ℚ) ^ y.den ≤ x ^ y.num.toNat))

def out_of_range : PyError := .OverflowError "(34, 'Numerical result out of range')"

/-- `x ** y`, for an `x` that is not negative and a positive `y`. -/
def power (rt : Runtime) (x y : ℚ) : Except PyError ℚ :=
  if PowerOverflows x y then .error out_of_range else .ok (rt.pow x y)

namespace Float

/-! ## Order -/

section Order

variable {x y : Float}

theorem le_of_exact {x y : ℚ} (h : x ≤ y) : (of_exact x).le (of_exact y) = true := by
  have hround := Binary64.round_mono h
  unfold of_exact
  by_cases hx : Binary64.Overflows x
  · rw [if_pos hx]
    by_cases hneg : x < 0
    · -- Minus infinity is below everything.
      rw [decide_eq_true hneg]
      split_ifs <;> rfl
    · have hnonneg := Binary64.round_nonneg (not_lt.mp hneg)
      have hy : Binary64.Overflows y := by
        unfold Binary64.Overflows at hx ⊢
        rw [abs_of_nonneg hnonneg] at hx
        rw [abs_of_nonneg (hnonneg.trans hround)]
        exact hx.trans hround
      rw [if_pos hy, decide_eq_false hneg, decide_eq_false (not_lt.mpr ((not_lt.mp hneg).trans h))]
      rfl
  · rw [if_neg hx]
    by_cases hy : Binary64.Overflows y
    · rw [if_pos hy]
      -- Only the upper end is left for `y`.
      have hpos : ¬ y < 0 := by
        intro hneg
        apply hx
        unfold Binary64.Overflows at hy ⊢
        have hyneg := Binary64.round_nonpos hneg.le
        rw [abs_of_nonpos hyneg] at hy
        rw [abs_of_nonpos (hround.trans hyneg)]
        exact hy.trans (neg_le_neg hround)
      rw [decide_eq_false hpos]
      rfl
    · rw [if_neg hy]
      exact decide_eq_true hround

/-- **Rounding keeps order.** -/
theorem rounded_le (h : x.le y = true) : x.rounded.le y.rounded = true := by
  cases x with
  | nan => cases h
  | inf s =>
    cases y with
    | nan => cases h
    | inf t => exact h
    | num y =>
      obtain rfl : s = true := h
      show (inf true).le (of_exact y) = true
      unfold of_exact
      split_ifs <;> rfl
  | num x =>
    cases y with
    | nan => cases h
    | inf t =>
      obtain rfl : t = false := by simpa [le] using h
      show (of_exact x).le (inf false) = true
      unfold of_exact
      split_ifs <;> simp [le]
    | num y => exact le_of_exact (of_decide_eq_true h)

@[simp] theorem rounded_zero : (num 0).rounded = .num 0 := by
  show of_exact 0 = .num 0
  rw [of_exact, Binary64.round_zero, if_neg Binary64.not_overflows_zero]

theorem of_exact_neg (x : ℚ) : of_exact (-x) = (of_exact x).neg := by
  have hsame := Binary64.overflows_neg (x := x)
  unfold of_exact
  rw [Binary64.round_neg]
  by_cases hx : Binary64.Overflows x
  · have hne : x ≠ 0 := by
      rintro rfl
      exact Binary64.not_overflows_zero hx
    rw [if_pos (hsame.mpr hx), if_pos hx, sign_neg hne]
    rfl
  · rw [if_neg (mt hsame.mp hx), if_neg hx]
    rfl

theorem rounded_neg (x : Float) : x.neg.rounded = x.rounded.neg := by
  cases x with
  | nan => rfl
  | inf s => rfl
  | num x => exact of_exact_neg x

end Order

/-! ## Where the nearest float is

    The rules of the format, for a positive float. Infinity is where the format
    would go on. -/

section Nearest

variable {x y : Float}

/-- `x` is at most half a step below `y`. -/
def Reaches : Float → Float → Prop
  | .num x, .num y => Binary64.Reaches x (min y (2 ^ 1024))
  | .num x, .inf _ => Binary64.Reaches x (2 ^ 1024)
  | x, y => y.le x = true

/-- `x` is at most half a step above `y`. -/
def Within : Float → Float → Prop
  | .num x, .num y => Binary64.Within x y ∧ ¬ Binary64.Reaches x (2 ^ 1024)
  | x, y => x.le y = true

instance (x y : Float) : Decidable (x.Reaches y) :=
  match x, y with
  | .num x, .num y => inferInstanceAs (Decidable (Binary64.Reaches x (min y (2 ^ 1024))))
  | .num x, .inf _ => inferInstanceAs (Decidable (Binary64.Reaches x (2 ^ 1024)))
  | .num x, .nan => inferInstanceAs (Decidable (Float.nan.le (.num x) = true))
  | .inf s, y => inferInstanceAs (Decidable (y.le (.inf s) = true))
  | .nan, y => inferInstanceAs (Decidable (y.le .nan = true))

instance (x y : Float) : Decidable (x.Within y) :=
  match x, y with
  | .num x, .num y => inferInstanceAs (Decidable (Binary64.Within x y ∧ ¬ _))
  | .num x, .inf t => inferInstanceAs (Decidable ((num x).le (.inf t) = true))
  | .num x, .nan => inferInstanceAs (Decidable ((num x).le .nan = true))
  | .inf s, y => inferInstanceAs (Decidable ((inf s).le y = true))
  | .nan, y => inferInstanceAs (Decidable (Float.nan.le y = true))

theorem of_exact_of_le {x : ℚ} (h : 2 ^ 1024 ≤ Binary64.round x) : of_exact x = .inf false := by
  have hpos : ¬ x < 0 := fun hx =>
    absurd (h.trans (Binary64.round_nonpos hx.le)) (not_le.mpr (by positivity))
  have hover : Binary64.Overflows x := h.trans (le_abs_self _)
  rw [of_exact, if_pos hover, decide_eq_false hpos]

/-- Below the threshold, a finite float or minus infinity. -/
theorem of_exact_of_lt {x : ℚ} (h : Binary64.round x < 2 ^ 1024) :
    of_exact x = .num (Binary64.round x) ∨
      (of_exact x = .inf true ∧ Binary64.round x ≤ -2 ^ 1024) := by
  unfold of_exact
  by_cases hx : Binary64.Overflows x
  · have hdown : Binary64.round x ≤ -2 ^ 1024 := by
      rcases le_abs.mp hx with hup | hdown
      · exact absurd hup (not_le.mpr h)
      · exact le_neg.mpr hdown
    have hneg : x < 0 := by
      by_contra hnonneg
      have hle : (0 : ℚ) ≤ -2 ^ 1024 :=
        (Binary64.round_nonneg (not_lt.mp hnonneg)).trans hdown
      exact absurd hle (not_le.mpr (neg_neg_of_pos (by positivity)))
    rw [if_pos hx, decide_eq_true hneg]
    exact .inr ⟨rfl, hdown⟩
  · rw [if_neg hx]
    exact .inl rfl

/-- **The rounding rule**, from below. -/
theorem le_rounded_iff (hy : (num 0).lt y = true) : y.le x.rounded = true ↔ x.Reaches y := by
  have hmax : (0 : ℚ) < 2 ^ 1024 := by positivity
  cases x with
  | nan => cases y <;> rfl
  | inf s => cases y <;> rfl
  | num x =>
    cases y with
    | nan => cases hy
    | inf t =>
      obtain rfl : t = false := by simpa [lt] using hy
      show (inf false).le (of_exact x) = true ↔ Binary64.Reaches x (2 ^ 1024)
      rw [← Binary64.le_round_iff hmax]
      by_cases hx : 2 ^ 1024 ≤ Binary64.round x
      · rw [of_exact_of_le hx]
        exact iff_of_true rfl hx
      · refine iff_of_false ?_ hx
        rcases of_exact_of_lt (not_le.mp hx) with hvalue | ⟨hvalue, -⟩
        · simp [hvalue, le]
        · simp [hvalue, le]
    | num y =>
      have hy : 0 < y := of_decide_eq_true hy
      show (num y).le (of_exact x) = true ↔ Binary64.Reaches x (min y (2 ^ 1024))
      rw [← Binary64.le_round_iff (lt_min hy hmax), min_le_iff]
      by_cases hx : 2 ^ 1024 ≤ Binary64.round x
      · rw [of_exact_of_le hx]
        exact iff_of_true rfl (.inr hx)
      · rw [or_iff_left hx]
        rcases of_exact_of_lt (not_le.mp hx) with hvalue | ⟨hvalue, hdown⟩
        · rw [hvalue]
          exact decide_eq_true_iff
        · rw [hvalue]
          refine iff_of_false (by simp [le]) (not_le.mpr (hdown.trans_lt ?_))
          exact (neg_neg_of_pos hmax).trans hy

/-- The rule from above. -/
theorem rounded_le_iff (hy : (num 0).lt y = true) : x.rounded.le y = true ↔ x.Within y := by
  have hmax : (0 : ℚ) < 2 ^ 1024 := by positivity
  cases x with
  | nan => cases y <;> rfl
  | inf s => cases y <;> rfl
  | num x =>
    cases y with
    | nan => cases hy
    | inf t =>
      obtain rfl : t = false := by simpa [lt] using hy
      show (of_exact x).le (inf false) = true ↔ (num x).le (inf false) = true
      refine iff_of_true ?_ rfl
      unfold of_exact
      split_ifs <;> simp [le]
    | num y =>
      have hy : 0 < y := of_decide_eq_true hy
      show (of_exact x).le (num y) = true ↔
        Binary64.Within x y ∧ ¬ Binary64.Reaches x (2 ^ 1024)
      rw [← Binary64.le_round_iff hmax, ← Binary64.round_le_iff hy]
      by_cases hx : 2 ^ 1024 ≤ Binary64.round x
      · rw [of_exact_of_le hx]
        exact iff_of_false (by simp [le]) fun h => h.2 hx
      · rw [and_iff_left hx]
        rcases of_exact_of_lt (not_le.mp hx) with hvalue | ⟨hvalue, hdown⟩
        · rw [hvalue]
          exact decide_eq_true_iff
        · rw [hvalue]
          refine iff_of_true rfl (hdown.trans ?_)
          exact ((neg_neg_of_pos hmax).trans hy).le

/-- What does not vanish is more than half of the least positive float. -/
theorem zero_lt_rounded_iff :
    (num 0).lt x.rounded = true ↔ (num (2 ^ (-1075 : ℤ))).lt x = true := by
  cases x with
  | nan => rfl
  | inf s => rfl
  | num x =>
    show (num 0).lt (of_exact x) = true ↔ decide (2 ^ (-1075 : ℤ) < x) = true
    rw [decide_eq_true_iff, ← Binary64.round_pos_iff]
    by_cases hx : 2 ^ 1024 ≤ Binary64.round x
    · rw [of_exact_of_le hx]
      exact iff_of_true rfl ((by positivity : (0 : ℚ) < 2 ^ 1024).trans_le hx)
    · rcases of_exact_of_lt (not_le.mp hx) with hvalue | ⟨hvalue, hdown⟩
      · rw [hvalue]
        exact decide_eq_true_iff
      · rw [hvalue]
        refine iff_of_false (by simp [lt]) (not_lt.mpr (hdown.trans ?_))
        exact (neg_neg_of_pos (by positivity)).le

/-- A float of any size is not rounded down. -/
theorem le_rounded_self {x : ℚ} (hx : 0 < x) (hround : Binary64.round x = x) :
    (num x).le (num x).rounded = true := by
  show (num x).le (of_exact x) = true
  by_cases hmax : 2 ^ 1024 ≤ Binary64.round x
  · rw [of_exact_of_le hmax]
    rfl
  · rcases of_exact_of_lt (not_le.mp hmax) with hvalue | ⟨-, hdown⟩
    · rw [hvalue, hround]
      exact decide_eq_true (le_refl x)
    · rw [hround] at hdown
      exact absurd (hdown.trans_lt (neg_neg_of_pos (by positivity))) hx.not_gt

/-- What is positive after rounding was positive before. -/
theorem zero_lt_of_rounded (h : (num 0).lt x.rounded = true) : (num 0).lt x = true := by
  have hhalf := zero_lt_rounded_iff.mp h
  cases x with
  | nan => exact hhalf
  | inf s => exact hhalf
  | num x =>
    have hpos : (0 : ℚ) < 2 ^ (-1075 : ℤ) := zpow_pos two_pos _
    exact decide_eq_true (hpos.trans (of_decide_eq_true hhalf))

end Nearest

end Float

end Python

end Quantora
