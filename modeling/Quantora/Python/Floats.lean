import Mathlib.Algebra.Order.Ring.Rat
import Mathlib.Order.Bounds.Basic
import Quantora.Python.Runtime

/-! # Arithmetic of any float

    The operations that may leave the finite floats: a column divided by a
    column with a zero, and what is computed from the result. Finite floats are
    exact and a zero counts as positive.

    * `add`, `sub`, `mul`, `div`, `sqrt` — NaN is passed on, `x / 0` is infinite
      or NaN.
    * `lt`, `le` — false when a side is NaN.
    * `sum`, `mean`, `minimum`, `std` — over a column without missing values.
-/

namespace Quantora

namespace Python

namespace Float

/-! ## Operations -/

def neg : Float → Float
  | .nan => .nan
  | .inf negative => .inf (!negative)
  | .num x => .num (-x)

def add : Float → Float → Float
  | .num x, .num y => .num (x + y)
  | .inf s, .inf t => if s = t then .inf s else .nan
  | .inf s, .num _ => .inf s
  | .num _, .inf s => .inf s
  | .nan, _ => .nan
  | _, .nan => .nan

def sub (a b : Float) : Float := a.add b.neg

def mul : Float → Float → Float
  | .num x, .num y => .num (x * y)
  | .inf s, .inf t => .inf (s != t)
  | .inf s, .num x => if x = 0 then .nan else .inf (s != decide (x < 0))
  | .num x, .inf s => if x = 0 then .nan else .inf (s != decide (x < 0))
  | .nan, _ => .nan
  | _, .nan => .nan

def div : Float → Float → Float
  | .num x, .num y =>
    if y = 0 then if x = 0 then .nan else .inf (decide (x < 0)) else .num (x / y)
  | .inf _, .inf _ => .nan
  | .inf s, .num y => .inf (s != decide (y < 0))
  | .num _, .inf _ => .num 0
  | .nan, _ => .nan
  | _, .nan => .nan

/-- The square root of a sum of squares. -/
def sqrt (rt : Runtime) : Float → Float
  | .num x => .num (rt.sqrt x)
  | .inf negative => if negative then .nan else .inf false
  | .nan => .nan

def lt : Float → Float → Bool
  | .num x, .num y => x < y
  | .inf s, .inf t => s && !t
  | .inf s, .num _ => s
  | .num _, .inf s => !s
  | .nan, _ => false
  | _, .nan => false

def le : Float → Float → Bool
  | .num x, .num y => x ≤ y
  | .inf s, .inf t => s || !t
  | .inf s, .num _ => s
  | .num _, .inf s => !s
  | .nan, _ => false
  | _, .nan => false

/-- `np.isfinite`. -/
def is_finite : Float → Bool
  | .num _ => true
  | _ => false

/-- `max(x, y)`: the first one unless the second is greater. -/
def max (x y : Float) : Float := if x.lt y then y else x

/-- `abs(x)`. -/
def abs : Float → Float
  | .nan => .nan
  | .inf _ => .inf false
  | .num x => .num |x|

/-- `x.clip(upper=0.0)`. -/
def clip_upper_zero : Float → Float
  | .nan => .nan
  | .inf negative => if negative then .inf true else .num 0
  | .num x => .num (min x 0)

/-! ## Columns -/

def sum (xs : List Float) : Float := xs.foldl add (.num 0)

/-- NaN for an empty column. -/
def mean (xs : List Float) : Float := (sum xs).div (.num xs.length)

/-- The least value that is not NaN; NaN if there is none. -/
def minimum (xs : List Float) : Float :=
  xs.foldl (fun least x => if least = .nan ∨ x.lt least then x else least) .nan

/-- Sample variance (`ddof=1`), of at least two values. -/
def variance (xs : List Float) : Float :=
  (sum (xs.map fun x => ((mean xs).sub x).mul ((mean xs).sub x))).div (.num (xs.length - 1))

/-- `xs.std(ddof=1)`. -/
def std (rt : Runtime) (xs : List Float) : Float := (variance xs).sqrt rt

/-! ## Columns of numbers -/

theorem sum_map_num (xs : List ℚ) : sum (xs.map num) = num xs.sum := by
  have hfold : ∀ acc : ℚ, (xs.map num).foldl add (num acc) = num (acc + xs.sum) := by
    induction xs with
    | nil => simp
    | cons x xs ih =>
      intro acc
      rw [List.map_cons, List.foldl_cons, List.sum_cons, ← add_assoc]
      exact ih (acc + x)
  rw [sum, hfold, zero_add]

theorem mean_map_num {xs : List ℚ} (hne : xs ≠ []) :
    mean (xs.map num) = num (xs.sum / xs.length) := by
  have hlength : (xs.length : ℚ) ≠ 0 := by
    exact_mod_cast fun hlen => hne (List.length_eq_zero_iff.mp hlen)
  rw [mean, sum_map_num, List.length_map, div, if_neg hlength]

/-- The squares of the distances from the mean, over one less than their number. -/
theorem std_map_num (rt : Runtime) {xs : List ℚ} (hlength : 2 ≤ xs.length) :
    std rt (xs.map num) = num (rt.sqrt ((xs.map (fun x =>
      (x - xs.sum / xs.length) * (x - xs.sum / xs.length))).sum / (xs.length - 1))) := by
  have hne : xs ≠ [] := by
    intro hnil
    rw [hnil] at hlength
    exact absurd hlength (by decide)
  have hdenominator : (xs.length : ℚ) - 1 ≠ 0 := by
    intro hzero
    have hone : xs.length = 1 := by exact_mod_cast sub_eq_zero.mp hzero
    omega
  have hsquares : (xs.map num).map (fun x => ((mean (xs.map num)).sub x).mul
        ((mean (xs.map num)).sub x))
      = (xs.map (fun x => (x - xs.sum / xs.length) * (x - xs.sum / xs.length))).map num := by
    rw [mean_map_num hne, List.map_map, List.map_map]
    apply List.map_congr_left
    intro x _
    show num ((xs.sum / xs.length + -x) * (xs.sum / xs.length + -x)) = num _
    rw [← sub_eq_add_neg, ← neg_sub x, neg_mul_neg]
  rw [std, variance, hsquares, sum_map_num, List.length_map, div, if_neg hdenominator]
  rfl

/-! ## Finite floats

    What is computed from finite floats is finite, as long as nothing is divided
    by zero. -/

section Finite

variable {rt : Runtime} {x y : Float} {xs : List Float}

theorem is_finite_iff : x.is_finite = true ↔ ∃ value, x = .num value := by
  cases x with
  | nan => simp [is_finite]
  | inf negative => simp [is_finite]
  | num value => simp [is_finite]

theorem is_finite_add :
    (x.add y).is_finite = true ↔ x.is_finite = true ∧ y.is_finite = true := by
  cases x <;> cases y <;> simp only [add, is_finite, Bool.false_eq_true, and_self, and_false,
    false_and]
  -- Two infinities are left; whether or not they cancel, nothing finite results.
  split_ifs <;> simp

@[simp] theorem is_finite_neg : x.neg.is_finite = x.is_finite := by
  cases x <;> rfl

theorem is_finite_sub :
    (x.sub y).is_finite = true ↔ x.is_finite = true ∧ y.is_finite = true := by
  rw [sub, is_finite_add, is_finite_neg]

theorem is_finite_mul :
    (x.mul y).is_finite = true ↔ x.is_finite = true ∧ y.is_finite = true := by
  cases x <;> cases y <;> simp only [mul, is_finite, Bool.false_eq_true, and_self, and_false,
    false_and]
  -- Infinity times zero is NaN, and otherwise infinite.
  all_goals split_ifs <;> simp

theorem is_finite_div {b : ℚ} (hb : b ≠ 0) :
    (x.div (.num b)).is_finite = true ↔ x.is_finite = true := by
  cases x with
  | nan => rfl
  | inf negative => rfl
  | num a =>
    show (if b = 0 then _ else num (a / b)).is_finite = true ↔ _
    rw [if_neg hb]
    rfl

theorem is_finite_sqrt : (x.sqrt rt).is_finite = true ↔ x.is_finite = true := by
  cases x with
  | nan => rfl
  | inf negative => cases negative <;> rfl
  | num a => rfl

theorem is_finite_clip_upper_zero (hx : x.is_finite = true) :
    x.clip_upper_zero.is_finite = true := by
  obtain ⟨a, rfl⟩ := is_finite_iff.mp hx
  rfl

/-- Induction over the column; the accumulator is what came before. -/
theorem is_finite_sum : (sum xs).is_finite = true ↔ ∀ x ∈ xs, x.is_finite = true := by
  have hfold : ∀ acc : Float, (xs.foldl add acc).is_finite = true ↔
      acc.is_finite = true ∧ ∀ x ∈ xs, x.is_finite = true := by
    induction xs with
    | nil => simp
    | cons x xs ih =>
      intro acc
      rw [List.foldl_cons, ih, is_finite_add, List.forall_mem_cons, and_assoc]
  rw [sum, hfold]
  exact and_iff_right rfl

theorem is_finite_mean (hne : xs ≠ []) :
    (mean xs).is_finite = true ↔ ∀ x ∈ xs, x.is_finite = true := by
  have hlength : (xs.length : ℚ) ≠ 0 := by
    exact_mod_cast fun hlen => hne (List.length_eq_zero_iff.mp hlen)
  rw [mean, is_finite_div hlength, is_finite_sum]

/-- One value that is not finite makes every deviation from the mean undefined. -/
theorem is_finite_std (hlength : 2 ≤ xs.length) :
    (std rt xs).is_finite = true ↔ ∀ x ∈ xs, x.is_finite = true := by
  have hne : xs ≠ [] := by
    rintro rfl
    exact absurd hlength (by simp)
  have hdenominator : (xs.length : ℚ) - 1 ≠ 0 := by
    intro hzero
    have hone : xs.length = 1 := by exact_mod_cast sub_eq_zero.mp hzero
    omega
  rw [std, is_finite_sqrt, variance, is_finite_div hdenominator, is_finite_sum,
    List.forall_mem_map]
  simp only [is_finite_mul, is_finite_sub, and_self, is_finite_mean hne]
  exact ⟨fun h x hx => (h x hx).2, fun h x hx => ⟨h, h x hx⟩⟩

/-- The first value replaces NaN, and a finite value is only replaced by a
    finite one. -/
theorem is_finite_minimum (h : ∀ x ∈ xs, x.is_finite = true) (hne : xs ≠ []) :
    (minimum xs).is_finite = true := by
  have hfold : ∀ least : Float, least.is_finite = true →
      (xs.foldl (fun least x => if least = .nan ∨ x.lt least then x else least) least).is_finite
        = true := by
    clear hne
    induction xs with
    | nil => exact fun least hleast => hleast
    | cons x xs ih =>
      obtain ⟨hx, hxs⟩ := List.forall_mem_cons.mp h
      intro least hleast
      apply ih hxs
      show (if least = .nan ∨ x.lt least then x else least).is_finite = true
      split
      · exact hx
      · exact hleast
  cases xs with
  | nil => exact absurd rfl hne
  | cons x xs =>
    have hstep := hfold x (h x List.mem_cons_self)
    rw [List.foldl_cons, ite_self] at hstep
    unfold minimum
    rwa [List.foldl_cons, if_pos (Or.inl rfl)]

/-- Of numbers, the least one. -/
theorem exists_minimum {values : List ℚ} (hne : values ≠ []) :
    ∃ m, minimum (values.map num) = num m ∧ IsLeast {value | value ∈ values} m := by
  -- Induction over the column; the least value so far is generalised.
  have hfold : ∀ least : ℚ, ∃ m,
      (values.map num).foldl (fun least x => if least = .nan ∨ x.lt least then x else least)
        (num least) = num m ∧ IsLeast {value | value = least ∨ value ∈ values} m := by
    clear hne
    induction values with
    | nil =>
      intro least
      refine ⟨least, rfl, .inl rfl, ?_⟩
      rintro value (rfl | hvalue)
      · exact le_refl value
      · cases hvalue
    | cons x values ih =>
      intro least
      obtain ⟨m, hm, hmem, hlower⟩ := ih (min x least)
      have hstep : (if num least = .nan ∨ (num x).lt (num least) then num x else num least)
          = num (min x least) := by
        by_cases hx : x < least
        · rw [if_pos (.inr (decide_eq_true hx)), min_eq_left hx.le]
        · rw [if_neg (by simp [lt, hx]), min_eq_right (not_lt.mp hx)]
      refine ⟨m, ?_, ?_, ?_⟩
      · rw [List.map_cons, List.foldl_cons, hstep]
        exact hm
      · rcases hmem with hm | hmem
        · rcases min_choice x least with hmin | hmin
          · exact .inr (by rw [hm, hmin]; exact List.mem_cons_self)
          · exact .inl (hm.trans hmin)
        · exact .inr (List.mem_cons_of_mem _ hmem)
      · have hleast := hlower (.inl rfl)
        rintro value (rfl | hvalue)
        · exact hleast.trans (min_le_right _ _)
        · rcases List.mem_cons.mp hvalue with rfl | hvalue
          · exact hleast.trans (min_le_left _ _)
          · exact hlower (.inr hvalue)
  cases values with
  | nil => exact absurd rfl hne
  | cons x values =>
    obtain ⟨m, hm, hleast⟩ := hfold x
    refine ⟨m, ?_, ?_⟩
    · rw [← hm, minimum, List.map_cons, List.foldl_cons, List.foldl_cons, if_pos (.inl rfl),
        ite_self]
    · have hset : {value | value = x ∨ value ∈ x :: values} = {value | value ∈ x :: values} :=
        Set.ext fun value => or_iff_right_of_imp fun h => h ▸ List.mem_cons_self
      rwa [hset] at hleast

theorem sub_self_of_finite (hx : x.is_finite = true) : x.sub x = .num 0 := by
  obtain ⟨a, rfl⟩ := is_finite_iff.mp hx
  show num (a + -a) = num 0
  rw [add_neg_cancel]

end Finite

/-! ## Order -/

section Order

variable {x y : Float}

theorem num_lt_num {a b : ℚ} : (num a).lt (num b) = true ↔ a < b := decide_eq_true_iff

theorem num_le_num {a b : ℚ} : (num a).le (num b) = true ↔ a ≤ b := decide_eq_true_iff

/-- Numbers and infinities are ordered; only NaN is not. -/
theorem le_iff_not_lt (hx : x ≠ .nan) (hy : y ≠ .nan) : y.le x = true ↔ x.lt y = false := by
  cases x with
  | nan => exact absurd rfl hx
  | inf s =>
    cases y with
    | nan => exact absurd rfl hy
    | inf t => cases s <;> cases t <;> decide
    | num y => simp [lt, le]
  | num x =>
    cases y with
    | nan => exact absurd rfl hy
    | inf t => simp [lt, le]
    | num y => simp [lt, le]

theorem ne_nan_of_le (h : x.le y = true) : x ≠ .nan ∧ y ≠ .nan := by
  constructor
  · rintro rfl
    cases h
  · rintro rfl
    cases x <;> cases h

theorem not_lt_of_le (h : y.le x = true) : x.lt y = false :=
  (le_iff_not_lt (ne_nan_of_le h).2 (ne_nan_of_le h).1).mp h

theorem le_of_not_lt (hx : x ≠ .nan) (hy : y ≠ .nan) (h : x.lt y = false) : y.le x = true :=
  (le_iff_not_lt hx hy).mpr h

theorem le_antisymm (hxy : x.le y = true) (hyx : y.le x = true) : x = y := by
  cases x with
  | nan => cases hxy
  | inf s =>
    cases y with
    | nan => cases hxy
    | inf t => cases s <;> cases t <;> simp_all [le]
    | num y =>
      obtain rfl : s = true := hxy
      cases hyx
  | num x =>
    cases y with
    | nan => cases hxy
    | inf t =>
      obtain rfl : t = true := hyx
      cases hxy
    | num y =>
      have hle : x ≤ y := of_decide_eq_true hxy
      exact congrArg num (hle.antisymm (of_decide_eq_true hyx))

theorem lt_asymm (h : x.lt y = true) : y.lt x = false := by
  cases x with
  | nan => cases h
  | inf s =>
    cases y with
    | nan => cases h
    | inf t => cases s <;> cases t <;> simp_all [lt]
    | num y =>
      obtain rfl : s = true := h
      rfl
  | num x =>
    cases y with
    | nan => cases h
    | inf t =>
      obtain rfl : t = false := by simpa [lt] using h
      rfl
    | num y =>
      have hlt : x < y := of_decide_eq_true h
      exact decide_eq_false hlt.not_gt

theorem lt_self (x : Float) : x.lt x = false := by
  cases x with
  | nan => rfl
  | inf s => cases s <;> rfl
  | num x => simp [lt]

theorem zero_lt_of_le (hx : (num 0).lt x = true) (h : x.le y = true) : (num 0).lt y = true := by
  cases x with
  | nan => cases h
  | inf s =>
    obtain rfl : s = false := by simpa [lt] using hx
    cases y with
    | nan => cases h
    | inf t => exact h
    | num y => cases h
  | num x =>
    cases y with
    | nan => cases h
    | inf t => exact h
    | num y => exact decide_eq_true ((of_decide_eq_true hx).trans_le (of_decide_eq_true h))

theorem zero_lt_iff : (num 0).lt x = true ↔ x ≠ .nan ∧ x.le (.num 0) = false := by
  cases x with
  | nan => simp [lt]
  | inf negative => simp [lt, le]
  | num x => simp [lt, le]

theorem zero_le_iff : (num 0).le x = true ↔ x ≠ .nan ∧ x.lt (.num 0) = false := by
  cases x with
  | nan => simp [le]
  | inf negative => simp [lt, le]
  | num x => simp [lt, le]

theorem le_trans {z : Float} (hxy : x.le y = true) (hyz : y.le z = true) : x.le z = true := by
  cases y with
  | nan => cases x <;> cases hxy
  | inf s =>
    cases s with
    | true =>
      obtain rfl : x = .inf true := by cases x <;> simp_all [le]
      exact hyz
    | false =>
      obtain rfl : z = .inf false := by cases z <;> simp_all [le]
      exact hxy
  | num y =>
    cases x with
    | nan => cases hxy
    | inf s =>
      obtain rfl : s = true := hxy
      cases z <;> first | rfl | cases hyz
    | num x =>
      cases z with
      | nan => cases hyz
      | inf t => exact hyz
      | num z => exact decide_eq_true ((of_decide_eq_true hxy).trans (of_decide_eq_true hyz))

/-- Not NaN, not minus infinity, and below a number. -/
theorem exists_num_of_le {b c : ℚ} (hlow : (num b).le x = true) (hup : x.le (num c) = true) :
    ∃ a, x = .num a ∧ b ≤ a ∧ a ≤ c := by
  cases x with
  | nan => cases hlow
  | inf s =>
    obtain rfl : s = true := hup
    cases hlow
  | num a => exact ⟨a, rfl, of_decide_eq_true hlow, of_decide_eq_true hup⟩

theorem num_add_le {a b : ℚ} (hab : a ≤ b) (h : x.le y = true) :
    ((num a).add x).le ((num b).add y) = true := by
  cases x with
  | nan => cases h
  | inf s =>
    cases y with
    | nan => cases h
    | inf t => exact h
    | num y => exact h
  | num x =>
    cases y with
    | nan => cases h
    | inf t => exact h
    | num y => exact decide_eq_true (add_le_add hab (of_decide_eq_true h))

theorem num_div_num {a b : ℚ} (hb : b ≠ 0) : (num a).div (.num b) = .num (a / b) := by
  rw [div, if_neg hb]

theorem div_le_div {r : ℚ} (hr : 0 < r) (h : x.le y = true) :
    (x.div (.num r)).le (y.div (.num r)) = true := by
  have hinf : ∀ s, (inf s).div (.num r) = .inf s := fun s => by
    simp [div, hr.not_gt]
  have hnum : ∀ z : ℚ, (num z).div (.num r) = .num (z / r) := fun z => num_div_num hr.ne'
  cases x with
  | nan => cases h
  | inf s =>
    rw [hinf]
    cases y with
    | nan => cases h
    | inf t =>
      rw [hinf]
      exact h
    | num y =>
      rw [hnum]
      exact h
  | num x =>
    rw [hnum]
    cases y with
    | nan => cases h
    | inf t =>
      rw [hinf]
      exact h
    | num y =>
      rw [hnum]
      exact decide_eq_true (div_le_div_of_nonneg_right (of_decide_eq_true h) hr.le)

theorem le_max_left {a : ℚ} : (num a).le ((num a).max x) = true := by
  unfold max
  cases hlt : (num a).lt x with
  | true =>
    cases x with
    | nan => cases hlt
    | inf t => exact hlt
    | num x => exact decide_eq_true (of_decide_eq_true hlt : a < x).le
  | false => exact decide_eq_true (le_refl a)

theorem max_le_max {a : ℚ} (h : x.le y = true) :
    ((num a).max x).le ((num a).max y) = true := by
  cases hlt : (num a).lt x with
  | false =>
    rw [show (num a).max x = .num a by rw [max, hlt]; rfl]
    exact le_max_left
  | true =>
    rw [show (num a).max x = x by rw [max, hlt]; rfl]
    have hay : (num a).max y = y := by
      have hay : (num a).lt y = true := by
        cases hay : (num a).lt y with
        | true => rfl
        | false =>
          have hya := le_trans h (le_of_not_lt (by simp) (ne_nan_of_le h).2 hay)
          rw [not_lt_of_le hya] at hlt
          cases hlt
      rw [max, hay]
      rfl
    rwa [hay]

theorem one_mul (x : Float) : (num 1).mul x = x := by
  cases x with
  | nan => rfl
  | inf s => simp [mul, zero_le_one.not_gt]
  | num x => simp [mul]

theorem zero_le_mul (hx : (num 0).lt x = true) (hy : (num 0).lt y = true) :
    (num 0).le (x.mul y) = true := by
  cases x with
  | nan => cases hx
  | inf s =>
    obtain rfl : s = false := by simpa [lt] using hx
    cases y with
    | nan => cases hy
    | inf t =>
      obtain rfl : t = false := by simpa [lt] using hy
      rfl
    | num y =>
      have hy : 0 < y := of_decide_eq_true hy
      simp [mul, hy.ne', hy.not_gt, le]
  | num x =>
    have hx : 0 < x := of_decide_eq_true hx
    cases y with
    | nan => cases hy
    | inf t =>
      obtain rfl : t = false := by simpa [lt] using hy
      simp [mul, hx.ne', hx.not_gt, le]
    | num y => exact decide_eq_true (mul_pos hx (of_decide_eq_true hy)).le

theorem zero_le_div {a : ℚ} (ha : 0 ≤ a) (hy : (num 0).lt y = true) :
    (num 0).le ((num a).div y) = true := by
  cases y with
  | nan => cases hy
  | inf t => exact num_le_num.mpr (le_refl 0)
  | num y =>
    have hy : 0 < y := of_decide_eq_true hy
    rw [num_div_num hy.ne']
    exact num_le_num.mpr (div_nonneg ha hy.le)

/-- A factor of at least one does not make a positive float smaller. -/
theorem le_mul_of_one_le (hx : (num 0).lt x = true) (hy : (num 1).le y = true) :
    x.le (x.mul y) = true := by
  cases y with
  | nan => cases hy
  | inf t =>
    obtain rfl : t = false := by simpa [le] using hy
    cases x with
    | nan => cases hx
    | inf s =>
      obtain rfl : s = false := by simpa [lt] using hx
      rfl
    | num x =>
      have hx : 0 < x := of_decide_eq_true hx
      simp [mul, hx.ne', hx.le, le]
  | num y =>
    have hy : 1 ≤ y := of_decide_eq_true hy
    cases x with
    | nan => cases hx
    | inf s =>
      have hpos : 0 < y := one_pos.trans_le hy
      obtain rfl : s = false := by simpa [lt] using hx
      simp [mul, hpos.ne', hpos.le, le]
    | num x =>
      have hx : 0 < x := of_decide_eq_true hx
      exact decide_eq_true (le_mul_of_one_le_right hx.le hy)

end Order

/-! ## Scaling

    A positive factor keeps signs and order. -/

section Scaling

variable {x y : Float} {r : ℚ}

theorem inf_mul_num {negative : Bool} (hr : 0 < r) :
    (inf negative).mul (.num r) = .inf negative := by
  simp [mul, hr.ne', hr.not_gt]

theorem mul_num_lt (hr : 0 < r) : (x.mul (.num r)).lt (y.mul (.num r)) = x.lt y := by
  cases x with
  | nan => rfl
  | inf s =>
    rw [inf_mul_num hr]
    cases y with
    | nan => rfl
    | inf t => rw [inf_mul_num hr]
    | num y => rfl
  | num x =>
    cases y with
    | nan => rfl
    | inf t =>
      rw [inf_mul_num hr]
      rfl
    | num y => exact decide_eq_decide.mpr (mul_lt_mul_iff_left₀ hr)

/-- Scaling keeps what is positive positive, and nothing else. -/
theorem zero_lt_mul_num (hr : 0 < r) :
    (num 0).lt (x.mul (.num r)) = (num 0).lt x := by
  have hzero : num 0 = (num 0).mul (.num r) := by rw [mul, zero_mul]
  rw [hzero, mul_num_lt hr, ← hzero]

theorem zero_lt_mul_inf : (num 0).lt (x.mul (.inf false)) = (num 0).lt x := by
  cases x with
  | nan => rfl
  | inf negative => cases negative <;> rfl
  | num x =>
    by_cases hx : x = 0
    · simp [mul, lt, hx]
    · simp only [mul, lt, if_neg hx, Bool.false_bne, ← decide_not, decide_eq_decide, not_lt]
      exact (Ne.symm hx).le_iff_lt

/-- Only infinity is left of a positive float. -/
theorem mul_inf_of_pos (h : (num 0).lt x = true) : x.mul (.inf false) = .inf false := by
  cases x with
  | nan => cases h
  | inf negative =>
    cases negative with
    | true => cases h
    | false => rfl
  | num x =>
    have hx : 0 < x := of_decide_eq_true h
    simp [mul, hx.ne', hx.not_gt]

/-- A factor that is positive keeps the order of positive floats. -/
theorem mul_le_mul {r : Float} (hr : (num 0).lt r = true) (hx : (num 0).lt x = true)
    (hy : (num 0).lt y = true) (h : x.le y = true) : (x.mul r).le (y.mul r) = true := by
  cases r with
  | nan => cases hr
  | inf s =>
    obtain rfl : s = false := by simpa [lt] using hr
    rw [mul_inf_of_pos hx, mul_inf_of_pos hy]
    rfl
  | num r =>
    have hr : 0 < r := of_decide_eq_true hr
    cases x with
    | nan => cases hx
    | inf s =>
      rw [inf_mul_num hr]
      cases y with
      | nan => cases hy
      | inf t =>
        rw [inf_mul_num hr]
        exact h
      | num y =>
        obtain rfl : s = false := by simpa [lt] using hx
        cases h
    | num x =>
      cases y with
      | nan => cases hy
      | inf t =>
        rw [inf_mul_num hr]
        exact h
      | num y => exact decide_eq_true (mul_le_mul_of_nonneg_right (of_decide_eq_true h) hr.le)

/-- A product with a factor that is not negative is positive only if both are. -/
theorem zero_lt_of_mul {r : Float} (hr : (num 0).le r = true) (h : (num 0).lt (x.mul r) = true) :
    (num 0).lt x = true ∧ (num 0).lt r = true := by
  cases r with
  | nan => cases hr
  | inf s =>
    obtain rfl : s = false := by simpa [le] using hr
    exact ⟨zero_lt_mul_inf ▸ h, rfl⟩
  | num r =>
    rcases (show 0 ≤ r from of_decide_eq_true hr).lt_or_eq with hpos | rfl
    · exact ⟨zero_lt_mul_num hpos ▸ h, decide_eq_true hpos⟩
    · cases x <;> simp [mul, lt] at h

theorem sign_neg {x : ℚ} (hx : x ≠ 0) : decide (-x < 0) = !decide (x < 0) := by
  rw [← decide_not, decide_eq_decide, neg_lt_zero, not_lt, hx.symm.le_iff_lt]

theorem mul_of_neg : x.neg.mul y.neg = x.mul y := by
  cases x with
  | nan => cases y <;> rfl
  | inf s =>
    cases y with
    | nan => rfl
    | inf t => cases s <;> cases t <;> rfl
    | num y =>
      by_cases hy : y = 0
      · simp [mul, neg, hy]
      · simp only [mul, neg, neg_eq_zero, if_neg hy, sign_neg hy]
        cases s <;> cases decide (y < 0) <;> rfl
  | num x =>
    cases y with
    | nan => rfl
    | inf t =>
      by_cases hx : x = 0
      · simp [mul, neg, hx]
      · simp only [mul, neg, neg_eq_zero, if_neg hx, sign_neg hx]
        cases t <;> cases decide (x < 0) <;> rfl
    | num y => simp only [mul, neg, neg_mul_neg]

theorem div_num_neg {c : ℚ} (hc : c ≠ 0) : x.div (.num (-c)) = (x.div (.num c)).neg := by
  cases x with
  | nan => rfl
  | inf s =>
    simp only [div, neg, sign_neg hc]
    cases s <;> cases decide (c < 0) <;> rfl
  | num x => simp only [div, neg, neg_eq_zero, if_neg hc, div_neg]

end Scaling

end Float

end Python

end Quantora
