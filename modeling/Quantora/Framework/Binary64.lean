import Mathlib.Data.Int.Log
import Mathlib.Data.Nat.Sqrt
import Mathlib.Data.Rat.Floor
import Mathlib.Tactic.Linarith
import Mathlib.Tactic.Positivity
import Mathlib.Tactic.Ring

/-! # Rounding to binary64

    The numbers of 53 binary digits, and the rounding of a number to the nearest
    of them, ties to even. No digit is below `2^-1074`. The numbers are not
    bounded above; `Overflows` says which ones the format has no room for.

    * `half_even` — rounding to a whole number.
    * `round` — rounding to the format.
    * `round_mono` — rounding keeps order.
    * `le_round_iff`, `round_le_iff` — the numbers that are not rounded past `y`:
      those that are at most half a step away from it.
    * `round_pos_iff` — the numbers that are not rounded to zero.
    * `abs_round_sub_le` — the relative error, where all digits are there.
    * `le_mul_of_lt` — how far apart two numbers of the format are.
    * `sqrt` — the square root, rounded; `sqrt_mono` — it keeps order, and
      `sqrt_four_zpow_mul` — it gives back a power of two. -/

namespace Binary64

/-! ## Whole numbers -/

/-- The nearest whole number, the even one of two. -/
def half_even (x : ℚ) : ℤ :=
  if x - ⌊x⌋ < 1 / 2 then ⌊x⌋
  else if 1 / 2 < x - ⌊x⌋ then ⌊x⌋ + 1
  else if ⌊x⌋ % 2 = 0 then ⌊x⌋ else ⌊x⌋ + 1

section Whole

variable {x y : ℚ} {m : ℤ}

theorem le_half_even_iff :
    m ≤ half_even x ↔ (m : ℚ) - 1 / 2 < x ∨ ((m : ℚ) - 1 / 2 = x ∧ m % 2 = 0) := by
  have hbelow : (⌊x⌋ : ℚ) ≤ x := Int.floor_le x
  have habove : x < (⌊x⌋ : ℚ) + 1 := Int.lt_floor_add_one x
  unfold half_even
  generalize ⌊x⌋ = n at hbelow habove ⊢
  have hcast : ∀ k : ℤ, m ≤ k ↔ (m : ℚ) < k + 1 := fun k => by
    rw [← Int.lt_add_one_iff, ← Int.cast_lt (R := ℚ)]
    push_cast
    rfl
  by_cases hdown : x - n < 1 / 2
  · rw [if_pos hdown, hcast]
    constructor
    · intro h
      have hle : (m : ℚ) ≤ n := by exact_mod_cast (hcast n).mpr h
      exact .inl (by linarith)
    · rintro (h | ⟨h, -⟩) <;> linarith
  rw [if_neg hdown]
  by_cases hup : 1 / 2 < x - n
  · rw [if_pos hup, hcast]
    push_cast
    constructor
    · intro h
      have hle : (m : ℚ) ≤ n + 1 := by
        exact_mod_cast (hcast (n + 1)).mpr (by push_cast; exact h)
      exact .inl (by linarith)
    · rintro (h | ⟨h, -⟩) <;> linarith
  rw [if_neg hup]
  -- Half way between two whole numbers.
  have hhalf : x = n + 1 / 2 := by linarith
  subst hhalf
  have htie : (m : ℚ) - 1 / 2 = n + 1 / 2 ↔ m = n + 1 := by
    rw [← Int.cast_inj (α := ℚ)]
    push_cast
    constructor <;> intro h <;> linarith
  have hlt : (m : ℚ) - 1 / 2 < n + 1 / 2 ↔ m ≤ n := by
    rw [hcast]
    constructor <;> intro h <;> linarith
  rw [htie, hlt]
  split_ifs <;> omega

theorem half_even_le_iff :
    half_even x ≤ m ↔ x < (m : ℚ) + 1 / 2 ∨ (x = (m : ℚ) + 1 / 2 ∧ m % 2 = 0) := by
  rw [← not_iff_not, not_le, Int.lt_iff_add_one_le, le_half_even_iff]
  have hnext : ((m + 1 : ℤ) : ℚ) - 1 / 2 = m + 1 / 2 := by
    push_cast
    ring
  rw [hnext, not_or, not_lt, not_and, le_iff_lt_or_eq]
  constructor
  · rintro (h | ⟨h, hodd⟩)
    · exact ⟨.inl h, fun heq => absurd heq h.ne'⟩
    · exact ⟨.inr h, fun _ => by omega⟩
  · rintro ⟨h | h, heven⟩
    · exact .inl h
    · exact .inr ⟨h, by have := heven h.symm; omega⟩

theorem abs_half_even_sub_le (x : ℚ) : |half_even x - x| ≤ 1 / 2 := by
  have hbelow : (half_even x : ℚ) - 1 / 2 ≤ x := by
    rcases le_half_even_iff.mp (le_refl (half_even x)) with h | ⟨h, -⟩
    · exact h.le
    · exact h.le
  have habove : x ≤ (half_even x : ℚ) + 1 / 2 := by
    rcases half_even_le_iff.mp (le_refl (half_even x)) with h | ⟨h, -⟩
    · exact h.le
    · exact h.le
  rw [abs_le]
  constructor <;> linarith

theorem half_even_mono (h : x ≤ y) : half_even x ≤ half_even y := by
  rcases le_half_even_iff.mp (le_refl (half_even x)) with hlt | ⟨heq, heven⟩
  · exact le_half_even_iff.mpr (.inl (hlt.trans_le h))
  · rcases h.lt_or_eq with hxy | hxy
    · exact le_half_even_iff.mpr (.inl (heq.trans_lt hxy))
    · rw [hxy]

@[simp] theorem half_even_intCast (n : ℤ) : half_even n = n := by
  simp [half_even]

theorem half_even_neg (x : ℚ) : half_even (-x) = -half_even x := by
  apply eq_of_forall_le_iff
  intro m
  rw [le_half_even_iff, le_neg, half_even_le_iff]
  push_cast
  refine or_congr ?_ (and_congr ?_ (by omega))
  · constructor <;> intro h <;> linarith
  · constructor <;> intro h <;> linarith

end Whole

/-! ## The format -/

/-- The exponent of the last digit of a number. -/
def exponent (x : ℚ) : ℤ := max (Int.log 2 |x| - 52) (-1074)

/-- The value of the last digit of a number. -/
def place (x : ℚ) : ℚ := 2 ^ exponent x

/-- The nearest number of the format, however large. -/
def round (x : ℚ) : ℚ := half_even (x / place x) * place x

/-- The number is past the largest of the format once it is rounded. -/
def Overflows (x : ℚ) : Prop := 2 ^ 1024 ≤ |round x|

instance : DecidablePred Overflows := fun x => inferInstanceAs (Decidable (2 ^ 1024 ≤ |round x|))

section Round

variable {x y : ℚ}

theorem place_pos (x : ℚ) : 0 < place x := zpow_pos two_pos _

theorem exponent_neg (x : ℚ) : exponent (-x) = exponent x := by rw [exponent, abs_neg, exponent]

@[simp] theorem round_neg (x : ℚ) : round (-x) = -round x := by
  rw [round, place, exponent_neg, neg_div, half_even_neg, Int.cast_neg, neg_mul]
  rfl

@[simp] theorem round_zero : round 0 = 0 := by
  have hzero : half_even 0 = 0 := by exact_mod_cast half_even_intCast 0
  rw [round, zero_div, hzero, Int.cast_zero, zero_mul]

theorem not_overflows_zero : ¬ Overflows 0 := by
  rw [Overflows, round_zero, abs_zero]
  exact not_le.mpr (by positivity)

theorem overflows_neg : Overflows (-x) ↔ Overflows x := by
  rw [Overflows, round_neg, abs_neg, Overflows]

/-- A higher power of two is a multiple of a lower one. -/
theorem exists_multiple {e k : ℤ} (h : e ≤ k) : ∃ n : ℤ, (2 : ℚ) ^ k = n * 2 ^ e := by
  refine ⟨2 ^ (k - e).toNat, ?_⟩
  push_cast
  rw [← zpow_natCast, ← zpow_add₀ two_ne_zero, Int.toNat_of_nonneg (by omega)]
  congr 1
  omega

theorem abs_lt_zpow (x : ℚ) : |x| < 2 ^ (exponent x + 53) := by
  have hlog : |x| < (2 : ℚ) ^ (Int.log 2 |x| + 1) := by
    exact_mod_cast Int.lt_zpow_succ_log_self (b := 2) one_lt_two |x|
  refine hlog.trans_le (zpow_le_zpow_right₀ one_le_two ?_)
  have := le_max_left (Int.log 2 |x| - 52) (-1074)
  unfold exponent
  omega

/-- A number whose last digit is not the least one has all 53 digits. -/
theorem zpow_le_abs (hx : x ≠ 0) (h : -1074 < exponent x) : 2 ^ (exponent x + 52) ≤ |x| := by
  have hlog : exponent x + 52 = Int.log 2 |x| := by
    unfold exponent at h ⊢
    omega
  rw [hlog]
  exact_mod_cast Int.zpow_log_le_self (b := 2) one_lt_two (abs_pos.mpr hx)

theorem exponent_mono (hx : 0 < x) (h : x ≤ y) : exponent x ≤ exponent y := by
  rw [exponent, exponent, abs_of_pos hx, abs_of_pos (hx.trans_le h)]
  exact max_le_max (by have := Int.log_mono_right (b := 2) hx h; omega) le_rfl

/-! ## Order -/

theorem round_le_multiple {n : ℤ} (h : x ≤ n * place x) : round x ≤ n * place x := by
  refine mul_le_mul_of_nonneg_right ?_ (place_pos x).le
  have hdiv : x / place x ≤ n := (div_le_iff₀ (place_pos x)).mpr h
  exact_mod_cast (half_even_mono hdiv).trans_eq (half_even_intCast n)

theorem multiple_le_round {n : ℤ} (h : n * place x ≤ x) : n * place x ≤ round x := by
  refine mul_le_mul_of_nonneg_right ?_ (place_pos x).le
  have hdiv : (n : ℚ) ≤ x / place x := (le_div_iff₀ (place_pos x)).mpr h
  exact_mod_cast (half_even_intCast n).symm.trans_le (half_even_mono hdiv)

/-- Powers of two that the last digit divides are not crossed. -/
theorem round_le_zpow {k : ℤ} (hk : exponent x ≤ k) (h : x ≤ 2 ^ k) : round x ≤ 2 ^ k := by
  obtain ⟨n, hn⟩ := exists_multiple hk
  rw [hn] at h ⊢
  exact round_le_multiple h

theorem zpow_le_round {k : ℤ} (hk : exponent x ≤ k) (h : 2 ^ k ≤ x) : 2 ^ k ≤ round x := by
  obtain ⟨n, hn⟩ := exists_multiple hk
  rw [hn] at h ⊢
  exact multiple_le_round h

theorem round_nonneg (h : 0 ≤ x) : 0 ≤ round x := by
  have hzero := multiple_le_round (x := x) (n := 0) (by simpa using h)
  simpa using hzero

theorem round_nonpos (h : x ≤ 0) : round x ≤ 0 := by
  have hnonneg := round_nonneg (neg_nonneg.mpr h)
  rwa [round_neg, neg_nonneg] at hnonneg

theorem round_mono_of_pos (hx : 0 < x) (h : x ≤ y) : round x ≤ round y := by
  rcases (exponent_mono hx h).lt_or_eq with hlt | heq
  · -- A power of two is between the two, and neither is rounded past it.
    have hy : 0 < y := hx.trans_le h
    have hbound : (-1074 : ℤ) ≤ exponent x := le_max_right _ _
    have hmiddle : 2 ^ (exponent y + 52) ≤ y := by
      have := zpow_le_abs hy.ne' (hbound.trans_lt hlt)
      rwa [abs_of_pos hy] at this
    have hbelow : x ≤ 2 ^ (exponent y + 52) := by
      have := abs_lt_zpow x
      rw [abs_of_pos hx] at this
      exact this.le.trans (zpow_le_zpow_right₀ one_le_two (by omega))
    calc round x ≤ 2 ^ (exponent y + 52) := round_le_zpow (by omega) hbelow
      _ ≤ round y := zpow_le_round (by omega) hmiddle
  · have hplace : place x = place y := by rw [place, place, heq]
    rw [round, round, hplace]
    refine mul_le_mul_of_nonneg_right ?_ (place_pos y).le
    exact_mod_cast half_even_mono ((div_le_div_iff_of_pos_right (place_pos y)).mpr h)

/-- **Rounding keeps order.** -/
theorem round_mono (h : x ≤ y) : round x ≤ round y := by
  by_cases hx : 0 < x
  · exact round_mono_of_pos hx h
  by_cases hy : y < 0
  · have hneg := round_mono_of_pos (neg_pos.mpr hy) (neg_le_neg h)
    rwa [round_neg, round_neg, neg_le_neg_iff] at hneg
  · exact (round_nonpos (not_lt.mp hx)).trans (round_nonneg (not_lt.mp hy))

/-! ## Where a number is reached -/

/-- The distance between the numbers of the format up to `y`. -/
def step (y : ℚ) : ℚ := 2 ^ max (Int.clog 2 y - 53) (-1074)

/-- The least number of the format from `y` on, in steps. -/
def steps (y : ℚ) : ℤ := ⌈y / step y⌉

/-- The number is at most half a step below `y`. A tie counts when the even
    neighbour is the upper one. -/
def Reaches (x y : ℚ) : Prop :=
  (steps y - 1 / 2) * step y < x ∨ ((steps y - 1 / 2) * step y = x ∧ steps y % 2 = 0)

instance (x y : ℚ) : Decidable (Reaches x y) := inferInstanceAs (Decidable (_ ∨ _))

theorem step_pos (y : ℚ) : 0 < step y := zpow_pos two_pos _

theorem reaches_iff_half_even : Reaches x y ↔ steps y ≤ half_even (x / step y) := by
  rw [le_half_even_iff, lt_div_iff₀ (step_pos y), eq_div_iff (step_pos y).ne', Reaches]

/-- **The rounding rule**: `x` is rounded to `y` or more exactly when it reaches
    `y`. -/
theorem le_round_iff (hy : 0 < y) : y ≤ round x ↔ Reaches x y := by
  rw [reaches_iff_half_even]
  have hstep := step_pos y
  by_cases hx : x ≤ 0
  · refine iff_of_false (not_le.mpr ((round_nonpos hx).trans_lt hy)) (not_le.mpr ?_)
    have hdown : half_even (x / step y) ≤ 0 := by
      have := half_even_mono (div_nonpos_of_nonpos_of_nonneg hx hstep.le)
      exact this.trans_eq (by exact_mod_cast half_even_intCast 0)
    exact hdown.trans_lt (Int.ceil_pos.mpr (div_pos hy hstep))
  push Not at hx
  set e := max (Int.clog 2 y - 53) (-1074) with he
  have habove : y ≤ 2 ^ (e + 53) := by
    have hclog : y ≤ (2 : ℚ) ^ Int.clog 2 y := by
      exact_mod_cast Int.self_le_zpow_clog (b := 2) one_lt_two y
    exact hclog.trans (zpow_le_zpow_right₀ one_le_two (by omega))
  rcases lt_trichotomy (exponent x) e with hlt | heq | hgt
  · -- `x` is below a power of two that is below `y`.
    have hbound : (-1074 : ℤ) ≤ exponent x := le_max_right _ _
    have hbelow : (2 : ℚ) ^ (e + 52) < y := by
      have hclog : e + 52 = Int.clog 2 y - 1 := by omega
      rw [hclog]
      exact_mod_cast Int.zpow_pred_clog_lt_self (b := 2) one_lt_two hy
    have hx' : x ≤ 2 ^ (e + 52) := by
      have := abs_lt_zpow x
      rw [abs_of_pos hx] at this
      exact this.le.trans (zpow_le_zpow_right₀ one_le_two (by omega))
    refine iff_of_false (not_le.mpr ((round_le_zpow (by omega) hx').trans_lt hbelow))
      (not_le.mpr ?_)
    obtain ⟨n, hn⟩ := exists_multiple (show e ≤ e + 52 by omega)
    rw [hn] at hx' hbelow
    have hdown : half_even (x / step y) ≤ n := by
      have := half_even_mono ((div_le_iff₀ hstep).mpr hx')
      rwa [half_even_intCast] at this
    exact hdown.trans_lt (Int.lt_ceil.mpr ((lt_div_iff₀ hstep).mpr hbelow))
  · -- One step for both.
    have hplace : place x = step y := by rw [place, heq, step, he]
    rw [round, hplace, ← div_le_iff₀ hstep]
    exact Int.ceil_le.symm
  · -- `x` is above a power of two that is not below `y`.
    have hx' : 2 ^ (exponent x + 52) ≤ x := by
      have := zpow_le_abs hx.ne' (by omega)
      rwa [abs_of_pos hx] at this
    have hpower : y ≤ 2 ^ (exponent x + 52) :=
      habove.trans (zpow_le_zpow_right₀ one_le_two (by omega))
    refine iff_of_true (hpower.trans (zpow_le_round (by omega) hx')) ?_
    obtain ⟨n, hn⟩ := exists_multiple (show e ≤ exponent x + 52 by omega)
    rw [hn] at hx' hpower
    have hup : n ≤ half_even (x / step y) := by
      have := half_even_mono ((le_div_iff₀ hstep).mpr hx')
      rwa [half_even_intCast] at this
    exact (Int.ceil_le.mpr ((div_le_iff₀ hstep).mpr hpower)).trans hup

/-- The number is at most half a step above `y`. A tie counts when the even
    neighbour is the lower one. -/
def Within (x y : ℚ) : Prop :=
  x < (⌊y / place y⌋ + 1 / 2) * place y ∨
    (x = (⌊y / place y⌋ + 1 / 2) * place y ∧ ⌊y / place y⌋ % 2 = 0)

instance (x y : ℚ) : Decidable (Within x y) := inferInstanceAs (Decidable (_ ∨ _))

theorem within_iff_half_even : Within x y ↔ half_even (x / place y) ≤ ⌊y / place y⌋ := by
  rw [half_even_le_iff, div_lt_iff₀ (place_pos y), div_eq_iff (place_pos y).ne', Within]

/-- The rule from above: `x` is rounded to `y` or less exactly when it is
    within `y`. -/
theorem round_le_iff (hy : 0 < y) : round x ≤ y ↔ Within x y := by
  rw [within_iff_half_even]
  have hplace := place_pos y
  by_cases hx : x ≤ 0
  · refine iff_of_true ((round_nonpos hx).trans hy.le) ?_
    have hdown : half_even (x / place y) ≤ 0 := by
      have := half_even_mono (div_nonpos_of_nonpos_of_nonneg hx hplace.le)
      exact this.trans_eq (by exact_mod_cast half_even_intCast 0)
    exact hdown.trans (Int.floor_nonneg.mpr (div_pos hy hplace).le)
  push Not at hx
  have hbound : ∀ z : ℚ, -1074 ≤ exponent z := fun z => le_max_right _ _
  rcases lt_trichotomy (exponent x) (exponent y) with hlt | heq | hgt
  · -- `x` is below a power of two that is not above `y`.
    have hbelow : 2 ^ (exponent y + 52) ≤ y := by
      have := zpow_le_abs hy.ne' ((hbound x).trans_lt hlt)
      rwa [abs_of_pos hy] at this
    have hx' : x ≤ 2 ^ (exponent y + 52) := by
      have := abs_lt_zpow x
      rw [abs_of_pos hx] at this
      exact this.le.trans (zpow_le_zpow_right₀ one_le_two (by omega))
    refine iff_of_true ((round_le_zpow (by omega) hx').trans hbelow) ?_
    obtain ⟨n, hn⟩ := exists_multiple (show exponent y ≤ exponent y + 52 by omega)
    rw [hn] at hx' hbelow
    have hdown : half_even (x / place y) ≤ n := by
      have := half_even_mono ((div_le_iff₀ hplace).mpr hx')
      rwa [half_even_intCast] at this
    exact hdown.trans (Int.le_floor.mpr ((le_div_iff₀ hplace).mpr hbelow))
  · -- One step for both.
    have hsame : place x = place y := by rw [place, place, heq]
    rw [round, hsame, ← le_div_iff₀ hplace]
    exact Int.le_floor.symm
  · -- `x` is not below a power of two that is above `y`.
    have hx' : 2 ^ (exponent x + 52) ≤ x := by
      have := zpow_le_abs hx.ne' ((hbound y).trans_lt hgt)
      rwa [abs_of_pos hx] at this
    have habove : y < 2 ^ (exponent x + 52) := by
      have := abs_lt_zpow y
      rw [abs_of_pos hy] at this
      exact this.trans_le (zpow_le_zpow_right₀ one_le_two (by omega))
    refine iff_of_false (not_le.mpr (habove.trans_le (zpow_le_round (by omega) hx')))
      (not_le.mpr ?_)
    obtain ⟨n, hn⟩ := exists_multiple (show exponent y ≤ exponent x + 52 by omega)
    rw [hn] at hx' habove
    have hup : n ≤ half_even (x / place y) := by
      have := half_even_mono ((le_div_iff₀ hplace).mpr hx')
      rwa [half_even_intCast] at this
    exact (Int.floor_lt.mpr ((div_lt_iff₀ hplace).mpr habove)).trans_le hup

/-- Only what is at most half of the least number of the format vanishes. -/
theorem round_pos_iff : 0 < round x ↔ 2 ^ (-1075 : ℤ) < x := by
  have hhalf : (0 : ℚ) < 2 ^ (-1075 : ℤ) := zpow_pos two_pos _
  by_cases hx : x ≤ 0
  · exact iff_of_false (not_lt.mpr (round_nonpos hx)) (not_lt.mpr (hx.trans hhalf.le))
  push Not at hx
  have hplace := place_pos x
  have hzero : 0 < round x ↔ 1 / 2 * place x < x := by
    have hdigit : 0 < half_even (x / place x) ↔ 1 / 2 * place x < x := by
      rw [Int.lt_iff_add_one_le, zero_add, le_half_even_iff, lt_div_iff₀ hplace]
      norm_num
    rw [← hdigit, round, mul_pos_iff_of_pos_right hplace, Int.cast_pos]
  rw [hzero]
  rcases (show (-1074 : ℤ) ≤ exponent x from le_max_right _ _).lt_or_eq with hlt | heq
  · -- All digits are there.
    have hlarge := zpow_le_abs hx.ne' hlt
    rw [abs_of_pos hx] at hlarge
    have hbelow : ∀ e : ℤ, e < exponent x + 52 → (2 : ℚ) ^ e < x := fun e he =>
      (zpow_lt_zpow_right₀ one_lt_two he).trans_le hlarge
    refine iff_of_true ?_ (hbelow _ (by omega))
    have hdown : 1 / 2 * place x ≤ place x := by linarith
    exact hdown.trans_lt (hbelow _ (by omega))
  · have hleast : 1 / 2 * place x = 2 ^ (-1075 : ℤ) := by
      rw [place, ← heq, show (-1074 : ℤ) = -1075 + 1 by norm_num, zpow_add_one₀ two_ne_zero]
      ring
    rw [hleast]

/-! ## Errors and gaps -/

/-- A number with all 53 digits is rounded by a relative error of `2^-53` at
    most. -/
theorem abs_round_sub_le (hx : 0 < x) (hnormal : 2 ^ (-1022 : ℤ) ≤ x) :
    |round x - x| ≤ x * 2 ^ (-53 : ℤ) := by
  have hplace := place_pos x
  have hlog : -1022 ≤ Int.log 2 x :=
    (Int.zpow_le_iff_le_log one_lt_two hx).mp (by exact_mod_cast hnormal)
  have hexponent : exponent x + 52 = Int.log 2 x := by
    unfold exponent
    rw [abs_of_pos hx]
    omega
  have hdigits : place x ≤ x * 2 ^ (-52 : ℤ) := by
    have hlow : (2 : ℚ) ^ (exponent x + 52) ≤ x := by
      rw [hexponent]
      exact_mod_cast Int.zpow_log_le_self (b := 2) one_lt_two hx
    calc place x = 2 ^ (exponent x + 52) * 2 ^ (-52 : ℤ) := by
          rw [place, ← zpow_add₀ two_ne_zero, Int.add_neg_cancel_right]
      _ ≤ x * 2 ^ (-52 : ℤ) := mul_le_mul_of_nonneg_right hlow (by positivity)
  calc |round x - x| = |half_even (x / place x) - x / place x| * place x := by
        rw [← abs_of_pos hplace, ← abs_mul, abs_of_pos hplace, sub_mul,
          div_mul_cancel₀ _ hplace.ne']
        rfl
    _ ≤ 1 / 2 * place x := mul_le_mul_of_nonneg_right (abs_half_even_sub_le _) hplace.le
    _ ≤ 1 / 2 * (x * 2 ^ (-52 : ℤ)) := mul_le_mul_of_nonneg_left hdigits (by norm_num)
    _ = x * 2 ^ (-53 : ℤ) := by
      norm_num
      ring

/-- A number of the format is a multiple of its last digit. -/
theorem exists_digits (hx : round x = x) : ∃ n : ℤ, x = n * place x :=
  ⟨half_even (x / place x), hx.symm⟩

/-- **The gap**: of two numbers of the format the smaller one is smaller by a
    factor. -/
theorem le_mul_of_lt (hx : round x = x) (hy : round y = y) (hpos : 0 < x) (hlt : x < y) :
    x ≤ y * (1 - 2 ^ (-53 : ℤ)) := by
  have hscale : ∀ e : ℤ, (2 : ℚ) ^ e = 2 ^ (e + 53) * 2 ^ (-53 : ℤ) := fun e => by
    rw [← zpow_add₀ two_ne_zero, Int.add_neg_cancel_right]
  have hfactor : (0 : ℚ) ≤ 1 - 2 ^ (-53 : ℤ) := by norm_num
  obtain ⟨m, hm⟩ := exists_digits hx
  have hplace := place_pos x
  have hbelow : x < 2 ^ (exponent x + 53) := by
    have := abs_lt_zpow x
    rwa [abs_of_pos hpos] at this
  rcases (exponent_mono hpos hlt.le).lt_or_eq with hexponent | hexponent
  · -- A power of two is between them; `x` is one digit below it at least.
    obtain ⟨n, hn⟩ := exists_multiple (show exponent x ≤ exponent x + 53 by omega)
    have hnext : m + 1 ≤ n := by
      have hmultiples : (m : ℚ) * place x < n * place x := by
        rw [← hm]
        exact hbelow.trans_eq hn
      exact_mod_cast lt_of_mul_lt_mul_right hmultiples hplace.le
    have hmiddle : 2 ^ (exponent x + 53) ≤ y := by
      have hbound : (-1074 : ℤ) ≤ exponent x := le_max_right _ _
      have hlow := zpow_le_abs (hpos.trans hlt).ne' (hbound.trans_lt hexponent)
      rw [abs_of_pos (hpos.trans hlt)] at hlow
      have hpower : (2 : ℚ) ^ (exponent x + 53) ≤ 2 ^ (exponent y + 52) :=
        zpow_le_zpow_right₀ one_le_two (by omega)
      exact hpower.trans hlow
    calc x = m * place x := hm
      _ ≤ (n - 1) * place x := by
        refine mul_le_mul_of_nonneg_right ?_ hplace.le
        have : (m : ℚ) + 1 ≤ n := by exact_mod_cast hnext
        linarith
      _ = 2 ^ (exponent x + 53) * (1 - 2 ^ (-53 : ℤ)) := by
        rw [mul_sub, mul_one, ← hscale (exponent x), hn, place]
        ring
      _ ≤ y * (1 - 2 ^ (-53 : ℤ)) := mul_le_mul_of_nonneg_right hmiddle hfactor
  · -- The same last digit, which `y` is less than `2^53` of.
    obtain ⟨n, hn⟩ := exists_digits hy
    have hsame : place y = place x := by rw [place, place, hexponent]
    have hnext : m + 1 ≤ n := by
      have hmultiples : (m : ℚ) * place x < n * place x := by
        rw [← hm, ← hsame, ← hn]
        exact hlt
      exact_mod_cast lt_of_mul_lt_mul_right hmultiples hplace.le
    have hdigit : y * 2 ^ (-53 : ℤ) ≤ place x := by
      have hupper := abs_lt_zpow y
      rw [abs_of_pos (hpos.trans hlt), ← hexponent] at hupper
      rw [place, hscale (exponent x)]
      exact mul_le_mul_of_nonneg_right hupper.le (by positivity)
    calc x = m * place x := hm
      _ ≤ (n - 1) * place x := by
        refine mul_le_mul_of_nonneg_right ?_ hplace.le
        have : (m : ℚ) + 1 ≤ n := by exact_mod_cast hnext
        linarith
      _ = y - place x := by
        rw [sub_mul, one_mul, ← hsame, ← hn]
      _ ≤ y * (1 - 2 ^ (-53 : ℤ)) := by
        rw [mul_sub, mul_one]
        exact sub_le_sub_left hdigit y

end Round

/-! ## Roots -/

/-- The exponent of the last digit of a square root. -/
def root_exponent (x : ℚ) : ℤ := Int.log 4 x - 52

/-- The square root of `x` in digits: half a digit more is rounded down. -/
def root_digits (x : ℚ) : ℕ := (Nat.sqrt ⌊4 * (x / 4 ^ root_exponent x)⌋₊ + 1) / 2

/-- The number of 53 digits that is nearest to the square root of `x`. -/
def sqrt (x : ℚ) : ℚ := root_digits x * 2 ^ root_exponent x

section Root

variable {x y : ℚ}

theorem log_four_mul (k : ℤ) (hx : 0 < x) : Int.log 4 (4 ^ k * x) = k + Int.log 4 x := by
  have hpos : 0 < 4 ^ k * x := mul_pos (zpow_pos four_pos k) hx
  apply eq_of_forall_le_iff
  intro e
  rw [← Int.zpow_le_iff_le_log (by norm_num) hpos, ← sub_le_iff_le_add',
    ← Int.zpow_le_iff_le_log (by norm_num) hx]
  push_cast
  rw [zpow_sub₀ four_ne_zero, div_le_iff₀' (zpow_pos four_pos k)]

theorem sqrt_nonneg (x : ℚ) : 0 ≤ sqrt x :=
  mul_nonneg (Nat.cast_nonneg _) (zpow_nonneg two_pos.le _)

theorem sqrt_of_nonpos (hx : x ≤ 0) : sqrt x = 0 := by
  have hfloor : ⌊4 * (x / 4 ^ root_exponent x)⌋₊ = 0 := by
    have hpower : (0 : ℚ) < 4 ^ root_exponent x := zpow_pos four_pos _
    rw [Nat.floor_eq_zero]
    linarith [div_nonpos_of_nonpos_of_nonneg hx hpower.le]
  rw [sqrt, root_digits, hfloor, Nat.sqrt_zero, Nat.cast_eq_zero.mpr rfl, zero_mul]

/-- A square comes out of the root where no digit is lost. -/
theorem sqrt_four_zpow_mul (k : ℤ) (x : ℚ) : sqrt (4 ^ k * x) = 2 ^ k * sqrt x := by
  have hpower : (0 : ℚ) < 4 ^ k := zpow_pos four_pos k
  by_cases hx : x ≤ 0
  · rw [sqrt_of_nonpos hx, sqrt_of_nonpos (mul_nonpos_of_nonneg_of_nonpos hpower.le hx), mul_zero]
  · have hexponent : root_exponent (4 ^ k * x) = k + root_exponent x := by
      rw [root_exponent, log_four_mul k (not_le.mp hx), add_sub_assoc, root_exponent]
    have hdigits : root_digits (4 ^ k * x) = root_digits x := by
      rw [root_digits, hexponent, zpow_add₀ four_ne_zero, mul_div_mul_left _ _ hpower.ne',
        root_digits]
    rw [sqrt, hexponent, hdigits, zpow_add₀ two_ne_zero, mul_left_comm, sqrt]

/-- A root has 53 digits. -/
theorem root_digits_bounds (hx : 0 < x) : 2 ^ 52 ≤ root_digits x ∧ root_digits x ≤ 2 ^ 53 := by
  have hpower : (0 : ℚ) < 4 ^ root_exponent x := zpow_pos four_pos _
  have hscale : ∀ e : ℤ, (4 : ℚ) ^ (root_exponent x + e) = 4 ^ e * 4 ^ root_exponent x := by
    intro e
    rw [zpow_add₀ four_ne_zero, mul_comm]
  have hlow : (4 : ℚ) ^ 52 ≤ x / 4 ^ root_exponent x := by
    have hlog : (4 : ℚ) ^ Int.log 4 x ≤ x := by
      exact_mod_cast Int.zpow_log_le_self (b := 4) (by norm_num) hx
    rw [le_div_iff₀ hpower, ← zpow_natCast, ← hscale]
    exact (zpow_le_zpow_right₀ (by norm_num) (by unfold root_exponent; omega)).trans hlog
  have hhigh : x / 4 ^ root_exponent x < (4 : ℚ) ^ 53 := by
    have hlog : x < (4 : ℚ) ^ (Int.log 4 x + 1) := by
      exact_mod_cast Int.lt_zpow_succ_log_self (b := 4) (by norm_num) x
    rw [div_lt_iff₀ hpower, ← zpow_natCast, ← hscale]
    exact hlog.trans_le (zpow_le_zpow_right₀ (by norm_num) (by unfold root_exponent; omega))
  have hleast : 2 ^ 53 ≤ Nat.sqrt ⌊4 * (x / 4 ^ root_exponent x)⌋₊ := by
    rw [Nat.le_sqrt, Nat.le_floor_iff (by positivity)]
    push_cast
    linarith
  have hmost : Nat.sqrt ⌊4 * (x / 4 ^ root_exponent x)⌋₊ < 2 ^ 54 := by
    rw [Nat.sqrt_lt, Nat.floor_lt (by positivity)]
    push_cast
    linarith
  unfold root_digits
  omega

/-- **Roots keep order.** -/
theorem sqrt_mono (h : x ≤ y) : sqrt x ≤ sqrt y := by
  by_cases hx : x ≤ 0
  · rw [sqrt_of_nonpos hx]
    exact sqrt_nonneg y
  push Not at hx
  have hpower : ∀ e : ℤ, (0 : ℚ) ≤ 2 ^ e := fun e => zpow_nonneg two_pos.le e
  have hexponents : root_exponent x ≤ root_exponent y :=
    sub_le_sub_right (Int.log_mono_right hx h) 52
  rcases hexponents.lt_or_eq with hlt | heq
  · -- A power of two is between the two roots.
    have hbelow : (root_digits x : ℚ) ≤ 2 ^ 53 := by exact_mod_cast (root_digits_bounds hx).2
    have habove : (2 ^ 52 : ℚ) ≤ root_digits y := by
      exact_mod_cast (root_digits_bounds (hx.trans_le h)).1
    calc sqrt x ≤ 2 ^ 53 * 2 ^ root_exponent x := mul_le_mul_of_nonneg_right hbelow (hpower _)
      _ = 2 ^ 52 * 2 ^ (root_exponent x + 1) := by
        rw [zpow_add_one₀ two_ne_zero]
        ring
      _ ≤ 2 ^ 52 * 2 ^ root_exponent y :=
        mul_le_mul_of_nonneg_left (zpow_le_zpow_right₀ one_le_two (by omega)) (by positivity)
      _ ≤ sqrt y := mul_le_mul_of_nonneg_right habove (hpower _)
  · have hdigits : root_digits x ≤ root_digits y := by
      have hscale : (0 : ℚ) < 4 ^ root_exponent y := zpow_pos four_pos _
      have hfloor := Nat.floor_mono (mul_le_mul_of_nonneg_left
        ((div_le_div_iff_of_pos_right hscale).mpr h) (four_pos (α := ℚ)).le)
      rw [root_digits, root_digits, heq]
      exact Nat.div_le_div_right (Nat.add_le_add_right (Nat.sqrt_le_sqrt hfloor) 1)
    rw [sqrt, sqrt, heq]
    exact mul_le_mul_of_nonneg_right (by exact_mod_cast hdigits) (hpower _)

end Root

example : sqrt 2 = 6369051672525773 / 2 ^ 52 := by decide +kernel

end Binary64
