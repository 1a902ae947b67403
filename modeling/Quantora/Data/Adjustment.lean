import Mathlib.Tactic.MkIffOfInductiveProp
import Quantora.Data.HardRules

/-! # Adjustment and validation

    `get_prices` validates a frame after it has rescaled the rows. A negative
    close turns the signs and the order of a row round. A positive one keeps the
    order of open, high and low up to rounding; but the close is written as it
    is, and the products on both sides of it are rounded.

    * `Kept` — what rounding must leave of a row.
    * `Rescalable` — the rows that are sound once they are rescaled.
    * `adjustment_exact_iff` — when the rescaled frame is accepted exactly if
      the raw frame is.
    * `kept_iff_of_ordinary` — of the rows with ordinary prices only those that
      close at their high or at their low are at risk. -/

namespace Quantora

namespace RawBar

/-- The nearest float to the ratio of the closes. -/
def ratio (bar : RawBar) : Python.Float := (bar.adj_close.div bar.close).rounded

/-- One row of `_apply_adjustment`. -/
def adjusted (bar : RawBar) : RawBar :=
  { bar with
    open_ := (bar.open_.mul bar.ratio).rounded
    high := (bar.high.mul bar.ratio).rounded
    low := (bar.low.mul bar.ratio).rounded
    close := bar.adj_close }

/-- The cells of a row are positive. -/
structure Priced (bar : RawBar) : Prop where
  prices : ∀ price ∈ bar.prices, (Python.Float.num 0).lt price = true
  volume : (Python.Float.num 0).le bar.volume = true

/-- The high is not below the low, and the open and the close are not outside of
    them. -/
@[mk_iff]
structure Ordered (bar : RawBar) : Prop where
  high_low : bar.high.lt bar.low = false
  open_low : bar.open_.lt bar.low = false
  open_high : bar.high.lt bar.open_ = false
  close_low : bar.close.lt bar.low = false
  close_high : bar.high.lt bar.close = false

instance (bar : RawBar) : Decidable bar.Ordered := decidable_of_iff' _ (ordered_iff bar)

theorem sound_iff_priced {bar : RawBar} : bar.Sound ↔ bar.Priced ∧ bar.Ordered := by
  have hmissing : bar.missing = false ↔ (∀ price ∈ bar.prices, price ≠ .nan) ∧
      bar.volume ≠ .nan := by
    simp [missing]
  constructor
  · intro h
    obtain ⟨hprices, hvolume⟩ := hmissing.mp h.complete
    exact ⟨⟨fun price hprice => Python.Float.zero_lt_iff.mpr
        ⟨hprices price hprice, h.positive price hprice⟩,
      Python.Float.zero_le_iff.mpr ⟨hvolume, h.volume⟩⟩,
      ⟨h.high_low, h.open_low, h.open_high, h.close_low, h.close_high⟩⟩
  · intro h
    obtain ⟨hpriced, hordered⟩ := h
    have hvolume := Python.Float.zero_le_iff.mp hpriced.volume
    exact
      { complete := hmissing.mpr ⟨fun price hprice =>
          (Python.Float.zero_lt_iff.mp (hpriced.prices price hprice)).1, hvolume.1⟩
        positive := fun price hprice =>
          (Python.Float.zero_lt_iff.mp (hpriced.prices price hprice)).2
        volume := hvolume.2
        high_low := hordered.high_low
        open_low := hordered.open_low
        open_high := hordered.open_high
        close_low := hordered.close_low
        close_high := hordered.close_high }

/-- The row with its prices on the other side of zero. -/
def mirrored (bar : RawBar) : RawBar :=
  { bar with
    open_ := bar.open_.neg
    high := bar.high.neg
    low := bar.low.neg
    close := bar.close.neg }

/-- The row with its close on the positive side. -/
def facing (bar : RawBar) : RawBar := if bar.close.lt (.num 0) then bar.mirrored else bar

/-- What rounding must leave of a positive row: the low does not vanish, and the
    adjusted close is still between the products. They are compared as exact
    numbers. -/
@[mk_iff]
structure Kept (bar : RawBar) : Prop where
  seen : (Python.Float.num (2 ^ (-1075 : ℤ))).lt (bar.low.mul bar.ratio) = true
  above : (bar.low.mul bar.ratio).Within bar.adj_close
  below : (bar.high.mul bar.ratio).Reaches bar.adj_close

instance (bar : RawBar) : Decidable bar.Kept := decidable_of_iff' _ (kept_iff bar)

/-- Two prices have products with the same nearest float. -/
def Merged (bar : RawBar) (price other : Python.Float) : Prop :=
  (price.mul bar.ratio).rounded = (other.mul bar.ratio).rounded

instance (bar : RawBar) (price other : Python.Float) : Decidable (bar.Merged price other) :=
  inferInstanceAs (Decidable (_ = _))

/-- Open, high and low are in order, or what is out of order cannot be told
    apart any more. -/
@[mk_iff]
structure Blurred (bar : RawBar) : Prop where
  high_low : bar.high.lt bar.low = true → bar.Merged bar.high bar.low
  open_low : bar.open_.lt bar.low = true → bar.Merged bar.open_ bar.low
  open_high : bar.high.lt bar.open_ = true → bar.Merged bar.high bar.open_

instance (bar : RawBar) : Decidable bar.Blurred := decidable_of_iff' _ (blurred_iff bar)

/-- A row that is sound once it is rescaled: its prices have the sign of its
    close, its adjusted close is positive, and in the direction of that sign it
    is in order as far as rounding tells. -/
structure Rescalable (bar : RawBar) : Prop where
  finite : bar.close.is_finite = true
  priced : bar.facing.Priced
  kept : bar.facing.Kept
  blurred : bar.facing.Blurred

/-! ## One row -/

section

variable {bar : RawBar}

theorem priced_iff : bar.Priced ↔
    (Python.Float.num 0).lt bar.open_ = true ∧ (Python.Float.num 0).lt bar.high = true ∧
      (Python.Float.num 0).lt bar.low = true ∧ (Python.Float.num 0).lt bar.close = true ∧
      (Python.Float.num 0).lt bar.adj_close = true ∧
      (Python.Float.num 0).le bar.volume = true := by
  constructor
  · intro h
    have hprices := h.prices
    simp only [prices, List.forall_mem_cons] at hprices
    obtain ⟨hopen, hhigh, hlow, hclose, hadj, -⟩ := hprices
    exact ⟨hopen, hhigh, hlow, hclose, hadj, h.volume⟩
  · intro h
    obtain ⟨hopen, hhigh, hlow, hclose, hadj, hvolume⟩ := h
    refine ⟨?_, hvolume⟩
    simp only [prices, List.forall_mem_cons]
    exact ⟨hopen, hhigh, hlow, hclose, hadj, by simp⟩

/-- Rescaling does not tell a row from its mirror image. -/
theorem adjusted_mirrored {c : ℚ} (hclose : bar.close = .num c) (hc : c ≠ 0) :
    bar.mirrored.adjusted = bar.adjusted := by
  have hratio : bar.mirrored.ratio = bar.ratio.neg := by
    show (bar.adj_close.div bar.close.neg).rounded = (bar.adj_close.div bar.close).rounded.neg
    rw [hclose, ← Python.Float.rounded_neg]
    exact congrArg Python.Float.rounded (Python.Float.div_num_neg hc)
  simp only [adjusted, hratio]
  simp only [mirrored, Python.Float.mul_of_neg]

/-- The ratio of positive closes is positive, or has vanished. -/
theorem zero_le_ratio {c : ℚ} (hclose : bar.close = .num c) (hc : 0 < c)
    (hadj : (Python.Float.num 0).lt bar.adj_close = true) :
    (Python.Float.num 0).le bar.ratio = true := by
  have hexact : (Python.Float.num 0).le (bar.adj_close.div bar.close) = true := by
    rw [hclose]
    cases hvalue : bar.adj_close with
    | nan =>
      rw [hvalue] at hadj
      cases hadj
    | inf negative =>
      rw [hvalue] at hadj
      obtain rfl : negative = false := by simpa [Python.Float.lt] using hadj
      simp [Python.Float.div, Python.Float.le, hc.le]
    | num a =>
      rw [hvalue] at hadj
      have ha : 0 < a := of_decide_eq_true hadj
      rw [Python.Float.div, if_neg hc.ne']
      exact decide_eq_true (div_pos ha hc).le
  have hrounded := Python.Float.rounded_le hexact
  rwa [Python.Float.rounded_zero] at hrounded

/-- Rounded products with a positive ratio keep an order. -/
theorem product_le {x y : Python.Float} (hratio : (Python.Float.num 0).lt bar.ratio = true)
    (hx : (Python.Float.num 0).lt x = true) (hy : (Python.Float.num 0).lt y = true)
    (h : y.lt x = false) :
    (x.mul bar.ratio).rounded.le (y.mul bar.ratio).rounded = true :=
  Python.Float.rounded_le (Python.Float.mul_le_mul hratio hx hy
    (Python.Float.le_of_not_lt (Python.Float.zero_lt_iff.mp hy).1
      (Python.Float.zero_lt_iff.mp hx).1 h))

/-- Two products stay in order when the prices were, or when they merge. -/
theorem product_not_lt_iff {x y : Python.Float}
    (hratio : (Python.Float.num 0).lt bar.ratio = true)
    (hx : (Python.Float.num 0).lt x = true) (hy : (Python.Float.num 0).lt y = true) :
    (x.mul bar.ratio).rounded.lt (y.mul bar.ratio).rounded = false ↔
      (x.lt y = true → bar.Merged x y) := by
  constructor
  · intro h hlt
    have hup : (x.mul bar.ratio).rounded.le (y.mul bar.ratio).rounded = true := by
      refine product_le hratio hx hy ?_
      cases hyx : y.lt x with
      | false => rfl
      | true => exact absurd hlt (by rw [Python.Float.lt_asymm hyx]; decide)
    have hdown := Python.Float.le_of_not_lt (Python.Float.ne_nan_of_le hup).1
      (Python.Float.ne_nan_of_le hup).2 h
    exact Python.Float.le_antisymm hup hdown
  · intro h
    cases hlt : x.lt y with
    | false => exact Python.Float.not_lt_of_le (product_le hratio hy hx hlt)
    | true =>
      rw [h hlt]
      exact Python.Float.lt_self _

/-- A row on the positive side. -/
theorem adjusted_sound_of_pos {c : ℚ} (hclose : bar.close = .num c) (hc : 0 < c) :
    bar.adjusted.Sound ↔ bar.Priced ∧ bar.Kept ∧ bar.Blurred := by
  have hclose_pos : (Python.Float.num 0).lt bar.close = true := by
    rw [hclose]
    exact decide_eq_true hc
  rw [sound_iff_priced, priced_iff, priced_iff, ordered_iff, kept_iff, blurred_iff]
  show ((Python.Float.num 0).lt (bar.open_.mul bar.ratio).rounded = true ∧
      (Python.Float.num 0).lt (bar.high.mul bar.ratio).rounded = true ∧
      (Python.Float.num 0).lt (bar.low.mul bar.ratio).rounded = true ∧
      (Python.Float.num 0).lt bar.adj_close = true ∧
      (Python.Float.num 0).lt bar.adj_close = true ∧
      (Python.Float.num 0).le bar.volume = true) ∧
    ((bar.high.mul bar.ratio).rounded.lt (bar.low.mul bar.ratio).rounded = false ∧
      (bar.open_.mul bar.ratio).rounded.lt (bar.low.mul bar.ratio).rounded = false ∧
      (bar.high.mul bar.ratio).rounded.lt (bar.open_.mul bar.ratio).rounded = false ∧
      bar.adj_close.lt (bar.low.mul bar.ratio).rounded = false ∧
      (bar.high.mul bar.ratio).rounded.lt bar.adj_close = false) ↔ _
  constructor
  · intro h
    obtain ⟨⟨hopen, hhigh, hlow, hadj, -, hvolume⟩, hhl, hol, hho, hcl, hch⟩ := h
    have hzero := zero_le_ratio hclose hc hadj
    obtain ⟨hopen', hratio⟩ :=
      Python.Float.zero_lt_of_mul hzero (Python.Float.zero_lt_of_rounded hopen)
    have hhigh' :=
      (Python.Float.zero_lt_of_mul hzero (Python.Float.zero_lt_of_rounded hhigh)).1
    have hlow' := (Python.Float.zero_lt_of_mul hzero (Python.Float.zero_lt_of_rounded hlow)).1
    refine ⟨⟨hopen', hhigh', hlow', hclose_pos, hadj, hvolume⟩,
      ⟨Python.Float.zero_lt_rounded_iff.mp hlow, ?_, ?_⟩,
      (product_not_lt_iff hratio hhigh' hlow').mp hhl,
      (product_not_lt_iff hratio hopen' hlow').mp hol,
      (product_not_lt_iff hratio hhigh' hopen').mp hho⟩
    · rw [← Python.Float.rounded_le_iff hadj]
      exact Python.Float.le_of_not_lt (Python.Float.zero_lt_iff.mp hadj).1
        (Python.Float.zero_lt_iff.mp hlow).1 hcl
    · rw [← Python.Float.le_rounded_iff hadj]
      exact Python.Float.le_of_not_lt (Python.Float.zero_lt_iff.mp hhigh).1
        (Python.Float.zero_lt_iff.mp hadj).1 hch
  · intro h
    obtain ⟨⟨hopen, hhigh, hlow, -, hadj, hvolume⟩, ⟨hseen, habove, hbelow⟩, hhl, hol, hho⟩ := h
    have hproduct := Python.Float.zero_lt_rounded_iff.mpr hseen
    have hratio := (Python.Float.zero_lt_of_mul (zero_le_ratio hclose hc hadj)
      (Python.Float.zero_lt_of_rounded hproduct)).2
    have hhl := (product_not_lt_iff hratio hhigh hlow).mpr hhl
    have hol := (product_not_lt_iff hratio hopen hlow).mpr hol
    have hho := (product_not_lt_iff hratio hhigh hopen).mpr hho
    -- Nothing that is not below the low vanishes either.
    have hpositive : ∀ {x : Python.Float}, (Python.Float.num 0).lt x = true →
        (x.mul bar.ratio).rounded.lt (bar.low.mul bar.ratio).rounded = false →
        (Python.Float.num 0).lt (x.mul bar.ratio).rounded = true := by
      intro x hx hxl
      have hself : (x.mul bar.ratio).rounded.le (x.mul bar.ratio).rounded = true :=
        product_le hratio hx hx (Python.Float.lt_self x)
      exact Python.Float.zero_lt_of_le hproduct (Python.Float.le_of_not_lt
        (Python.Float.ne_nan_of_le hself).1 (Python.Float.zero_lt_iff.mp hproduct).1 hxl)
    refine ⟨⟨hpositive hopen hol, hpositive hhigh hhl, hproduct, hadj, hadj, hvolume⟩,
      hhl, hol, hho, ?_, ?_⟩
    · exact Python.Float.not_lt_of_le ((Python.Float.rounded_le_iff hadj).mpr habove)
    · exact Python.Float.not_lt_of_le ((Python.Float.le_rounded_iff hadj).mpr hbelow)

/-- A ratio to a close that is not a number is zero or undefined. -/
theorem not_adjusted_sound_of_infinite (hclose : bar.close.is_finite = false) :
    ¬ bar.adjusted.Sound := by
  intro h
  have hopen := (priced_iff.mp (sound_iff_priced.mp h).1).1
  have hratio : bar.ratio = .num 0 ∨ bar.ratio = .nan := by
    unfold ratio
    cases hc : bar.close with
    | num c =>
      rw [hc] at hclose
      cases hclose
    | nan => cases bar.adj_close <;> exact Or.inr rfl
    | inf s =>
      cases bar.adj_close with
      | num a => exact Or.inl Python.Float.rounded_zero
      | nan => exact Or.inr rfl
      | inf t => exact Or.inr rfl
  have hopen' : (Python.Float.num 0).lt (bar.open_.mul bar.ratio).rounded = false := by
    rcases hratio with hratio | hratio
    · rw [hratio]
      cases bar.open_ with
      | nan => rfl
      | inf s => simp [Python.Float.mul, Python.Float.rounded, Python.Float.lt]
      | num x =>
        rw [Python.Float.mul, mul_zero, Python.Float.rounded_zero]
        rfl
    · rw [hratio]
      cases bar.open_ <;> rfl
  exact absurd (hopen'.symm.trans hopen) (by decide)

/-- The rows that are sound once they are rescaled. -/
theorem adjusted_sound_iff (hclose : bar.close ≠ .num 0) : bar.adjusted.Sound ↔ bar.Rescalable := by
  cases hfinite : bar.close.is_finite with
  | false =>
    refine iff_of_false (not_adjusted_sound_of_infinite hfinite) fun h => ?_
    exact absurd (hfinite.symm.trans h.finite) (by decide)
  | true =>
    obtain ⟨c, hc⟩ := Python.Float.is_finite_iff.mp hfinite
    have hsplit : bar.Rescalable ↔
        bar.facing.Priced ∧ bar.facing.Kept ∧ bar.facing.Blurred :=
      ⟨fun h => ⟨h.priced, h.kept, h.blurred⟩, fun h => ⟨hfinite, h.1, h.2.1, h.2.2⟩⟩
    have hzero : c ≠ 0 := by
      rintro rfl
      exact hclose hc
    rw [hsplit]
    rcases lt_or_gt_of_ne hzero with hneg | hpos
    · have hfacing : bar.facing = bar.mirrored := by
        rw [facing, hc]
        exact if_pos (decide_eq_true hneg)
      have hmirror : bar.mirrored.close = .num (-c) := by
        rw [mirrored, hc]
        rfl
      rw [hfacing, ← adjusted_mirrored hc hzero,
        adjusted_sound_of_pos hmirror (neg_pos.mpr hneg)]
    · have hfacing : bar.facing = bar := by
        rw [facing, hc]
        exact if_neg (by simpa [Python.Float.lt] using hpos.le)
      rw [hfacing, adjusted_sound_of_pos hc hpos]

theorem facing_of_pos (h : bar.close.lt (.num 0) = false) : bar.facing = bar := by
  rw [facing, h]
  rfl

/-- The close of a sound row is positive. -/
theorem Sound.close_pos (h : bar.Sound) : bar.close.lt (.num 0) = false := by
  obtain ⟨-, -, -, hclose, -⟩ := priced_iff.mp (sound_iff_priced.mp h).1
  cases hc : bar.close with
  | nan => rfl
  | inf negative =>
    rw [hc] at hclose
    cases negative with
    | true => cases hclose
    | false => rfl
  | num c =>
    rw [hc] at hclose
    exact decide_eq_false (lt_asymm (of_decide_eq_true hclose))

/-- What is in order has nothing to merge. -/
theorem Ordered.blurred (h : bar.Ordered) : bar.Blurred where
  high_low := fun hlt => absurd (h.high_low.symm.trans hlt) (by decide)
  open_low := fun hlt => absurd (h.open_low.symm.trans hlt) (by decide)
  open_high := fun hlt => absurd (h.open_high.symm.trans hlt) (by decide)

/-- The sound rows that stay sound. -/
theorem Sound.rescalable_iff (h : bar.Sound) :
    bar.Rescalable ↔ bar.close.is_finite = true ∧ bar.Kept := by
  obtain ⟨hpriced, hordered⟩ := sound_iff_priced.mp h
  have hfacing := facing_of_pos h.close_pos
  constructor
  · intro hrescalable
    exact ⟨hrescalable.finite, hfacing ▸ hrescalable.kept⟩
  · intro h
    obtain ⟨hfinite, hkept⟩ := h
    exact ⟨hfinite, hfacing.symm ▸ hpriced, hfacing.symm ▸ hkept,
      hfacing.symm ▸ hordered.blurred⟩

/-- The rows that were sound before. -/
theorem Rescalable.sound (h : bar.Rescalable) (hpos : bar.close.lt (.num 0) = false)
    (hordered : bar.Ordered) : bar.Sound :=
  sound_iff_priced.mpr ⟨facing_of_pos hpos ▸ h.priced, hordered⟩

/-! ## Ordinary prices

    Rounding moves the ratio by a factor of at most `2^-53`, and two floats are
    further apart than that. -/

section Ordinary

variable {a c h l : ℚ}

/-- Floats, the close between low and high, with a ratio of full precision. -/
structure Ordinary (bar : RawBar) (a c h l : ℚ) : Prop where
  adj_close : bar.adj_close = .num a
  close : bar.close = .num c
  high : bar.high = .num h
  low : bar.low = .num l
  floats : ∀ x ∈ [a, c, h, l], Binary64.round x = x
  positive : 0 < l
  close_low : l ≤ c
  close_high : c ≤ h
  normal : 2 ^ (-1022 : ℤ) ≤ a / c
  fits : ¬ Binary64.Overflows (a / c)
  bounded : a < 2 ^ 1024

variable (ho : bar.Ordinary a c h l)

include ho

theorem Ordinary.close_pos : 0 < c := ho.positive.trans_le ho.close_low

theorem Ordinary.adj_pos : 0 < a := by
  have hratio : 0 < a / c := (zpow_pos two_pos _).trans_le ho.normal
  exact (div_pos_iff_of_pos_right ho.close_pos).mp hratio

theorem Ordinary.ratio_eq : bar.ratio = .num (Binary64.round (a / c)) := by
  rw [ratio, ho.adj_close, ho.close, Python.Float.div, if_neg ho.close_pos.ne']
  exact if_neg ho.fits

/-- The error of the ratio, on the scale of the adjusted close. -/
theorem Ordinary.abs_sub_le : |c * Binary64.round (a / c) - a| ≤ a * 2 ^ (-53 : ℤ) := by
  have hc := ho.close_pos
  have herror := Binary64.abs_round_sub_le (div_pos ho.adj_pos hc) ho.normal
  calc |c * Binary64.round (a / c) - a| = c * |Binary64.round (a / c) - a / c| := by
        rw [← abs_of_pos hc, ← abs_mul, abs_of_pos hc, mul_sub, mul_div_cancel₀ _ hc.ne']
    _ ≤ c * (a / c * 2 ^ (-53 : ℤ)) := mul_le_mul_of_nonneg_left herror hc.le
    _ = a * 2 ^ (-53 : ℤ) := by rw [← mul_assoc, mul_div_cancel₀ _ hc.ne']

/-- A low below the close is below it by more than the error. -/
theorem Ordinary.product_le (hlt : l < c) : l * Binary64.round (a / c) ≤ a := by
  have hgap := Binary64.le_mul_of_lt (ho.floats l (by simp)) (ho.floats c (by simp))
    ho.positive hlt
  have hratio : 0 ≤ Binary64.round (a / c) :=
    Binary64.round_nonneg (div_pos ho.adj_pos ho.close_pos).le
  have herror := (abs_le.mp ho.abs_sub_le).2
  have hfactor : (0 : ℚ) ≤ 1 - 2 ^ (-53 : ℤ) := by norm_num
  calc l * Binary64.round (a / c)
      ≤ c * (1 - 2 ^ (-53 : ℤ)) * Binary64.round (a / c) :=
        mul_le_mul_of_nonneg_right hgap hratio
    _ = c * Binary64.round (a / c) * (1 - 2 ^ (-53 : ℤ)) := by ring
    _ ≤ a * (1 + 2 ^ (-53 : ℤ)) * (1 - 2 ^ (-53 : ℤ)) :=
        mul_le_mul_of_nonneg_right (by linarith) hfactor
    _ = a - a * (2 ^ (-53 : ℤ)) ^ 2 := by ring
    _ ≤ a := sub_le_self a (mul_nonneg ho.adj_pos.le (sq_nonneg _))

/-- A high above the close is above it by more than the error. -/
theorem Ordinary.le_product (hlt : c < h) : a ≤ h * Binary64.round (a / c) := by
  have hgap := Binary64.le_mul_of_lt (ho.floats c (by simp)) (ho.floats h (by simp))
    ho.close_pos hlt
  have hratio : 0 ≤ Binary64.round (a / c) :=
    Binary64.round_nonneg (div_pos ho.adj_pos ho.close_pos).le
  have herror := (abs_le.mp ho.abs_sub_le).1
  have hfactor : (0 : ℚ) < 1 - 2 ^ (-53 : ℤ) := by norm_num
  refine le_of_mul_le_mul_right ?_ hfactor
  calc a * (1 - 2 ^ (-53 : ℤ)) ≤ c * Binary64.round (a / c) := by linarith
    _ ≤ h * (1 - 2 ^ (-53 : ℤ)) * Binary64.round (a / c) :=
        mul_le_mul_of_nonneg_right hgap hratio
    _ = h * Binary64.round (a / c) * (1 - 2 ^ (-53 : ℤ)) := by ring

/-- Only a row that closes at its low or at its high can lose its order, and a
    row with very small prices its low. -/
theorem kept_iff_of_ordinary : bar.Kept ↔
    2 ^ (-1075 : ℤ) < l * Binary64.round (a / c) ∧
      (l = c → (Python.Float.num (c * Binary64.round (a / c))).Within (.num a)) ∧
      (h = c → (Python.Float.num (c * Binary64.round (a / c))).Reaches (.num a)) := by
  have hadj : (Python.Float.num 0).lt (.num a) = true := decide_eq_true ho.adj_pos
  -- The adjusted close is its own nearest float.
  have hself : (Python.Float.num a).rounded = .num a := by
    have hround := ho.floats a (by simp)
    have hsmall : ¬ Binary64.Overflows a := by
      rw [Binary64.Overflows, hround, abs_of_pos ho.adj_pos]
      exact not_le.mpr ho.bounded
    show Python.Float.of_exact a = .num a
    rw [Python.Float.of_exact, if_neg hsmall, hround]
  rw [kept_iff, ho.ratio_eq, ho.low, ho.high, ho.adj_close]
  show decide (2 ^ (-1075 : ℤ) < l * Binary64.round (a / c)) = true ∧
      (Python.Float.num (l * Binary64.round (a / c))).Within (.num a) ∧
      (Python.Float.num (h * Binary64.round (a / c))).Reaches (.num a) ↔ _
  rw [decide_eq_true_iff]
  refine and_congr_right fun _ => and_congr ?_ ?_
  · rcases ho.close_low.lt_or_eq with hlt | rfl
    · refine iff_of_true ?_ fun heq => absurd heq hlt.ne
      rw [← Python.Float.rounded_le_iff hadj]
      have hle := Python.Float.rounded_le
        (show (Python.Float.num _).le (.num a) = true from decide_eq_true (ho.product_le hlt))
      rwa [hself] at hle
    · simp
  · rcases ho.close_high.lt_or_eq with hlt | rfl
    · refine iff_of_true ?_ fun heq => absurd heq hlt.ne'
      rw [← Python.Float.le_rounded_iff hadj]
      have hle := Python.Float.rounded_le
        (show (Python.Float.num a).le (.num _) = true from decide_eq_true (ho.le_product hlt))
      rwa [hself] at hle
    · simp

end Ordinary

end

end RawBar

/-! ## A frame -/

section

variable {frame : RawFrame}

theorem accepted_iff {symbol interval : String} :
    (∃ report, validate_prices frame symbol interval = .ok report) ↔ violations frame = [] := by
  simp only [validate_prices_eq_ok, exists_and_left, exists_eq', and_true]

/-- The timestamps stay, and each row is rescaled by itself. -/
theorem adjusted_accepted_iff (hclose : ∀ bar ∈ frame, bar.close ≠ .num 0) :
    violations (apply_adjustment frame) = [] ↔
      (frame.map RawBar.timestamp).Pairwise (· < ·) ∧ ∀ bar ∈ frame, bar.Rescalable := by
  have hframe : apply_adjustment frame = frame.map RawBar.adjusted := rfl
  have hindex : (frame.map RawBar.adjusted).map RawBar.timestamp = frame.map RawBar.timestamp := by
    rw [List.map_map]
    rfl
  rw [violations_eq_nil_iff, hframe, hindex, List.forall_mem_map]
  refine and_congr_right fun _ => forall₂_congr fun bar hbar => ?_
  exact RawBar.adjusted_sound_iff (hclose bar hbar)

/-- Adjustment hides no bad row when the rows that it makes sound were positive
    and in order, and creates none when the closes of sound rows are numbers and
    rounding keeps these rows. -/
theorem adjustment_exact_iff (symbol interval : String)
    (hclose : ∀ bar ∈ frame, bar.close ≠ .num 0) :
    ((∃ report, validate_prices (apply_adjustment frame) symbol interval = .ok report) ↔
      ∃ report, validate_prices frame symbol interval = .ok report) ↔
    ((frame.map RawBar.timestamp).Pairwise (· < ·) →
      ((∀ bar ∈ frame, bar.Rescalable) →
        ∀ bar ∈ frame, bar.close.lt (.num 0) = false ∧ bar.Ordered) ∧
      ((∀ bar ∈ frame, bar.Sound) →
        ∀ bar ∈ frame, bar.close.is_finite = true ∧ bar.Kept)) := by
  rw [accepted_iff, accepted_iff, adjusted_accepted_iff hclose, violations_eq_nil_iff,
    and_congr_right_iff]
  refine imp_congr_right fun _ => ?_
  constructor
  · intro hsame
    refine ⟨fun hrescalable bar hbar => ?_, fun hsound bar hbar => ?_⟩
    · have hsound := hsame.mp hrescalable bar hbar
      exact ⟨hsound.close_pos, (RawBar.sound_iff_priced.mp hsound).2⟩
    · exact (hsound bar hbar).rescalable_iff.mp (hsame.mpr hsound bar hbar)
  · intro h
    obtain ⟨hhidden, hcreated⟩ := h
    refine ⟨fun hrescalable bar hbar => ?_, fun hsound bar hbar => ?_⟩
    · obtain ⟨hpos, hordered⟩ := hhidden hrescalable bar hbar
      exact (hrescalable bar hbar).sound hpos hordered
    · exact (hsound bar hbar).rescalable_iff.mpr (hcreated hsound bar hbar)

end

/-- A bar before and a bar after a split of one to two. -/
def split_frame : RawFrame :=
  [⟨1704067200000000000, .num 100, .num 110, .num 90, .num 104, .num 52, .num 1000⟩,
    ⟨1704153600000000000, .num 50, .num 55, .num 45, .num 52, .num 52, .num 2000⟩]

theorem adjustment_exact_across_a_split :
    (∃ report, validate_prices (apply_adjustment split_frame) "NIFTY" "1d" = .ok report) ↔
      ∃ report, validate_prices split_frame "NIFTY" "1d" = .ok report :=
  (adjustment_exact_iff "NIFTY" "1d" (by decide)).mpr fun _ =>
    ⟨fun _ => by decide +kernel, fun _ => by decide +kernel⟩

/-- A bar whose prices have lost their sign. -/
def negative_frame : RawFrame :=
  [⟨1704067200000000000, .num (-10), .num (-11), .num (-9), .num (-10), .num 10, .num 1000⟩]

def sign_slip : PriceProvider where
  name := "yfinance"
  fetch _ _ _ _ := .ok negative_frame

/-- A bar that closes at its high, before a dividend. -/
def dividend_frame : RawFrame :=
  [⟨1704067200000000000, .num 21.5, .num 22, .num 21, .num 22, .num 15, .num 1000⟩]

/-- A frame that breaks four rules is returned as a bar with positive prices; a
    frame that breaks none is refused, since `15 / 22 * 22` is less than 15. -/
theorem negative_bar_accepted :
    ((∀ bar ∈ negative_frame, bar.close ≠ .num 0) ∧
      HardRule.report negative_frame = [("non_positive_price", 1), ("high_below_low", 1),
        ("open_out_of_range", 1), ("close_out_of_range", 1)] ∧
      ¬ ((∃ report, validate_prices (apply_adjustment negative_frame) "NIFTY" "1d" = .ok report) ↔
        ∃ report, validate_prices negative_frame "NIFTY" "1d" = .ok report) ∧
      (get_prices default sign_slip "NIFTY" "2024-01-01" "2024-01-01" "1d").toOption.map
          (fun series => series.frame)
        = some [⟨1704067200000000000, .num 10, .num 11, .num 9, .num 10, .num 10, .num 1000⟩]) ∧
    ((∀ bar ∈ dividend_frame, bar.close ≠ .num 0) ∧
      HardRule.report dividend_frame = [] ∧
      HardRule.report (apply_adjustment dividend_frame) = [("close_out_of_range", 1)] ∧
      ¬ ((∃ report, validate_prices (apply_adjustment dividend_frame) "NIFTY" "1d" = .ok report) ↔
        ∃ report, validate_prices dividend_frame "NIFTY" "1d" = .ok report)) := by
  refine ⟨⟨by decide, by decide +kernel, ?_, by decide +kernel⟩,
    ⟨by decide, by decide +kernel, by decide +kernel, ?_⟩⟩
  · rw [accepted_iff, accepted_iff]
    decide +kernel
  · rw [accepted_iff, accepted_iff]
    decide +kernel

end Quantora
