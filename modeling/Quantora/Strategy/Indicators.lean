import Mathlib.Algebra.BigOperators.Group.List.Basic
import Mathlib.Order.Lattice
import Quantora.Framework.Causal
import Quantora.Python.Cells
import Quantora.Python.Runtime

/-! # Indicators

    The indicator library: functions from columns to columns, with NaN during
    the warm-up. The window checks of the source are not repeated here: the
    bounds of the strategies' parameters imply them.

    * `rolling` — a statistic of the last `window` values, NaN when one of them
      is missing.
    * `ema` — seeded with the mean of the first `span` values.
    * Each indicator is causal, by the closure rules.
-/

namespace Quantora

namespace indicators

open Column

/-! ## Rolling windows -/

/-- `rolling(window, min_periods=window)`: a statistic of each full window. -/
def rolling {α : Type} (window : ℕ) (statistic : List α → Cell) (xs : List (Option α)) :
    List Cell :=
  prefixes (fun seen =>
    -- `mapM id` is NaN as soon as one value of the window is.
    if seen.length < window then none
    else ((seen.drop (seen.length - window)).mapM id).bind statistic) xs

theorem causal_rolling {α : Type} (window : ℕ) (statistic : List α → Cell) :
    Causal (rolling window statistic) := by
  unfold rolling
  exact Causal.prefixes _

def mean (values : List ℚ) : ℚ := values.sum / values.length

/-- Population variance (`ddof=0`). -/
def variance (values : List ℚ) : ℚ :=
  mean (values.map (fun x => (x - mean values) * (x - mean values)))

/-- Population covariance of two columns (`ddof=0`). -/
def covariance (values : List (ℚ × ℚ)) : ℚ :=
  let mean_a := mean (values.map Prod.fst)
  let mean_b := mean (values.map Prod.snd)
  mean (values.map (fun x => (x.1 - mean_a) * (x.2 - mean_b)))

def sma (xs : List Cell) (window : ℕ) : List Cell := rolling window (fun v => some (mean v)) xs

def rolling_var (xs : List Cell) (window : ℕ) : List Cell :=
  rolling window (fun v => some (variance v)) xs

def rolling_std (rt : Runtime) (xs : List Cell) (window : ℕ) : List Cell :=
  rolling window (fun v => some (rt.sqrt (variance v))) xs

/-- `rolling_a.cov(b, ddof=0)`. -/
def rolling_cov (a b : List Cell) (window : ℕ) : List Cell :=
  rolling window (fun v => some (covariance v)) (List.zipWith (Option.map₂ Prod.mk) a b)

/-- `x.shift(1)`. -/
def shift (xs : List Cell) : List Cell := (Column.shift xs).map Option.join

/-- `x.diff()`. -/
def diff (xs : List Cell) : List Cell := List.zipWith Cell.sub xs (shift xs)

/-! ## Moving averages -/

/-- The loop of `ema` after its seed. -/
def ema_loop (alpha : ℚ) : ℚ → List ℚ → List Cell :=
  scan (fun current value =>
    (alpha * value + (1 - alpha) * current, some (alpha * value + (1 - alpha) * current)))

def ema (values : List ℚ) (span : ℕ) : List Cell :=
  if values.length < span then List.replicate values.length none
  else
    let seed := mean (values.take span)
    List.replicate (span - 1) none ++ some seed :: ema_loop (2 / (span + 1)) seed (values.drop span)

/-- The seed and the loop see the first values first. -/
theorem causal_ema {span : ℕ} (hspan : 1 ≤ span) : Causal (fun values => ema values span) where
  length values := by
    unfold ema
    by_cases hlen : values.length < span
    · rw [if_pos hlen, List.length_replicate]
    · have hloop : ∀ seed, (ema_loop (2 / (span + 1)) seed (values.drop span)).length
          = values.length - span := fun seed => by
        rw [ema_loop, (Causal.scan _ _).length, List.length_drop]
      rw [if_neg hlen]
      simp only [List.length_append, List.length_replicate, List.length_cons, hloop]
      omega
  take values k := by
    simp only [ema, List.length_take]
    by_cases hk : k < span
    · rw [if_pos (show min k values.length < span by omega)]
      by_cases hlen : values.length < span
      · rw [if_pos hlen, List.take_replicate]
      · rw [if_neg hlen, List.take_append_of_le_length (by simp; omega), List.take_replicate]
        congr 1
        omega
    · by_cases hlen : values.length < span
      · rw [if_pos hlen, if_pos (show min k values.length < span by omega), List.take_replicate]
      · have hseed : (values.take k).take span = values.take span := by
          rw [List.take_take, Nat.min_eq_left (by omega)]
        have hrest : (values.take k).drop span = (values.drop span).take (k - span) :=
          List.drop_take ..
        have hk' : k = (span - 1) + ((k - span) + 1) := by omega
        rw [if_neg hlen, if_neg (show ¬ min k values.length < span by omega), hseed, hrest]
        conv_lhs => rw [hk']
        rw [List.take_append, List.length_replicate, List.take_of_length_le (by simp)]
        rw [show (span - 1) + ((k - span) + 1) - (span - 1) = (k - span) + 1 by omega,
          List.take_succ_cons, ema_loop, (Causal.scan _ _).take]

/-! ## MACD -/

structure MACDResult where
  macd : List Cell
  signal : List Cell
  histogram : List Cell

/-- The signal line is an average of the MACD values that exist, put back on
    the index of the line. -/
def macd (values : List ℚ) (fast slow signal : ℕ) : MACDResult :=
  let macd_line := List.zipWith Cell.sub (ema values fast) (ema values slow)
  let signal_line := onDefined (fun seeded => ema seeded signal) macd_line
  { macd := macd_line
    signal := signal_line
    histogram := List.zipWith Cell.sub macd_line signal_line }

/-! ## Bollinger bands -/

structure BollingerResult where
  middle : List Cell
  upper : List Cell
  lower : List Cell
  bandwidth : List Cell
  percent_b : List Cell

def bollinger_bands (rt : Runtime) (series : List Cell) (window : ℕ) (num_std : Cell) :
    BollingerResult :=
  let middle := sma series window
  let width := (rolling_std rt series window).map (Cell.mul num_std)
  let upper := List.zipWith Cell.add middle width
  let lower := List.zipWith Cell.sub middle width
  let band_width := List.zipWith Cell.sub upper lower
  { middle := middle
    upper := upper
    lower := lower
    bandwidth := List.zipWith Cell.div band_width middle
    percent_b := List.zipWith Cell.div (List.zipWith Cell.sub series lower)
      (band_width.map Cell.mask_zero) }

/-! ## Statistics of a spread -/

def rolling_zscore (rt : Runtime) (series : List Cell) (window : ℕ) : List Cell :=
  let dispersion := rolling_std rt series window
  List.zipWith Cell.div (List.zipWith Cell.sub series (sma series window))
    -- A window without dispersion has no z-score.
    (dispersion.map Cell.where_positive)

def rolling_correlation (rt : Runtime) (a b : List Cell) (window : ℕ) : List Cell :=
  let denominator :=
    (List.zipWith Cell.mul (rolling_var a window) (rolling_var b window)).map (·.map rt.sqrt)
  (List.zipWith Cell.div (rolling_cov a b window) (denominator.map Cell.where_positive)).map
    (Cell.clip (-1) 1)

/-- The slope of `a` regressed on `b` over the trailing window. -/
def hedge_ratio (a b : List Cell) (window : ℕ) : List Cell :=
  List.zipWith Cell.div (rolling_cov a b window) ((rolling_var b window).map Cell.where_positive)

/-! ## The last window -/

/-- A window is only read when all of its values are there. -/
theorem mapM_id_eq_some {α : Type} {xs : List (Option α)} {ys : List α} :
    xs.mapM id = some ys ↔ xs = ys.map some := by
  induction xs generalizing ys with
  | nil => cases ys <;> simp
  | cons x xs ih =>
    rw [List.mapM_cons]
    constructor
    · intro h
      obtain ⟨y, hy, h⟩ := Option.bind_eq_some_iff.mp h
      obtain ⟨rest, hrest, h⟩ := Option.bind_eq_some_iff.mp h
      rw [← Option.some.inj h, ih.mp hrest]
      exact congrArg (· :: _) hy
    · intro h
      cases ys with
      | nil => cases h
      | cons y ys =>
        obtain ⟨rfl, hrest⟩ := List.cons.inj h
        rw [ih.mpr hrest]
        rfl

theorem mapM_id_map_some {α : Type} (xs : List α) : (xs.map some).mapM id = some xs :=
  mapM_id_eq_some.mpr rfl

/-- A window as long as the column ends with the statistic of the column. -/
theorem getLast?_rolling {α : Type} (statistic : List α → Cell) {xs : List α} (h : xs ≠ []) :
    (rolling xs.length statistic (xs.map some)).getLast? = some (statistic xs) := by
  unfold rolling
  rw [getLast?_prefixes _ (by simpa using h), List.length_map, if_neg (lt_irrefl _), Nat.sub_self,
    List.drop_zero, mapM_id_map_some]
  rfl

theorem getLast?_hedge_ratio {a b : List ℚ} (hlen : a.length = b.length) (h : b ≠ []) :
    (hedge_ratio (a.map some) (b.map some) b.length).getLast?
      = some (Cell.div (some (covariance (a.zip b)))
          (Cell.where_positive (some (variance b)))) := by
  have hpairs : List.zipWith (Option.map₂ Prod.mk) (a.map some) (b.map some)
      = (a.zip b).map some := by
    rw [List.zipWith_map, List.zip_eq_zipWith, List.map_zipWith]
    rfl
  have hzip : (a.zip b).length = b.length := by
    rw [List.length_zip, hlen, Nat.min_self]
  have hne : a.zip b ≠ [] := by
    rwa [← List.length_pos_iff, hzip, List.length_pos_iff]
  have hcov := getLast?_rolling (fun v => some (covariance v)) hne
  rw [hzip] at hcov
  have hvar : ((rolling_var (b.map some) b.length).map Cell.where_positive).getLast?
      = some (Cell.where_positive (some (variance b))) := by
    rw [List.getLast?_map]
    unfold rolling_var
    rw [getLast?_rolling (fun v => some (variance v)) h]
    rfl
  unfold hedge_ratio rolling_cov
  rw [hpairs]
  refine getLast?_zipWith _ ?_ hcov hvar
  rw [List.length_map, (causal_rolling _ _).length, List.length_map, hzip, rolling_var,
    (causal_rolling _ _).length, List.length_map]

/-! ## Causality -/

section Causality

variable {α : Type} {F G : List α → List Cell}

theorem causal_sma (hF : Causal F) (window : ℕ) : Causal (fun xs => sma (F xs) window) :=
  (causal_rolling window _).comp hF

theorem causal_rolling_var (hF : Causal F) (window : ℕ) :
    Causal (fun xs => rolling_var (F xs) window) :=
  (causal_rolling window _).comp hF

theorem causal_rolling_std (rt : Runtime) (hF : Causal F) (window : ℕ) :
    Causal (fun xs => rolling_std rt (F xs) window) :=
  (causal_rolling window _).comp hF

theorem causal_rolling_cov (hF : Causal F) (hG : Causal G) (window : ℕ) :
    Causal (fun xs => rolling_cov (F xs) (G xs) window) :=
  (causal_rolling window _).comp (hF.zipWith _ hG)

theorem causal_shift (hF : Causal F) : Causal (fun xs => shift (F xs)) :=
  (Causal.shift.comp hF).map _

theorem causal_diff (hF : Causal F) : Causal (fun xs => diff (F xs)) :=
  hF.zipWith _ (causal_shift hF)

theorem causal_rolling_zscore (rt : Runtime) (hF : Causal F) (window : ℕ) :
    Causal (fun xs => rolling_zscore rt (F xs) window) :=
  (hF.zipWith _ (causal_sma hF window)).zipWith _ ((causal_rolling_std rt hF window).map _)

theorem causal_rolling_correlation (rt : Runtime) (hF : Causal F) (hG : Causal G) (window : ℕ) :
    Causal (fun xs => rolling_correlation rt (F xs) (G xs) window) :=
  ((causal_rolling_cov hF hG window).zipWith _
    ((((causal_rolling_var hF window).zipWith _ (causal_rolling_var hG window)).map _).map _)).map _

theorem causal_hedge_ratio (hF : Causal F) (hG : Causal G) (window : ℕ) :
    Causal (fun xs => hedge_ratio (F xs) (G xs) window) :=
  (causal_rolling_cov hF hG window).zipWith _ ((causal_rolling_var hG window).map _)

/-- Every column of a MACD is causal. -/
theorem causal_macd {values : List α → List ℚ} (hvalues : Causal values) {fast slow signal : ℕ}
    (hfast : 1 ≤ fast) (hslow : 1 ≤ slow) (hsignal : 1 ≤ signal) :
    Causal (fun xs => (macd (values xs) fast slow signal).macd) ∧
      Causal (fun xs => (macd (values xs) fast slow signal).signal) ∧
      Causal (fun xs => (macd (values xs) fast slow signal).histogram) := by
  have hline : Causal (fun xs => (macd (values xs) fast slow signal).macd) :=
    ((causal_ema hfast).comp hvalues).zipWith _ ((causal_ema hslow).comp hvalues)
  have hsignal : Causal (fun xs => (macd (values xs) fast slow signal).signal) :=
    (Causal.onDefined (causal_ema hsignal)).comp hline
  exact ⟨hline, hsignal, hline.zipWith _ hsignal⟩

/-- Every column of the Bollinger bands is causal. -/
theorem causal_bollinger_bands (rt : Runtime) (hF : Causal F) (window : ℕ) (num_std : Cell) :
    Causal (fun xs => (bollinger_bands rt (F xs) window num_std).middle) ∧
      Causal (fun xs => (bollinger_bands rt (F xs) window num_std).upper) ∧
      Causal (fun xs => (bollinger_bands rt (F xs) window num_std).lower) ∧
      Causal (fun xs => (bollinger_bands rt (F xs) window num_std).bandwidth) ∧
      Causal (fun xs => (bollinger_bands rt (F xs) window num_std).percent_b) := by
  have hmiddle : Causal (fun xs => (bollinger_bands rt (F xs) window num_std).middle) :=
    causal_sma hF window
  have hwidth : Causal (fun xs => (rolling_std rt (F xs) window).map (Cell.mul num_std)) :=
    (causal_rolling_std rt hF window).map _
  have hupper : Causal (fun xs => (bollinger_bands rt (F xs) window num_std).upper) :=
    hmiddle.zipWith _ hwidth
  have hlower : Causal (fun xs => (bollinger_bands rt (F xs) window num_std).lower) :=
    hmiddle.zipWith _ hwidth
  have hband := hupper.zipWith Cell.sub hlower
  exact ⟨hmiddle, hupper, hlower, hband.zipWith _ hmiddle,
    (hF.zipWith _ hlower).zipWith _ (hband.map _)⟩

end Causality

end indicators

end Quantora
