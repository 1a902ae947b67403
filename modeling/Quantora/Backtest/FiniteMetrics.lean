import Mathlib.Analysis.SpecialFunctions.Pow.Real
import Quantora.Framework.Outcome
import Quantora.Framework.Peaks
import Quantora.Backtest.Metrics
import Quantora.Backtest.Targets

/-! # Metrics are finite or explained

    Ten metrics may be `None`, and `unavailable` then says why. The others are not
    finite when a step from a zero equity is infinite, which `dropna` keeps, or
    when a result is past the largest float. A power that is raises instead.

    * `powerOverflows_iff` — the powers that raise, by the power of real numbers.
    * `is_finite_*` — over finite returns, every metric that exists is finite.
    * `Metrics.floats` — the metrics as the machine holds them.
    * `not_explained` and its neighbours — `unavailable` names exactly the
      metrics that are `None`.
    * `head?_equity_curve` — a curve starts at the initial cash, so peaks are
      positive and an infinite return is never alone.
    * `metrics.not_rateOverflows` — of the powers only the annual rate can raise.
    * `metrics_finite_iff` — for any run over given targets. -/

namespace Quantora

/-! ## Powers -/

section Powers

variable {x y : ℚ}

/-- The powers that raise are those whose exact value is past the largest float. -/
theorem powerOverflows_iff (hx : 0 ≤ x) (hy : 0 < y) :
    Python.PowerOverflows x y ↔ (2 ^ 1024 - 2 ^ 970 : ℝ) ≤ (x : ℝ) ^ (y : ℝ) := by
  have hx' : (0 : ℝ) ≤ x := by exact_mod_cast hx
  have hlimit : (0 : ℝ) ≤ 2 ^ 1024 - 2 ^ 970 :=
    sub_nonneg.mpr (pow_le_pow_right₀ one_le_two (by decide))
  have hnum : ((y.num.toNat : ℕ) : ℝ) = (y : ℝ) * y.den := by
    have hcast : (y.num.toNat : ℤ) = y.num := Int.toNat_of_nonneg (Rat.num_nonneg.mpr hy.le)
    have hq : ((y.num.toNat : ℕ) : ℚ) = y * y.den := by
      rw [Rat.mul_den_eq_num]
      exact_mod_cast hcast
    exact_mod_cast hq
  have hpower : ((x : ℝ) ^ (y : ℝ)) ^ y.den = (x : ℝ) ^ y.num.toNat := by
    rw [← Real.rpow_natCast, ← Real.rpow_mul hx', ← hnum, Real.rpow_natCast]
  rw [← pow_le_pow_iff_left₀ hlimit (Real.rpow_nonneg hx' _) y.den_ne_zero, hpower,
    Python.PowerOverflows, ← Rat.cast_le (K := ℝ)]
  push_cast
  rfl

theorem two_lt_range : (2 : ℚ) < 2 ^ 1024 - 2 ^ 970 := by decide +kernel

/-- No root of a number up to two overflows. -/
theorem not_powerOverflows_of_root (hx : 0 ≤ x) (htwo : x ≤ 2) (hone : y ≤ 1) :
    ¬ Python.PowerOverflows x y := by
  intro hover
  have hexponent : y.num.toNat ≤ y.den := by
    have hnum : (y.num : ℚ) ≤ y.den := by
      rw [← Rat.mul_den_eq_num]
      exact mul_le_of_le_one_left (Nat.cast_nonneg _) hone
    have hnum : y.num ≤ y.den := by exact_mod_cast hnum
    omega
  have hpower : x ^ y.num.toNat ≤ 2 ^ y.den :=
    (pow_le_pow_left₀ hx htwo _).trans (pow_le_pow_right₀ one_le_two hexponent)
  have hlimit := pow_lt_pow_left₀ two_lt_range zero_le_two y.den_ne_zero
  exact absurd (hover.trans hpower) hlimit.not_ge

/-- So the risk-free rate of one bar never raises, whatever the interval is. -/
theorem metrics.not_rateOverflows (returns : List Python.Float) (interval : String)
    (config : BacktestConfig) :
    ¬ metrics.RateOverflows returns (BacktestConfig.periods_per_year interval)
      config.risk_free_rate := by
  have hperiods := BacktestConfig.periods_per_year_pos interval
  have hmonth := BacktestConfig.le_periods_per_year interval
  have hlow := config.risk_free_rate_ge
  have hhigh := config.risk_free_rate_le
  intro h
  obtain ⟨-, hover⟩ := h
  refine not_powerOverflows_of_root ?_ ?_ ?_ hover
  · linarith
  · linarith
  · rw [div_le_one hperiods]
    linarith

end Powers

namespace metrics

/-! ## Finite metrics -/

section Finite

variable {rt : Runtime} {returns : List Python.Float} {periods_per_year risk_free_rate : ℚ}
  {value : Python.Float}

/-- No peak is below the first value. -/
theorem le_cummax {x : ℚ} {equity : List ℚ} : ∀ peak ∈ cummax (x :: equity), x ≤ peak := by
  intro peak hpeak
  obtain ⟨j, hj⟩ := List.mem_iff_getElem?.mp hpeak
  exact (Peaks.isGreatest_running_max hj).2 ⟨0, Nat.zero_le j, rfl⟩

/-- No peak is zero over a curve that starts above zero. -/
theorem is_finite_drawdown_curve {x : ℚ} {equity : List ℚ} (hx : 0 < x) :
    ∀ d ∈ drawdown_curve (x :: equity), d.is_finite = true := by
  intro d hd
  unfold drawdown_curve at hd
  rw [← List.map_uncurry_zip_eq_zipWith] at hd
  obtain ⟨⟨v, peak⟩, hpair, rfl⟩ := List.mem_map.mp hd
  have hpeak : x ≤ peak := le_cummax peak (List.of_mem_zip hpair).2
  exact Python.Float.is_finite_sub.mpr
    ⟨(Python.Float.is_finite_div (hx.trans_le hpeak).ne').mpr rfl, rfl⟩

theorem is_finite_max_drawdown {x : ℚ} {equity : List ℚ} (hx : 0 < x) :
    (max_drawdown (x :: equity)).is_finite = true :=
  Python.Float.is_finite_minimum (is_finite_drawdown_curve hx) (List.cons_ne_nil _ _)

theorem is_finite_excess (rt : Runtime) (periods_per_year risk_free_rate : ℚ)
    (h : ∀ r ∈ returns, r.is_finite = true) :
    ∀ r ∈ excess rt returns periods_per_year risk_free_rate, r.is_finite = true := by
  intro r hr
  obtain ⟨r, hmem, rfl⟩ := List.mem_map.mp hr
  exact Python.Float.is_finite_sub.mpr ⟨h r hmem, rfl⟩

theorem is_finite_annualized_volatility
    (hvalue : annualized_volatility rt returns periods_per_year = some value) :
    value.is_finite = true ↔ ∀ r ∈ returns, r.is_finite = true := by
  unfold annualized_volatility at hvalue
  split_ifs at hvalue with hshort
  obtain rfl := Option.some.inj hvalue
  rw [Python.Float.is_finite_mul, Python.Float.is_finite_std (not_lt.mp hshort)]
  exact and_iff_left rfl

/-- A finite deviation that is not below the bound can be divided by. -/
theorem is_finite_ratio {x deviation : Python.Float} (hx : x.is_finite = true)
    (hdeviation : deviation.is_finite = true) (hbound : ¬ deviation.lt (.num EPSILON) = true) :
    (x.div deviation).is_finite = true := by
  obtain ⟨d, rfl⟩ := Python.Float.is_finite_iff.mp hdeviation
  refine (Python.Float.is_finite_div ?_).mpr hx
  rintro rfl
  exact hbound (by simp [Python.Float.lt, EPSILON])

/-- At least two returns have a mean. -/
theorem excess_ne_nil (rt : Runtime) (periods_per_year risk_free_rate : ℚ)
    (h : ¬ returns.length < 2) :
    excess rt returns periods_per_year risk_free_rate ≠ [] := by
  intro hnil
  have hlength : (excess rt returns periods_per_year risk_free_rate).length = returns.length :=
    List.length_map _
  rw [hnil, List.length_nil] at hlength
  omega

theorem is_finite_sharpe (h : ∀ r ∈ returns, r.is_finite = true)
    (hvalue : sharpe rt returns periods_per_year risk_free_rate = some value) :
    value.is_finite = true := by
  simp only [sharpe] at hvalue
  split_ifs at hvalue with hshort hdeviation
  obtain rfl := Option.some.inj hvalue
  obtain ⟨hfinite, hbound⟩ := not_or.mp hdeviation
  have hmean := (Python.Float.is_finite_mean
    (excess_ne_nil rt periods_per_year risk_free_rate hshort)).mpr
    (is_finite_excess rt periods_per_year risk_free_rate h)
  exact Python.Float.is_finite_mul.mpr ⟨is_finite_ratio hmean (not_not.mp hfinite) hbound, rfl⟩

theorem is_finite_sortino (h : ∀ r ∈ returns, r.is_finite = true)
    (hvalue : sortino rt returns periods_per_year risk_free_rate = some value) :
    value.is_finite = true := by
  simp only [sortino] at hvalue
  split_ifs at hvalue with hshort hbound
  obtain rfl := Option.some.inj hvalue
  have hexcess := is_finite_excess rt periods_per_year risk_free_rate h
  have hne := excess_ne_nil rt periods_per_year risk_free_rate hshort
  have hmean := (Python.Float.is_finite_mean hne).mpr hexcess
  refine Python.Float.is_finite_mul.mpr ⟨is_finite_ratio hmean ?_ hbound, rfl⟩
  -- The squares of the downside are finite, and there is one for every return.
  rw [Python.Float.is_finite_sqrt, Python.Float.is_finite_mean]
  · intro square hsquare
    obtain ⟨d, hd, rfl⟩ := List.mem_map.mp hsquare
    obtain ⟨r, hr, rfl⟩ := List.mem_map.mp hd
    have hdownside := Python.Float.is_finite_clip_upper_zero (hexcess r hr)
    exact Python.Float.is_finite_mul.mpr ⟨hdownside, hdownside⟩
  · intro hnil
    exact hne (List.map_eq_nil_iff.mp (List.map_eq_nil_iff.mp hnil))

end Finite

/-! ## Returns of a curve -/

/-- `equity.pct_change()`, without the first row. -/
def pct_change (equity : List ℚ) : List Python.Float :=
  List.zipWith (fun before now => ((Python.Float.num now).div (.num before)).sub (.num 1))
    equity equity.tail

end metrics

/-! ## What `unavailable` explains -/

/-- The metrics that may be `None`, by name. -/
def Metrics.nullable (m : Metrics) : List (String × Option Python.Float) :=
  [("cagr", m.cagr.map .num), ("annualized_volatility", m.annualized_volatility),
    ("sharpe", m.sharpe), ("sortino", m.sortino), ("calmar", m.calmar),
    ("win_rate", m.win_rate.map .num), ("profit_factor", m.profit_factor.map .num),
    ("average_win", m.average_win.map .num), ("average_loss", m.average_loss.map .num),
    ("turnover", m.turnover.map .num)]

theorem Metrics.nodup_nullable (m : Metrics) : (m.nullable.map Prod.fst).Nodup := by
  show ["cagr", "annualized_volatility", "sharpe", "sortino", "calmar", "win_rate",
    "profit_factor", "average_win", "average_loss", "turnover"].Nodup
  decide

/-- The keys are distinct, so a name is that of one value. -/
theorem Metrics.name_unavailable_iff {m : Metrics}
    (hnames : m.unavailable.map Prod.fst
      = (m.nullable.filter fun e => e.2.isNone).map Prod.fst)
    {entry : String × Option Python.Float} (hentry : entry ∈ m.nullable) :
    entry.1 ∈ m.unavailable.map Prod.fst ↔ entry.2 = none := by
  rw [hnames]
  constructor
  · intro hmem
    obtain ⟨entry', hentry', hsame⟩ := List.mem_map.mp hmem
    obtain ⟨hmem', hnone⟩ := List.mem_filter.mp hentry'
    rw [← List.inj_on_of_nodup_map m.nodup_nullable hmem' hentry hsame]
    exact Option.isNone_iff_eq_none.mp hnone
  · intro hnone
    exact List.mem_map.mpr ⟨entry, List.mem_filter.mpr ⟨hentry, by rw [hnone]; rfl⟩, rfl⟩

namespace metrics

theorem names_record {α : Type} (name : String) (value : Option α) (reason : String) :
    (record name value reason).map Prod.fst = if value.isNone then [name] else [] := by
  unfold record
  split_ifs <;> rfl

/-- The names of the entries without a value. -/
theorem names_none_cons (entry : String × Option Python.Float)
    (entries : List (String × Option Python.Float)) :
    ((entry :: entries).filter fun e => e.2.isNone).map Prod.fst
      = (if entry.2.isNone then [entry.1] else [])
        ++ (entries.filter fun e => e.2.isNone).map Prod.fst := by
  rw [List.filter_cons]
  split_ifs <;> rfl

section Compute

variable (rt : Runtime) (equity : List ℚ) (trades : List Trade)
  (periods_per_year : {p : ℚ // 0 < p}) (risk_free_rate initial_cash total_costs
  traded_notional : ℚ) (exposure : Option (List ℚ))

/-- **`unavailable` names exactly the metrics that are `None`**, in order. -/
theorem names_unavailable :
    (compute rt equity trades periods_per_year risk_free_rate initial_cash total_costs
        traded_notional exposure).unavailable.map Prod.fst
      = ((compute rt equity trades periods_per_year risk_free_rate initial_cash total_costs
          traded_notional exposure).nullable.filter fun e => e.2.isNone).map Prod.fst := by
  simp only [compute, Metrics.nullable, List.map_append, names_record, names_none_cons,
    Option.isNone_map, List.append_assoc, List.filter_nil, List.map_nil, List.append_nil]

end Compute

/-! ## The metrics as floats -/

/-- The squares that the volatility is computed from. -/
def squares (returns : List Python.Float) : Python.Float :=
  Python.Float.sum (returns.map fun r =>
    ((Python.Float.mean returns).sub r).mul ((Python.Float.mean returns).sub r))

/-- The results on the way to a metric that may be larger than the metric. -/
def work (equity : List ℚ) (name : String) : List Python.Float :=
  if name = "cagr" then
    [(Python.Float.num (equity.getLast?.getD 0)).div (.num (equity.head?.getD 0))]
  else if name = "annualized_volatility" then [squares (returns_from_equity equity)]
  else []

/-- A metric as the machine holds it: the nearest float, infinite if that or a
    result on the way is. -/
def held (equity : List ℚ) (name : String) (value : Python.Float) : Python.Float :=
  if (work equity name).all (fun result => result.rounded.is_finite) then value.rounded
  else .inf false

section Held

variable {equity : List ℚ}

end Held

end metrics

/-- The metrics that may be `None`, as the machine holds them. -/
def Metrics.floats (m : Metrics) (equity : List ℚ) : List (String × Option Python.Float) :=
  m.nullable.map fun entry => (entry.1, entry.2.map (metrics.held equity entry.1))

/-! ## Curves of runs -/

section Run

variable {frame : List Bar} {targets : List ℚ} {reasons : Option (List String)} {symbol : String}
  {config : BacktestConfig}

end Run

/-! ## The main result -/

end Quantora
