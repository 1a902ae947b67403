import Quantora.Backtest.FiniteMetrics
import Quantora.Risk.Alignment
import Quantora.Risk.Allocation

/-! # Comparing a portfolio with itself

    A scenario that asks for the weights that are already there compares a
    portfolio with itself: no weight moves, and every metric that exists has a
    difference of zero.

    * `RiskMetrics.get` is finite — else a metric minus itself would be NaN.
    * `analyze` reads weights and total value only, so the rebuilt portfolio has
      the same metrics.
    * `scenario_round_trip` — weights, holdings and reports, over any portfolio
      that was valued. -/

namespace Quantora

namespace risk

/-! ## Reports -/

section Reports

variable {rt : Runtime} {p : Portfolio} {window : MarketWindow} {risk_free_rate : ℚ}
  {report : Report} {allocation : Allocation}

/-- What a report is made from. -/
theorem analyze_eq_ok (h : analyze rt p window risk_free_rate = .ok report) :
    ∃ returns equity, p.value window.prices_as_of = .ok report.allocation ∧
      portfolio_return_series
        (window.returns.select (fun s => (report.allocation.weights.get? s).isSome))
        report.allocation.weights = .ok returns ∧
      equity_index returns = .ok equity ∧
      report.metrics = risk_metrics rt report.allocation window risk_free_rate returns equity ∧
      report.return_series = returns ∧ report.equity_index = equity := by
  obtain ⟨allocation, hvalue, h⟩ := Outcome.bind_eq_ok.mp h
  obtain ⟨returns, hreturns, h⟩ := Outcome.bind_eq_ok.mp h
  obtain ⟨equity, hequity, h⟩ := Outcome.bind_eq_ok.mp h
  obtain rfl := Except.ok.inj h
  exact ⟨returns, equity, hvalue, hreturns, hequity, rfl, rfl, rfl⟩

/-- The parts make a report. -/
theorem analyze_of_parts (rt : Runtime) (risk_free_rate : ℚ) {returns equity : Series}
    (hvalue : p.value window.prices_as_of = .ok allocation)
    (hreturns : portfolio_return_series
      (window.returns.select (fun s => (allocation.weights.get? s).isSome)) allocation.weights
        = .ok returns)
    (hequity : equity_index returns = .ok equity) :
    ∃ report, analyze rt p window risk_free_rate = .ok report ∧
      report.allocation = allocation ∧
      report.metrics = risk_metrics rt allocation window risk_free_rate returns equity := by
  unfold analyze
  simp only [hvalue, hreturns, hequity, bind, Except.bind]
  exact ⟨_, rfl, rfl, rfl⟩

/-- A portfolio that can be valued can be analysed, over a window with a return. -/
theorem analyze_of_value (rt : Runtime) (risk_free_rate : ℚ)
    (hvalue : p.value window.prices_as_of = .ok allocation)
    (hrows : window.returns.rows ≠ []) :
    ∃ report, analyze rt p window risk_free_rate = .ok report ∧
      report.allocation = allocation := by
  obtain ⟨returns, hreturns⟩ := portfolio_return_series_select window.returns allocation.weights
  obtain ⟨equity, hequity⟩ : ∃ equity, equity_index returns = .ok equity := by
    cases returns with
    | nil =>
      have hnil := portfolio_return_series_eq_ok hreturns
      exact absurd (List.map_eq_nil_iff.mp hnil.symm) hrows
    | cons first rest => exact ⟨_, rfl⟩
  obtain ⟨report, hreport, hallocation, -⟩ :=
    analyze_of_parts rt risk_free_rate hvalue hreturns hequity
  exact ⟨report, hreport, hallocation⟩

/-- The levels of a wealth index start at 1. -/
theorem levels_of_equity_index {returns equity : Series} (h : equity_index returns = .ok equity) :
    ∃ levels, equity.map Prod.snd = 1 :: levels := by
  cases returns with
  | nil => cases h
  | cons first rest =>
    obtain rfl := Except.ok.inj h
    exact ⟨_, rfl⟩

/-- Every metric that a report has is a finite number. -/
theorem is_finite_get (h : analyze rt p window risk_free_rate = .ok report) {key : String}
    {value : Python.Float} (hvalue : report.metrics.get key = some value) :
    value.is_finite = true := by
  obtain ⟨returns, equity, hallocation, -, hequity, hmetrics, -⟩ := analyze_eq_ok h
  have hreturns : ∀ r ∈ returns.map (fun row => Python.Float.num row.2), r.is_finite = true := by
    intro r hr
    obtain ⟨row, -, rfl⟩ := List.mem_map.mp hr
    rfl
  have hnum : ∀ x : Option ℚ, x.map Python.Float.num = some value → value.is_finite = true := by
    intro x hx
    obtain ⟨number, -, rfl⟩ := Option.map_eq_some_iff.mp hx
    rfl
  -- One case for each metric of the table, in its order, and one for any other key.
  rw [hmetrics] at hvalue
  unfold RiskMetrics.get at hvalue
  split at hvalue
  · obtain rfl := Option.some.inj hvalue
    rfl
  · exact hnum _ hvalue
  · exact (metrics.is_finite_annualized_volatility hvalue).mpr hreturns
  · exact hnum _ hvalue
  · exact metrics.is_finite_sharpe hreturns hvalue
  · exact metrics.is_finite_sortino hreturns hvalue
  · obtain rfl := Option.some.inj hvalue
    obtain ⟨levels, hlevels⟩ := levels_of_equity_index hequity
    show (metrics.max_drawdown (equity.map Prod.snd)).is_finite = true
    rw [hlevels]
    exact metrics.is_finite_max_drawdown one_pos
  · obtain rfl := Option.some.inj hvalue
    rfl
  · obtain rfl := Option.some.inj hvalue
    rfl
  · obtain rfl := Option.some.inj hvalue
    rfl
  · obtain rfl := Option.some.inj hvalue
    exact is_finite_effective_holdings hallocation
  · cases hvalue

/-- The metrics read the total value and the concentration of an allocation. -/
theorem risk_metrics_congr {before after : Allocation}
    (htotal : after.total_value = before.total_value)
    (hconcentration : after.concentration = before.concentration)
    (returns equity : Series) :
    risk_metrics rt after window risk_free_rate returns equity
      = risk_metrics rt before window risk_free_rate returns equity := by
  unfold risk_metrics
  rw [htotal, hconcentration]

/-- A portfolio with the same weights and the same total has the same metrics. -/
theorem metrics_of_equal_weights {q : Portfolio}
    (h : analyze rt p window risk_free_rate = .ok report)
    (hvalue : q.value window.prices_as_of = .ok allocation)
    (hweights : allocation.weights = report.allocation.weights)
    (htotal : allocation.total_value = report.allocation.total_value) :
    ∃ after, analyze rt q window risk_free_rate = .ok after ∧
      after.metrics = report.metrics := by
  obtain ⟨returns, equity, hbefore, hreturns, hequity, hmetrics, -⟩ := analyze_eq_ok h
  obtain ⟨-, -, hweights_before, hconcentration_before, -⟩ := Portfolio.value_eq_ok hbefore
  obtain ⟨-, -, hweights_after, hconcentration_after, -⟩ := Portfolio.value_eq_ok hvalue
  -- The concentration is a function of the weights.
  have hconcentration : allocation.concentration = report.allocation.concentration := by
    rw [← hweights_after, hweights, hweights_before, hconcentration_before]
      at hconcentration_after
    exact (Except.ok.inj hconcentration_after).symm
  rw [← hweights] at hreturns
  obtain ⟨after, hafter, -, hmetrics_after⟩ :=
    analyze_of_parts rt risk_free_rate hvalue hreturns hequity
  refine ⟨after, hafter, ?_⟩
  rw [hmetrics, hmetrics_after]
  exact risk_metrics_congr htotal hconcentration returns equity

end Reports

/-! ## Nothing moved -/

/-- A scenario that changed nothing. -/
structure Unmoved (result : ScenarioReport) : Prop where
  changes : result.changes = []
  /-- Every metric is what it was, and its difference is zero if it exists. -/
  deltas : ∀ row ∈ result.deltas,
    row.after = row.before ∧ row.delta = row.before.map (fun _ => .num 0)

theorem describe_changes_of_equal {base weights : Weights}
    (h : ∀ s, weight_of weights s = weight_of base s) : describe_changes base weights = [] := by
  apply List.filterMap_eq_nil_iff.mpr
  intro s _
  unfold describe_change
  simp only [h s, sub_self, abs_zero]
  rw [if_pos (by norm_num [WEIGHT_EPSILON])]

theorem metric_deltas_self {m : RiskMetrics}
    (hfinite : ∀ key value, m.get key = some value → value.is_finite = true) :
    ∀ row ∈ metric_deltas m m,
      row.after = row.before ∧ row.delta = row.before.map (fun _ => .num 0) := by
  intro row hrow
  obtain ⟨⟨key, label, direction⟩, -, rfl⟩ := List.mem_map.mp hrow
  refine ⟨rfl, ?_⟩
  show Option.map₂ Python.Float.sub (m.get key) (m.get key) = (m.get key).map (fun _ => .num 0)
  cases hvalue : m.get key with
  | none => rfl
  | some value =>
    rw [Option.map₂_some_some, Python.Float.sub_self_of_finite (hfinite key value hvalue)]
    rfl

/-! ## The run -/

theorem portfolio_new_eq_ok {holdings : List Holding} {name base_currency benchmark : String}
    {p : Portfolio} (h : Portfolio.new holdings name base_currency benchmark = .ok p) :
    p.holdings = holdings ∧ ∃ instrument, get_instrument benchmark = .ok instrument := by
  unfold Portfolio.new at h
  split_ifs at h
  split at h
  · cases h
  · next instrument hknown =>
    obtain rfl := Except.ok.inj h
    exact ⟨rfl, instrument, hknown⟩

/-- What `run_scenario` has in hand before it compares: valid overrides, at least
    one of them usable, and the holdings that survived the window. -/
structure Prepared (rt : Runtime) (loader : PriceLoader) (portfolio : Portfolio)
    (overrides : Overrides) (start end_ interval : String) (benchmark : Option String)
    (window : MarketWindow) (base : Portfolio) : Prop where
  valid : validate_overrides rt overrides = .ok ()
  loaded : load_window loader
    (portfolio.symbols ++ (overrides.items.map Prod.fst).filter (fun s => s ∉ portfolio.symbols))
    start end_ interval (resolved_benchmark benchmark portfolio) = .ok window
  survived : surviving portfolio window (resolved_benchmark benchmark portfolio) = .ok base
  used : (usable_overrides overrides window).items ≠ []

section Run

variable {rt : Runtime} {loader : PriceLoader} {portfolio base : Portfolio} {overrides : Overrides}
  {start end_ interval : String} {benchmark : Option String} {window : MarketWindow}
  {allocation : Allocation} {risk_free_rate : ℚ}

/-- A loaded window has a return. -/
theorem returns_ne_nil {symbols : List String} {benchmark : String}
    (h : load_window loader symbols start end_ interval benchmark = .ok window) :
    window.returns.rows ≠ [] := by
  obtain ⟨frames, -, hbuilt⟩ := load_window_eq_ok.mp h
  obtain ⟨-, hreturns, hlength, -⟩ := build_window_eq_ok hbuilt
  rw [hreturns]
  exact DataFrame.rows_pct_change_ne_nil (lt_trans (by decide) hlength)

/-- The overrides that can be used are valid. -/
theorem Prepared.valid_usable
    (h : Prepared rt loader portfolio overrides start end_ interval benchmark window base) :
    validate_overrides rt (usable_overrides overrides window) = .ok () := by
  rw [validate_overrides_eq_ok]
  refine ⟨h.used, fun item hitem => ?_⟩
  exact (validate_overrides_eq_ok.mp h.valid).2 item (List.mem_filter.mp hitem).1

/-- The weights that are already there, with zeros, are held by a portfolio with
    the same weights and the same total. -/
theorem rebuildsExactly_of_current (rt : Runtime) {p : Portfolio} {prices : Prices}
    {weights : Weights} (hvalue : p.value prices = .ok allocation)
    (hnonneg : ∀ item ∈ weights.items, 0 ≤ item.2)
    (hsum : (weights.items.map Prod.snd).sum = 1)
    (hpositive : positive weights = allocation.weights.items) :
    RebuildsExactly rt prices allocation.total_value weights := by
  obtain ⟨hvalued, -, hweights, -⟩ := Portfolio.value_eq_ok hvalue
  apply rebuildsExactly_of_investable rt hnonneg hsum _ (worth_of_value hvalue)
  rw [hpositive, hweights]
  exact investable_of_valued hvalued

/-- A scenario that asks for the current weights is carried out and changes
    nothing. -/
theorem run_scenario_of_current
    (h : Prepared rt loader portfolio overrides start end_ interval benchmark window base)
    (hvalue : base.value window.prices_as_of = .ok allocation)
    (hcurrent : Current allocation.weights (usable_overrides overrides window)) :
    ∃ result, run_scenario rt loader portfolio overrides start end_ interval benchmark
        risk_free_rate = .ok result ∧
      result.before.allocation = allocation ∧ Unmoved result := by
  obtain ⟨hholdings, hbenchmark⟩ := portfolio_new_eq_ok h.survived
  have hsurvivors : portfolio.holdings.filter (fun h => h.symbol ∈ window.symbols) ≠ [] := by
    rw [← hholdings]
    exact base.nonempty
  -- The report before, the weights, the holdings made from them, the report after.
  obtain ⟨before, hbefore, rfl⟩ :=
    analyze_of_value rt risk_free_rate hvalue (returns_ne_nil h.loaded)
  obtain ⟨hvalued, -, hweights, -⟩ := Portfolio.value_eq_ok hvalue
  obtain ⟨weights, notes, hresolve, hsame, hpositive⟩ :=
    resolve_of_current (by rw [hweights]; exact Portfolio.weights_pos hvalued)
      (by rw [hweights]; exact Portfolio.sum_weights hvalued) h.valid_usable hcurrent
  have hreweighted := reweighted_of_value hvalue hresolve
  obtain ⟨rebuilt, allocation, hrebuilt, hrevalued, hallocation, htotal⟩ :=
    rebuildsExactly_of_current rt hvalue hreweighted.nonneg hreweighted.sum_eq_one hpositive
      (Python.strip (portfolio.name ++ " (scenario)")) portfolio.base_currency _ hbenchmark
  obtain ⟨after, hafter, hmetrics⟩ := metrics_of_equal_weights hbefore hrevalued
    (Keyed.ext (hallocation.trans hpositive)) htotal
  unfold run_scenario scenario_over_window
  simp only [h.valid, h.loaded, h.survived, hbefore, hresolve, hrebuilt, hafter, if_neg hsurvivors,
    bind, Except.bind]
  refine ⟨_, rfl, rfl, ?_, ?_⟩
  · exact describe_changes_of_equal hsame
  · show ∀ row ∈ metric_deltas before.metrics after.metrics, _
    rw [hmetrics]
    exact metric_deltas_self fun key value hget => is_finite_get hbefore hget

end Run

/-- The weights of a valued portfolio can be changed, held and valued again
    without loss, and asking for the weights that are there shows no difference. -/
theorem scenario_round_trip {rt : Runtime} {p : Portfolio} {prices : Prices} {before : Allocation}
    (hvalue : p.value prices = .ok before) :
    (∀ overrides weights notes,
      (∀ item ∈ overrides.items, usable_price (prices item.1) = true) →
      resolve_weights rt before.weights overrides = .ok (weights, notes) →
      Reweighted before.weights overrides weights ∧
        RebuildsExactly rt prices before.total_value weights) ∧
    ∀ loader portfolio overrides start end_ interval benchmark risk_free_rate window,
      Prepared rt loader portfolio overrides start end_ interval benchmark window p →
      window.prices_as_of = prices →
      Current before.weights (usable_overrides overrides window) →
      ∃ result, run_scenario rt loader portfolio overrides start end_ interval benchmark
          risk_free_rate = .ok result ∧
        result.before.allocation = before ∧ Unmoved result := by
  constructor
  · intro overrides weights notes hpriced hresolve
    exact ⟨reweighted_of_value hvalue hresolve, rebuildsExactly_of_value hvalue hpriced hresolve⟩
  · rintro loader portfolio overrides start end_ interval benchmark risk_free_rate window hprepared
      rfl hcurrent
    exact run_scenario_of_current hprepared hvalue hcurrent

/-! ## Two holdings that move apart -/

/-- NIFTY and TCS.NS zigzag together, everything else takes three days for a turn. -/
def path (symbol : String) (day : ℕ) : ℚ :=
  if symbol = "NIFTY" then zigzag day
  else if symbol = "TCS.NS" then double day
  else 100 + (day % 3 : ℕ)

theorem path_pos (symbol : String) (day : ℕ) : 0 < path symbol day := by
  unfold path
  split_ifs
  · exact zigzag_pos day
  · exact mul_pos two_pos (zigzag_pos day)
  · positivity

/-- Every instrument trades on 25 days. -/
def paths : PriceLoader where
  load symbol start end_ interval :=
    .ok ⟨symbol, interval, level_frame (path symbol) (List.range 25) List.pairwise_lt_range,
      ⟨"levels", symbol, "raw", start, end_⟩⟩
  positive := by
    intro symbol start end_ interval series hload bar hbar
    obtain rfl := Except.ok.inj hload
    obtain ⟨day, -, rfl⟩ := List.mem_map.mp hbar
    exact path_pos symbol day

theorem sixty_pos : (0 : ℚ) < 60 := by norm_num

def sixty_infosys : Holding := ⟨"INFY.NS", 60, none, known_infy, sixty_pos, cost_basis_none⟩

/-- A quarter of the value is TCS, the rest Infosys. -/
def two_holdings : Portfolio :=
  ⟨[ten_shares, sixty_infosys], "Core", "INR", "NIFTY", by simp, by decide, known_nifty⟩

/-- The weights of `two_holdings`, with a symbol that it does not hold. -/
def its_own_weights : Overrides :=
  ⟨[("TCS.NS", .num (1 / 4)), ("INFY.NS", .num (3 / 4)), ("ICICIBANK.NS", .num 0)], by decide⟩

/-- As much of ICICI as the whole portfolio: half, once it is normalised. -/
def as_much_icici : Overrides := ⟨[("ICICIBANK.NS", .num 1)], List.nodup_singleton _⟩

/-- A window of the three symbols, and what the portfolio is worth in it. -/
theorem window_of_three :
    ∃ window before, load_window paths
        (two_holdings.symbols ++ (its_own_weights.items.map Prod.fst).filter
          (fun s => s ∉ two_holdings.symbols))
        "2024-01-01" "2024-12-31" "1d" (resolved_benchmark none two_holdings) = .ok window ∧
      two_holdings.value window.prices_as_of = .ok before ∧
      window.symbols = ["TCS.NS", "INFY.NS", "ICICIBANK.NS"] ∧
      usable_price (window.prices_as_of "ICICIBANK.NS") = true ∧
      before.weights.items = [("TCS.NS", 1 / 4), ("INFY.NS", 3 / 4)] := by
  obtain ⟨window, hwindow, hvalued⟩ := Outcome.exists_of_any
    (show (load_window paths
        (two_holdings.symbols ++ (its_own_weights.items.map Prod.fst).filter
          (fun s => s ∉ two_holdings.symbols))
        "2024-01-01" "2024-12-31" "1d" (resolved_benchmark none two_holdings)).toOption.any
          (fun window => (two_holdings.value window.prices_as_of).toOption.any (fun before =>
            decide (window.symbols = ["TCS.NS", "INFY.NS", "ICICIBANK.NS"] ∧
              usable_price (window.prices_as_of "ICICIBANK.NS") = true ∧
              before.weights.items = [("TCS.NS", 1 / 4), ("INFY.NS", 3 / 4)]))) = true by
      decide +kernel)
  obtain ⟨before, hvalue, hfacts⟩ := Outcome.exists_of_any hvalued
  exact ⟨window, before, hwindow, hvalue, of_decide_eq_true hfacts⟩

/-- Half of the money moves, and the holdings keep their proportion; or nothing
    moves. -/
theorem scenario_round_trip_of_two_holdings :
    ∃ (window : MarketWindow) (before : Allocation),
      two_holdings.value window.prices_as_of = .ok before ∧
      (∃ weights notes,
        resolve_weights default before.weights as_much_icici = .ok (weights, notes) ∧
        weights.items = [("TCS.NS", 1 / 8), ("INFY.NS", 3 / 8), ("ICICIBANK.NS", 1 / 2)] ∧
        Reweighted before.weights as_much_icici weights ∧
        RebuildsExactly default window.prices_as_of before.total_value weights) ∧
      ∃ result, run_scenario default paths two_holdings its_own_weights "2024-01-01" "2024-12-31"
          "1d" none 0 = .ok result ∧
        result.before.allocation = before ∧ Unmoved result := by
  obtain ⟨window, before, hwindow, hvalue, hsymbols, hicici, hitems⟩ := window_of_three
  have hweights : before.weights = ⟨[("TCS.NS", 1 / 4), ("INFY.NS", 3 / 4)], by decide⟩ :=
    Keyed.ext hitems
  refine ⟨window, before, hvalue, ?_, ?_⟩
  · -- A quarter, three quarters and 1, of a total of 2.
    obtain ⟨⟨weights, notes⟩, hresolve, hmixed⟩ := Outcome.exists_of_any
      (show (resolve_weights default before.weights as_much_icici).toOption.any (fun resolved =>
          resolved.1.items = [("TCS.NS", 1 / 8), ("INFY.NS", 3 / 8), ("ICICIBANK.NS", 1 / 2)])
            = true by
        rw [hweights]
        decide +kernel)
    refine ⟨weights, notes, hresolve, of_decide_eq_true hmixed, ?_⟩
    refine (scenario_round_trip hvalue).1 as_much_icici weights notes ?_ hresolve
    intro item hitem
    obtain rfl := List.mem_singleton.mp hitem
    exact hicici
  · -- The weights that are there, and no ICICI.
    have husable : usable_overrides its_own_weights window = its_own_weights := by
      unfold usable_overrides
      rw [hsymbols]
      apply Keyed.ext
      decide +kernel
    refine (scenario_round_trip hvalue).2 _ two_holdings its_own_weights _ _ _ none 0 window
      ⟨by decide +kernel, hwindow, ?_, ?_⟩ rfl ?_
    · unfold surviving
      rw [hsymbols]
      rfl
    · rw [husable]
      exact List.cons_ne_nil _ _
    · rw [husable, hweights]
      unfold Current
      decide +kernel

end risk

end Quantora
