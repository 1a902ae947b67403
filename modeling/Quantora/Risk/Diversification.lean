import Quantora.Framework.Statistics
import Quantora.Risk.Wealth

/-! # Diversification

    A risk report against the reports of its holdings, each analysed alone over
    the same window.

    * The portfolio's return of a session is the weighted sum of the holdings'.
    * Its beta is the weighted sum of their betas, and it has one exactly when
      they have: beta is linear in the returns, and whether it exists depends on
      the sessions and on the benchmark only.
    * Its volatility is at most that of its most volatile holding. -/

namespace Quantora

/-- What a square root keeps: order, and the sign. -/
structure Runtime.OrderedRoot (rt : Runtime) : Prop where
  nonneg : ∀ x, 0 ≤ x → 0 ≤ rt.sqrt x
  mono : ∀ x y, 0 ≤ x → x ≤ y → rt.sqrt x ≤ rt.sqrt y

namespace risk

open Statistics (weighted scatter)

/-- A row of a table of returns. -/
abbrev ReturnRow := Timestamp × (String → ℚ)

/-- A series with one value for each row. -/
def series_of (rows : List ReturnRow) (g : ReturnRow → ℚ) : Series :=
  rows.map (fun row => (row.1, g row))

/-- The return of one symbol. -/
def return_of (symbol : String) (row : ReturnRow) : ℚ := row.2 symbol

/-! ## Volatility -/

section Volatility

variable (rt : Runtime) (rows : List ReturnRow) (g : ReturnRow → ℚ) (periods_per_year : ℚ)

/-- The volatility of a column, from its scatter. -/
theorem annualized_volatility_of_series (hlength : 2 ≤ rows.length) :
    metrics.annualized_volatility rt
        ((series_of rows g).map (fun row => Python.Float.num row.2)) periods_per_year
      = some (.num (rt.sqrt (scatter rows g g / (rows.length - 1))
          * rt.sqrt periods_per_year)) := by
  have hvalues : (series_of rows g).map (fun row => Python.Float.num row.2)
      = (rows.map g).map Python.Float.num := by
    unfold series_of
    rw [List.map_map, List.map_map]
    rfl
  have hmany : ¬ ((rows.map g).map Python.Float.num).length < 2 := by
    rw [List.length_map, List.length_map]
    omega
  rw [hvalues, metrics.annualized_volatility, if_neg hmany,
    Python.Float.std_map_num rt (by rwa [List.length_map]), List.map_map, List.length_map]
  rfl

end Volatility

/-! ## Beta -/

section Beta

variable (rows : List ReturnRow) (g : ReturnRow → ℚ) (benchmark : Series)

/-- The rows that the benchmark has a return for, with it. -/
def paired : List (ReturnRow × ℚ) :=
  rows.filterMap (fun row => (benchmark.lookup row.1).map (fun b => (row, b)))

theorem align_series_of :
    align (series_of rows g) benchmark
      = (paired rows benchmark).map (fun pair => (pair.1.1, g pair.1, pair.2)) := by
  unfold align series_of paired
  rw [List.filterMap_map, List.map_filterMap]
  congr 1
  funext row
  show Option.map _ (benchmark.lookup row.1) = Option.map _ (Option.map _ (benchmark.lookup row.1))
  rw [Option.map_map]
  rfl

theorem portfolio_column :
    (align (series_of rows g) benchmark).map (fun row => row.2.1)
      = (paired rows benchmark).map (fun pair => g pair.1) := by
  rw [align_series_of, List.map_map]
  rfl

theorem benchmark_column :
    (align (series_of rows g) benchmark).map (fun row => row.2.2)
      = (paired rows benchmark).map Prod.snd := by
  rw [align_series_of, List.map_map]
  rfl

/-- Whether beta exists: enough sessions, and a benchmark that moves. -/
def HasBeta : Prop :=
  MIN_RETURN_OBSERVATIONS ≤ (paired rows benchmark).length ∧
    EPSILON < indicators.variance ((paired rows benchmark).map Prod.snd)

/-- The slope of a column on the benchmark. -/
def slope : ℚ :=
  scatter (paired rows benchmark) (fun pair => g pair.1) Prod.snd
    / ((paired rows benchmark).length * indicators.variance ((paired rows benchmark).map Prod.snd))

theorem covariance_paired :
    indicators.covariance ((paired rows benchmark).map (fun pair => (g pair.1, pair.2)))
      = scatter (paired rows benchmark) (fun pair => g pair.1) Prod.snd
        / (paired rows benchmark).length := by
  unfold indicators.covariance indicators.mean
  simp only [List.map_map, List.length_map]
  rfl

theorem beta_of_series (h : HasBeta rows benchmark) :
    beta (series_of rows g) benchmark = .ok (slope rows g benchmark) := by
  obtain ⟨hmany, hmoves⟩ := h
  have hpositive : 0 < indicators.variance ((paired rows benchmark).map Prod.snd) :=
    lt_trans (by norm_num [EPSILON]) hmoves
  have hne : (paired rows benchmark).map Prod.snd ≠ [] := by
    intro hnil
    rw [List.map_eq_nil_iff.mp hnil] at hmany
    exact absurd hmany (by decide)
  have hlength : ((paired rows benchmark).map (fun pair => g pair.1)).length
      = ((paired rows benchmark).map Prod.snd).length := by
    rw [List.length_map, List.length_map]
  have hslope := indicators.getLast?_hedge_ratio hlength hne
  have hzip : ((paired rows benchmark).map (fun pair => g pair.1)).zip
        ((paired rows benchmark).map Prod.snd)
      = (paired rows benchmark).map (fun pair => (g pair.1, pair.2)) := by
    rw [List.zip_map']
  have hdiv : Cell.div
        (some (scatter (paired rows benchmark) (fun pair => g pair.1) Prod.snd
          / (paired rows benchmark).length))
        (Cell.where_positive (some (indicators.variance ((paired rows benchmark).map Prod.snd))))
      = some (slope rows g benchmark) := by
    unfold Cell.where_positive slope
    rw [Option.filter_some, if_pos (decide_eq_true hpositive), ← div_div]
    rfl
  rw [hzip, covariance_paired, hdiv, List.length_map] at hslope
  simp only [beta, portfolio_column, benchmark_column]
  rw [align_series_of, List.length_map, if_neg (not_lt.mpr hmany), if_neg (not_le.mpr hmoves),
    hslope]

theorem beta_of_series_none (h : ¬ HasBeta rows benchmark) :
    (beta (series_of rows g) benchmark).toOption = none := by
  simp only [beta, portfolio_column, benchmark_column]
  rw [align_series_of, List.length_map]
  by_cases hmany : (paired rows benchmark).length < MIN_RETURN_OBSERVATIONS
  · rw [if_pos hmany]
    rfl
  · have hflat : indicators.variance ((paired rows benchmark).map Prod.snd) ≤ EPSILON :=
      not_lt.mp fun hmoves => h ⟨not_lt.mp hmany, hmoves⟩
    rw [if_neg hmany, if_pos hflat]
    rfl

end Beta

/-! ## A portfolio and its holdings -/

/-- One holding of a portfolio, as a portfolio of its own. -/
def Portfolio.only (p : Portfolio) (holding : Holding) : Portfolio where
  holdings := [holding]
  name := p.name
  base_currency := p.base_currency
  benchmark := p.benchmark
  nonempty := List.cons_ne_nil _ _
  distinct := List.nodup_singleton _
  benchmark_known := p.benchmark_known

section Reports

variable {rt : Runtime} {p : Portfolio} {window : MarketWindow} {risk_free_rate : ℚ}
  {report : Report}

/-- The columns that carry weight are the symbols of the portfolio. -/
theorem perm_symbols (hwindow : window.Sound) (hvalued : p.Valued window.prices_as_of) :
    (window.returns.select
      (fun s => ((p.weights window.prices_as_of).get? s).isSome)).columns.Perm p.symbols := by
  have hcolumns : window.returns.columns.Nodup := hwindow.columns ▸ hwindow.distinct
  have hitems : (p.weights window.prices_as_of).items.map Prod.fst = p.symbols := by
    show (p.holdings.map _).map Prod.fst = _
    rw [List.map_map]
    rfl
  have hsymbols : p.symbols.Nodup := p.distinct
  show (window.returns.columns.filter _).Perm _
  rw [List.perm_ext_iff_of_nodup (hcolumns.filter _) hsymbols]
  intro s
  rw [List.mem_filter, isSome_get?_iff, hitems]
  refine ⟨fun h => h.2, fun h => ⟨?_, h⟩⟩
  rw [hwindow.columns]
  exact symbols_of_valued hvalued s h

theorem weight_nonneg (hvalued : p.Valued window.prices_as_of) :
    ∀ s ∈ p.symbols, 0 ≤ weight_of (p.weights window.prices_as_of) s := by
  intro s hs
  obtain ⟨holding, hholding, rfl⟩ := List.mem_map.mp hs
  have hitem : (holding.symbol, market_value window.prices_as_of holding
      / p.total_market_value window.prices_as_of) ∈ (p.weights window.prices_as_of).items :=
    List.mem_map.mpr ⟨holding, hholding, rfl⟩
  rw [weight_of_mem hitem]
  exact (Portfolio.weights_pos hvalued _ hitem).le

theorem sum_weight (hwindow : window.Sound) (hvalued : p.Valued window.prices_as_of) :
    (p.symbols.map (weight_of (p.weights window.prices_as_of))).sum = 1 := by
  rw [← ((perm_symbols hwindow hvalued).map _).sum_eq]
  exact sum_selected_weights hwindow.distinct hwindow.columns hvalued

/-- The return series of a report is the weighted column of its symbols. -/
theorem return_series_of_analyze (hwindow : window.Sound)
    (h : analyze rt p window risk_free_rate = .ok report) :
    p.Valued window.prices_as_of ∧
      report.allocation.weights = p.weights window.prices_as_of ∧
      report.return_series = series_of window.returns.rows
        (weighted p.symbols (weight_of report.allocation.weights) return_of) ∧
      report.metrics.beta = (window_beta window report.return_series).toOption ∧
      report.metrics.annualized_volatility = metrics.annualized_volatility rt
        (report.return_series.map (fun row => Python.Float.num row.2)) window.periods_per_year := by
  obtain ⟨returns, equity, hvalue, hreturns, -, hmetrics, rfl, -⟩ := analyze_eq_ok h
  obtain ⟨hvalued, -, hweights, -⟩ := Portfolio.value_eq_ok hvalue
  refine ⟨hvalued, hweights, ?_, by rw [hmetrics]; rfl, by rw [hmetrics]; rfl⟩
  rw [hweights] at hreturns ⊢
  rw [portfolio_return_series_eq_ok hreturns]
  apply List.map_congr_left
  intro row _
  exact congrArg (Prod.mk row.1) ((perm_symbols hwindow hvalued).map _).sum_eq

/-- Alone, a holding carries all of the weight. -/
theorem return_series_of_only (hwindow : window.Sound) {holding : Holding}
    (h : analyze rt (p.only holding) window risk_free_rate = .ok report) :
    report.return_series = series_of window.returns.rows (return_of holding.symbol) := by
  obtain ⟨hvalued, hweights, hseries, -⟩ := return_series_of_analyze hwindow h
  have hone : weight_of ((p.only holding).weights window.prices_as_of) holding.symbol = 1 := by
    have hsum := sum_weight hwindow hvalued
    rwa [show (p.only holding).symbols = [holding.symbol] from rfl, List.map_singleton,
      List.sum_singleton] at hsum
  rw [hseries, hweights]
  apply List.map_congr_left
  intro row _
  show (row.1, ([holding.symbol].map _).sum) = _
  rw [List.map_singleton, List.sum_singleton, hone, mul_one]

end Reports

/-- A report against the reports of its holdings, each on its own. -/
structure Diversified (report : Report) (alone : String → Report) : Prop where
  returns : report.return_series = series_of report.window.returns.rows
    (weighted report.portfolio.symbols (weight_of report.allocation.weights) return_of)
  returns_alone : ∀ s ∈ report.portfolio.symbols,
    (alone s).return_series = series_of report.window.returns.rows (return_of s)
  beta : report.metrics.beta = none ∧ (∀ s ∈ report.portfolio.symbols,
      (alone s).metrics.beta = none) ∨
    ∃ b : String → ℚ, (∀ s ∈ report.portfolio.symbols, (alone s).metrics.beta = some (b s)) ∧
      report.metrics.beta = some ((report.portfolio.symbols.map
        (fun s => b s * weight_of report.allocation.weights s)).sum)
  /-- The portfolio's volatility, and that of a holding which has at least as much. -/
  volatility : ∃ s ∈ report.portfolio.symbols, ∃ mixed most,
    report.metrics.annualized_volatility = some (.num mixed) ∧
      (alone s).metrics.annualized_volatility = some (.num most) ∧ mixed ≤ most

section Diversification

variable {rt : Runtime} {loader : PriceLoader} {portfolio : Portfolio}
  {start end_ interval : String} {benchmark : Option String} {risk_free_rate : ℚ}
  {window : MarketWindow} {report : Report} {alone : String → Report}

/-- Betas of one window exist together, and that of a mix is their mix. -/
theorem beta_of_weighted {series : Series} {column : String → Series} {symbols : List String}
    {weight : String → ℚ}
    (hseries : series = series_of window.returns.rows (weighted symbols weight return_of))
    (hcolumn : ∀ s ∈ symbols, column s = series_of window.returns.rows (return_of s)) :
    (window_beta window series).toOption = none ∧
        (∀ s ∈ symbols, (window_beta window (column s)).toOption = none) ∨
      ∃ b : String → ℚ, (∀ s ∈ symbols, (window_beta window (column s)).toOption = some (b s)) ∧
        (window_beta window series).toOption
          = some ((symbols.map (fun s => b s * weight s)).sum) := by
  unfold window_beta
  cases window.benchmark_returns with
  | none => exact .inl ⟨rfl, fun s _ => rfl⟩
  | some benchmark_returns =>
    by_cases hbeta : HasBeta window.returns.rows benchmark_returns
    · right
      refine ⟨fun s => slope window.returns.rows (return_of s) benchmark_returns, ?_, ?_⟩
      · intro s hs
        show (beta (column s) benchmark_returns).toOption = _
        rw [hcolumn s hs, beta_of_series _ _ _ hbeta]
        rfl
      · show (beta series benchmark_returns).toOption = _
        rw [hseries, beta_of_series _ _ _ hbeta]
        -- The slope is linear in the column.
        have hlinear := Statistics.scatter_weighted (paired window.returns.rows benchmark_returns)
          symbols weight (fun s pair => return_of s pair.1) Prod.snd
        refine congrArg some ?_
        unfold slope
        rw [show (fun pair : ReturnRow × ℚ => weighted symbols weight return_of pair.1)
          = weighted symbols weight (fun s pair => return_of s pair.1) from rfl, hlinear,
          div_eq_mul_inv, ← List.sum_map_mul_right]
        congr 1
        apply List.map_congr_left
        intro s _
        ring
    · left
      constructor
      · rw [hseries]
        exact beta_of_series_none _ _ _ hbeta
      · intro s hs
        show (beta (column s) benchmark_returns).toOption = none
        rw [hcolumn s hs]
        exact beta_of_series_none _ _ _ hbeta

/-- Some holding is at least as volatile as the mix. -/
theorem volatility_of_weighted (hroot : rt.OrderedRoot) {rows : List ReturnRow}
    (hlength : 2 ≤ rows.length) {symbols : List String} {weight : String → ℚ}
    (hweight : ∀ s ∈ symbols, 0 ≤ weight s) (hsum : (symbols.map weight).sum = 1)
    {periods_per_year : ℚ} (hperiods : 0 ≤ periods_per_year) :
    ∃ s ∈ symbols, ∃ mixed most,
      metrics.annualized_volatility rt ((series_of rows (weighted symbols weight return_of)).map
          (fun row => Python.Float.num row.2)) periods_per_year = some (.num mixed) ∧
        metrics.annualized_volatility rt ((series_of rows (return_of s)).map
          (fun row => Python.Float.num row.2)) periods_per_year = some (.num most) ∧
        mixed ≤ most := by
  obtain ⟨s, hs, hle⟩ : ∃ s ∈ symbols, scatter rows (weighted symbols weight return_of)
      (weighted symbols weight return_of) ≤ scatter rows (return_of s) (return_of s) :=
    Statistics.exists_scatter_le hweight hsum
  have hcount : (0 : ℚ) ≤ rows.length - 1 := by
    have hone : (1 : ℚ) ≤ rows.length := by exact_mod_cast (by omega : 1 ≤ rows.length)
    linarith
  have hvariance : 0 ≤ scatter rows (weighted symbols weight return_of)
      (weighted symbols weight return_of) / (rows.length - 1) :=
    div_nonneg (Statistics.scatter_self_nonneg _) hcount
  refine ⟨s, hs, _, _, annualized_volatility_of_series rt rows _ periods_per_year hlength,
    annualized_volatility_of_series rt rows _ periods_per_year hlength, ?_⟩
  refine mul_le_mul_of_nonneg_right ?_ (hroot.nonneg _ hperiods)
  exact hroot.mono _ _ hvariance (div_le_div_of_nonneg_right hle hcount)

/-- **Main result**: over one window, the returns and the beta of a portfolio are the
    weighted sums of its holdings', and it is no more volatile than all of them. -/
theorem report_diversifies (hroot : rt.OrderedRoot)
    (h : analyze_portfolio_risk rt loader portfolio start end_ interval benchmark risk_free_rate
      = .ok report)
    (halone : ∀ holding ∈ report.portfolio.holdings,
      analyze rt (report.portfolio.only holding) report.window risk_free_rate
        = .ok (alone holding.symbol)) : Diversified report alone := by
  obtain ⟨hwindow, hreport⟩ := sources_of_analyze_portfolio_risk h
  have hsound : report.window.Sound := sound_of_load_window portfolio.distinct hwindow
  obtain ⟨hvalued, hweights, hseries, hbeta, hvolatility⟩ :=
    return_series_of_analyze hsound hreport
  have hseries_alone : ∀ s ∈ report.portfolio.symbols,
      (alone s).return_series = series_of report.window.returns.rows (return_of s) := by
    intro s hs
    obtain ⟨holding, hholding, rfl⟩ := List.mem_map.mp hs
    exact return_series_of_only hsound (halone holding hholding)
  have hmetrics_alone : ∀ s ∈ report.portfolio.symbols,
      (alone s).metrics.beta = (window_beta report.window (alone s).return_series).toOption ∧
        (alone s).metrics.annualized_volatility = metrics.annualized_volatility rt
          ((alone s).return_series.map (fun row => Python.Float.num row.2))
          report.window.periods_per_year := by
    intro s hs
    obtain ⟨holding, hholding, rfl⟩ := List.mem_map.mp hs
    obtain ⟨-, -, -, hfacts⟩ := return_series_of_analyze hsound (halone holding hholding)
    exact hfacts
  -- More than twenty closes make twenty returns.
  have hlength : 2 ≤ report.window.returns.rows.length := by
    obtain ⟨frames, -, hbuilt⟩ := load_window_eq_ok.mp hwindow
    obtain ⟨-, hreturns, hmany, -⟩ := build_window_eq_ok hbuilt
    have hindex := congrArg List.length (DataFrame.index_pct_change report.window.closes)
    rw [← hreturns, Calendar.index, Calendar.index, List.length_tail, List.length_map,
      List.length_map] at hindex
    have htwenty : 20 < report.window.closes.rows.length := hmany
    omega
  have hperiods : 0 ≤ report.window.periods_per_year :=
    (BacktestConfig.periods_per_year_pos _).le
  constructor
  · exact hseries
  · exact hseries_alone
  · rw [hbeta]
    rcases beta_of_weighted hseries hseries_alone with ⟨hnone, hnone_alone⟩ | ⟨b, hb, hsum⟩
    · exact .inl ⟨hnone, fun s hs => by rw [(hmetrics_alone s hs).1, hnone_alone s hs]⟩
    · exact .inr ⟨b, fun s hs => by rw [(hmetrics_alone s hs).1, hb s hs], hsum⟩
  · rw [hweights] at hseries
    obtain ⟨s, hs, mixed, most, hmixed, hmost, hle⟩ := volatility_of_weighted hroot hlength
      (weight_nonneg hvalued) (sum_weight hsound hvalued) hperiods
    refine ⟨s, hs, mixed, most, ?_, ?_, hle⟩
    · rw [hvolatility, hseries, hmixed]
    · rw [(hmetrics_alone s hs).2, hseries_alone s hs, hmost]

end Diversification

/-- Of two holdings that move apart, one is at least as volatile as both. -/
theorem two_holdings_diversify :
    ∃ report alone,
      analyze_portfolio_risk machine_runtime paths two_holdings "2024-01-01" "2024-12-31" "1d"
        none 0 = .ok report ∧ Diversified report alone := by
  have hroot : machine_runtime.OrderedRoot :=
    ⟨fun x _ => Binary64.sqrt_nonneg x, fun _ _ _ hle => Binary64.sqrt_mono hle⟩
  obtain ⟨window, hwindow, hreports⟩ := Outcome.exists_of_any
    (show (load_window paths two_holdings.symbols "2024-01-01" "2024-12-31" "1d"
        (resolved_benchmark none two_holdings)).toOption.any (fun window =>
      two_holdings.symbols.all (fun s => s ∈ window.symbols) &&
        (analyze machine_runtime two_holdings window 0).isOk &&
        (analyze machine_runtime (two_holdings.only ten_shares) window 0).isOk &&
        (analyze machine_runtime (two_holdings.only sixty_infosys) window 0).isOk) = true
      by decide +kernel)
  simp only [Bool.and_eq_true] at hreports
  obtain ⟨⟨⟨hkept, hreport⟩, hshares⟩, hinfosys⟩ := hreports
  obtain ⟨report, hreport⟩ := Outcome.exists_eq_ok hreport
  obtain ⟨shares, hshares⟩ := Outcome.exists_eq_ok hshares
  obtain ⟨infosys, hinfosys⟩ := Outcome.exists_eq_ok hinfosys
  have hrequest : analyze_portfolio_risk machine_runtime paths two_holdings "2024-01-01"
      "2024-12-31" "1d" none 0 = .ok report := by
    simp only [analyze_portfolio_risk, hwindow, bind, Except.bind, hkept, if_true, hreport]
  obtain ⟨hportfolio, hsame⟩ := analyze_keeps hreport
  refine ⟨report, fun s => if s = "TCS.NS" then shares else infosys, hrequest,
    report_diversifies hroot hrequest ?_⟩
  rw [hportfolio, hsame]
  intro holding hholding
  rcases List.mem_cons.mp hholding with rfl | hholding
  · exact hshares
  · obtain rfl := List.mem_singleton.mp hholding
    exact hinfosys

end risk

end Quantora
