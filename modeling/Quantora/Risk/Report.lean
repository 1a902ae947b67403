import Quantora.Backtest.Metrics
import Quantora.Strategy.Indicators
import Quantora.Risk.Window

/-! # Risk reports

    `portfolio/risk.py` from a window on: the return series of a static-weight
    portfolio and the metrics of it. A metric that is undefined is `none`, and
    `unavailable` says why.

    * `portfolio_return_series`, `equity_index` — returns and their wealth index.
    * `align`, `beta` — the pairs that beta regresses, and the slope.
    * `risk_metrics`, `analyze` — `_metrics` and the report.
    * `analyze_portfolio_risk` — the entry point.

    The versions and quality reports of the datasets, which the report copies,
    are left out. -/

namespace Quantora

namespace risk

/-! ## Return series -/

/-- The return of a portfolio whose weights never change. -/
def portfolio_return_series (returns : DataFrame) (weights : Weights) :
    Except PortfolioError Series :=
  let missing := sorted (returns.columns.filter (fun s => (weights.get? s).isNone)).dedup
  if missing ≠ [] then
    .error (.invalid ("No weight supplied for " ++ join missing
      ++ ", so the portfolio return series would silently exclude them."))
  else
    .ok (returns.rows.map (fun row =>
      (row.1, (returns.columns.map (fun s => row.2 s * weight_of weights s)).sum)))

/-- The spacing used to place the starting point of the index. -/
def one_step : List Timestamp → ℤ
  | first :: second :: _ => second - first
  | _ => 86400000000000

/-- A wealth index, 1 on the bar before the first return. -/
def equity_index (returns : Series) : Except PortfolioError Series :=
  match returns with
  | [] => .error .IndexError
  | first :: _ =>
    .ok ((first.1 - one_step (Calendar.index returns), 1) ::
      Column.scan (fun level row => (level * (1 + row.2), (row.1, level * (1 + row.2)))) 1 returns)

/-! ## Beta -/

/-- `pd.concat([a, b], axis=1, join="inner")`. -/
def align (portfolio_returns benchmark_returns : Series) : List (Timestamp × ℚ × ℚ) :=
  portfolio_returns.filterMap (fun row =>
    (benchmark_returns.lookup row.1).map (fun benchmark => (row.1, row.2, benchmark)))

/-- Beta of the portfolio against the benchmark, or why there is none. -/
def beta (portfolio_returns benchmark_returns : Series) : Except String ℚ :=
  let aligned := align portfolio_returns benchmark_returns
  let portfolio := aligned.map (fun row => row.2.1)
  let benchmark := aligned.map (fun row => row.2.2)
  if aligned.length < MIN_RETURN_OBSERVATIONS then
    .error ("The portfolio and the benchmark overlap on only " ++ toString aligned.length
      ++ " sessions; at least " ++ toString MIN_RETURN_OBSERVATIONS
      ++ " return observations are needed.")
  else if indicators.variance benchmark ≤ EPSILON then
    .error ("The benchmark's returns have zero variance over this window, so beta "
      ++ "(covariance divided by the benchmark's variance) has no denominator.")
  else
    match (indicators.hedge_ratio (portfolio.map some) (benchmark.map some)
        aligned.length).getLast? with
    | some (some slope) => .ok slope
    | _ => .error "The regression of the portfolio on the benchmark did not resolve."

/-! ## Correlation -/

def DataFrame.column (frame : DataFrame) (symbol : String) : List ℚ :=
  frame.rows.map (fun row => row.2 symbol)

/-- `returns[symbol].var(ddof=0) <= EPSILON`. -/
def flat_column (returns : DataFrame) (symbol : String) : Bool :=
  indicators.variance (returns.column symbol) ≤ EPSILON

/-- The correlation of two columns, or why there is none. -/
def correlation (rt : Runtime) (returns : DataFrame) (a b : String) : Except String ℚ :=
  let window := returns.rows.length
  if flat_column returns a ∨ flat_column returns b then
    .error (join (sorted (([a, b].filter (flat_column returns)).dedup))
      ++ " had no return variation over this window, so the correlation is undefined — 0.0 would "
      ++ "claim the two are unrelated, which the data does not support.")
  else if a = b then .ok 1
  else if window < MIN_RETURN_OBSERVATIONS then
    .error ("Only " ++ toString window ++ " return observations; at least "
      ++ toString MIN_RETURN_OBSERVATIONS ++ " are needed.")
  else
    match (indicators.rolling_correlation rt ((returns.column a).map some)
        ((returns.column b).map some) window).getLast? with
    | some (some value) => .ok value
    | _ => .error "The correlation did not resolve to a finite value."

/-- Every pair of symbols, each once. -/
def symbol_pairs : List String → List (String × String)
  | [] => []
  | a :: symbols => (a :: symbols).map (fun b => (a, b)) ++ symbol_pairs symbols

structure CorrelationMatrix where
  symbols : List String
  matrix : List (String × List (String × Option ℚ))
  unavailable : List (String × String)
  deriving Repr

/-- Pairwise correlation of returns, with undefined pairs named. -/
def correlation_matrix (rt : Runtime) (returns : DataFrame) : CorrelationMatrix :=
  let pairs := symbol_pairs returns.columns
  let value (a b : String) : Option ℚ :=
    if (a, b) ∈ pairs then (correlation rt returns a b).toOption
    else (correlation rt returns b a).toOption
  { symbols := returns.columns
    matrix := returns.columns.map (fun a => (a, returns.columns.map (fun b => (b, value a b))))
    unavailable := pairs.filterMap (fun pair =>
      (reason_of (correlation rt returns pair.1 pair.2)).map
        (fun reason => (pair.1 ++ "|" ++ pair.2, reason))) }

/-! ## Metrics -/

structure RiskMetrics where
  total_return : ℚ
  annualized_return : Option ℚ
  annualized_volatility : Option Python.Float
  beta : Option ℚ
  sharpe : Option Python.Float
  sortino : Option Python.Float
  max_drawdown : Python.Float
  max_drawdown_duration_bars : ℕ
  total_value : ℚ
  largest_weight : ℚ
  top_n_weight : ℚ
  hhi : ℚ
  effective_holdings : Python.Float
  unavailable : List (String × String)

/-- Beta over a window, or why there is none. -/
def window_beta (window : MarketWindow) (portfolio_returns : Series) : Except String ℚ :=
  match window.benchmark_returns with
  | none =>
    .error (window.benchmark_unavailable.getD
      ("No usable benchmark series for " ++ window.benchmark_symbol ++ "."))
  | some benchmark_returns => beta portfolio_returns benchmark_returns

def flat : String :=
  "The portfolio's return series has no variance, so the ratio is undefined (not zero)."

/-- `_metrics`, from the return series and its wealth index. -/
def risk_metrics (rt : Runtime) (allocation : Allocation) (window : MarketWindow)
    (risk_free_rate : ℚ) (portfolio_returns equity : Series) : RiskMetrics :=
  let periods_per_year := window.periods_per_year
  let returns := portfolio_returns.map (fun row => Python.Float.num row.2)
  let levels := equity.map Prod.snd
  let too_few := "Only " ++ toString returns.length
    ++ " return observations in this window — too few to measure."
  let annualized_return := metrics.cagr rt levels periods_per_year
  let volatility := metrics.annualized_volatility rt returns periods_per_year
  let sharpe := metrics.sharpe rt returns periods_per_year risk_free_rate
  let sortino := metrics.sortino rt returns periods_per_year risk_free_rate
  let portfolio_beta := window_beta window portfolio_returns
  let concentration := allocation.concentration
  { total_return := levels.getLast?.getD 1 / levels.head?.getD 1 - 1
    annualized_return := annualized_return
    annualized_volatility := volatility
    beta := portfolio_beta.toOption
    sharpe := sharpe
    sortino := sortino
    max_drawdown := metrics.max_drawdown levels
    max_drawdown_duration_bars := metrics.max_drawdown_duration levels
    total_value := allocation.total_value
    largest_weight := concentration.largest_weight
    top_n_weight := concentration.top_n_weight
    hhi := concentration.hhi
    effective_holdings := concentration.effective_holdings
    unavailable :=
      metrics.record "annualized_return" annualized_return
          ("The window is too short, or the portfolio's value reached zero, so an annualised "
            ++ "rate would be an extrapolation rather than a measurement.")
        ++ metrics.record "annualized_volatility" volatility too_few
        ++ metrics.record "sharpe" sharpe (if 2 ≤ returns.length then flat else too_few)
        ++ metrics.record "sortino" sortino
          (if 2 ≤ returns.length then
            "The portfolio never closed a bar below the risk-free rate in this window, so there "
              ++ "is no downside deviation to divide by."
          else too_few)
        ++ ((reason_of portfolio_beta).map (fun reason => ("beta", reason))).toList }

/-! ## The report -/

/-- The assumptions behind every number in the report. -/
def assumptions (window : MarketWindow) (risk_free_rate : ℚ) : List String :=
  ["Weights are held constant at their as-of-date values for the whole return series "
      ++ "(a static-weight portfolio: Σ wᵢ·rᵢ,ₜ with the same w at every t). No rebalancing, "
      ++ "no drift, no contributions and no withdrawals are modelled.",
    "Correlation, beta, volatility and the ratios are computed on returns, never on price "
      ++ "levels: two trending price series correlate near ±1 by construction.",
    "Holdings are aligned on the " ++ toString window.returns.rows.length
      ++ " trading sessions they all share; "
      ++ "missing sessions are dropped rather than forward-filled, because a filled bar would "
      ++ "contribute an invented zero return.",
    "Beta is measured against " ++ window.benchmark_symbol ++ ".",
    "Sharpe and Sortino use a " ++ Python.fmt_percent 2 risk_free_rate
      ++ " annualised risk-free rate.",
    "Returns are annualised using " ++ Python.fmt_g window.periods_per_year
      ++ " periods per year for " ++ window.interval ++ " bars.",
    "Positions are valued at the close of the as-of date; no transaction costs, taxes or "
      ++ "bid/ask spread are applied to the valuation."]
    ++ (if window.dropped = [] then []
      else ["Excluded for insufficient history: "
        ++ join (window.dropped.map (fun d => d.1 ++ " (" ++ d.2 ++ ")"))])

/-- A risk report: one portfolio over one window. -/
structure Report where
  as_of : Option Timestamp
  portfolio : Portfolio
  window : MarketWindow
  observations : ℕ
  allocation : Allocation
  metrics : RiskMetrics
  correlation_matrix : CorrelationMatrix
  assumptions : List String
  return_series : Series
  equity_index : Series

/-- Full risk report for one portfolio over one already-loaded window. -/
def analyze (rt : Runtime) (portfolio : Portfolio) (window : MarketWindow) (risk_free_rate : ℚ) :
    Except PortfolioError Report := do
  let allocation ← portfolio.value window.prices_as_of
  let returns := window.returns.select (fun s => (allocation.weights.get? s).isSome)
  let portfolio_returns ← portfolio_return_series returns allocation.weights
  let equity ← equity_index portfolio_returns
  .ok
    { as_of := window.closes.rows.getLast?.map Prod.fst
      portfolio := portfolio
      window := window
      observations := returns.rows.length
      allocation := allocation
      metrics := risk_metrics rt allocation window risk_free_rate portfolio_returns equity
      correlation_matrix := correlation_matrix rt returns
      assumptions := assumptions window risk_free_rate
      return_series := portfolio_returns
      equity_index := equity }

/-- `benchmark or portfolio.benchmark or DEFAULT_BENCHMARK`. -/
def resolved_benchmark (benchmark : Option String) (portfolio : Portfolio) : String :=
  if benchmark.getD "" ≠ "" then benchmark.getD ""
  else if portfolio.benchmark ≠ "" then portfolio.benchmark
  else DEFAULT_BENCHMARK

/-- The holdings that survived alignment, as a portfolio. -/
def surviving (portfolio : Portfolio) (window : MarketWindow) (benchmark : String) :
    Except PortfolioError Portfolio :=
  Portfolio.new (portfolio.holdings.filter (fun h => h.symbol ∈ window.symbols)) portfolio.name
    portfolio.base_currency benchmark

/-- Load the window and produce the risk report. -/
def analyze_portfolio_risk (rt : Runtime) (loader : PriceLoader) (portfolio : Portfolio)
    (start end_ interval : String) (benchmark : Option String) (risk_free_rate : ℚ) :
    Except PortfolioError Report := do
  let resolved := resolved_benchmark benchmark portfolio
  let window ← load_window loader portfolio.symbols start end_ interval resolved
  -- The sets of symbols differ when a holding was dropped.
  let analysed ← if portfolio.symbols.all (fun s => s ∈ window.symbols) then .ok portfolio
    else surviving portfolio window resolved
  analyze rt analysed window risk_free_rate

end risk

end Quantora
