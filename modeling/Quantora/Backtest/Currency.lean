import Quantora.Backtest.Units
import Quantora.Strategy.Causality

/-! # A backtest in another currency

    The metrics of a converted curve and converted trades, and the whole run:
    signals, orders and returns are the same, amounts are multiplied.

    Two metrics compare an amount with an absolute tolerance: `profit_factor` is
    not given for a gross loss below it, `turnover` for an average equity below
    it. They agree where both runs give them. -/

namespace Quantora

/-! ## Curves -/

namespace metrics

variable (c : Rate) (equity : List ℚ)

/-- A float that is divided by another amount. -/
theorem ratio_convert (x y : ℚ) :
    (Python.Float.num (c.1 * x)).div (.num (c.1 * y)) = (Python.Float.num x).div (.num y) := by
  simp only [Python.Float.div, mul_eq_zero, c.2.ne', false_or, mul_div_mul_left _ _ c.2.ne',
    c.mul_neg_iff]

theorem returns_convert :
    returns_from_equity (equity.map (c.1 * ·)) = returns_from_equity equity := by
  have htail : (equity.map (c.1 * ·)).tail = equity.tail.map (c.1 * ·) := List.map_tail.symm
  simp only [returns_from_equity, htail, List.zipWith_map, ratio_convert]

theorem cummax_convert : cummax (equity.map (c.1 * ·)) = (cummax equity).map (c.1 * ·) := by
  refine Equivariant.scan (Option.map (c.1 * ·)) (fun peak x => ?_) none equity
  have hpeak : (peak.map (c.1 * ·)).elim (c.1 * x) (max · (c.1 * x))
      = c.1 * peak.elim x (max · x) := by
    cases peak with
    | none => rfl
    | some peak => exact (mul_max_of_nonneg _ _ c.2.le).symm
  simp only [hpeak, Option.map_some]

theorem max_drawdown_convert : max_drawdown (equity.map (c.1 * ·)) = max_drawdown equity := by
  simp only [max_drawdown, drawdown_curve, cummax_convert, List.zipWith_map, ratio_convert,
    List.isEmpty_map]

theorem max_drawdown_duration_convert :
    max_drawdown_duration (equity.map (c.1 * ·)) = max_drawdown_duration equity := by
  simp only [max_drawdown_duration, underwater, cummax_convert, List.zipWith_map,
    mul_lt_mul_iff_of_pos_left c.2, List.isEmpty_map]

theorem getD_convert (value : Option ℚ) : (value.map (c.1 * ·)).getD 0 = c.1 * value.getD 0 := by
  cases value with
  | none => exact (mul_zero _).symm
  | some x => rfl

theorem cagr_convert (rt : Runtime) (periods_per_year : ℚ) :
    cagr rt (equity.map (c.1 * ·)) periods_per_year = cagr rt equity periods_per_year := by
  simp only [cagr, List.length_map, List.head?_map, List.getLast?_map, getD_convert,
    c.mul_nonpos_iff, mul_div_mul_left _ _ c.2.ne']

/-! ## Trades -/

variable (trades : List Trade)

theorem win_rate_convert : win_rate (trades.map (Trade.convert c)) = win_rate trades := by
  have hwin : Trade.is_win ∘ Trade.convert c = Trade.is_win := by
    funext trade
    show decide (0 < c.1 * trade.pnl) = decide (0 < trade.pnl)
    simp only [mul_pos_iff_of_pos_left c.2]
  simp only [win_rate, List.isEmpty_map, List.filter_map, List.length_map, hwin]

theorem pnl_convert :
    (trades.map (Trade.convert c)).map Trade.pnl = (trades.map Trade.pnl).map (c.1 * ·) := by
  rw [List.map_map, List.map_map]
  rfl

theorem wins_convert : wins (trades.map (Trade.convert c)) = (wins trades).map (c.1 * ·) := by
  rw [wins, pnl_convert, List.filter_map]
  refine congrArg (List.map _) (List.filter_congr fun pnl _ => ?_)
  simp only [Function.comp, mul_pos_iff_of_pos_left c.2]

theorem losses_convert : losses (trades.map (Trade.convert c)) = (losses trades).map (c.1 * ·) := by
  rw [losses, pnl_convert, List.filter_map]
  refine congrArg (List.map _) (List.filter_congr fun pnl _ => ?_)
  simp only [Function.comp, c.mul_neg_iff]

theorem average_convert (values : List ℚ) :
    average (values.map (c.1 * ·)) = (average values).map (c.1 * ·) := by
  simp only [average, List.isEmpty_map, c.sum_map_mul, List.length_map]
  split_ifs
  · rfl
  · exact congrArg some (mul_div_assoc ..)

/-- A profit factor that is given is the ratio. -/
theorem profit_factor_eq_some {trades : List Trade} {x : ℚ} (h : profit_factor trades = some x) :
    x = (wins trades).sum / -(losses trades).sum := by
  simp only [profit_factor] at h
  split_ifs at h
  exact (Option.some.inj h).symm

theorem turnover_eq_some {equity : List ℚ} {periods_per_year initial_cash traded_notional x : ℚ}
    (h : turnover equity periods_per_year initial_cash traded_notional = some x) :
    x = traded_notional / (equity.sum / equity.length)
      / (((equity.length : ℚ) - 1) / periods_per_year) := by
  unfold turnover at h
  split_ifs at h
  simp only at h
  split_ifs at h
  exact (Option.some.inj h).symm

end metrics

/-! ## The metric set -/

/-- Ratios stay, amounts are multiplied. -/
structure Metrics.Converted (c : Rate) (m m' : Metrics) : Prop where
  total_return : m'.total_return = m.total_return
  cagr : m'.cagr = m.cagr
  annualized_volatility : m'.annualized_volatility = m.annualized_volatility
  sharpe : m'.sharpe = m.sharpe
  sortino : m'.sortino = m.sortino
  max_drawdown : m'.max_drawdown = m.max_drawdown
  max_drawdown_duration_bars : m'.max_drawdown_duration_bars = m.max_drawdown_duration_bars
  calmar : m'.calmar = m.calmar
  win_rate : m'.win_rate = m.win_rate
  /-- Not given below an absolute tolerance. -/
  profit_factor : ∀ x x', m.profit_factor = some x → m'.profit_factor = some x' → x' = x
  trade_count : m'.trade_count = m.trade_count
  winning_trades : m'.winning_trades = m.winning_trades
  losing_trades : m'.losing_trades = m.losing_trades
  average_win : m'.average_win = m.average_win.map (c.1 * ·)
  average_loss : m'.average_loss = m.average_loss.map (c.1 * ·)
  /-- Not given below an absolute tolerance. -/
  turnover : ∀ x x', m.turnover = some x → m'.turnover = some x' → x' = x
  exposure : m'.exposure = m.exposure
  total_costs : m'.total_costs = c * m.total_costs
  cost_drag : m'.cost_drag = m.cost_drag
  final_equity : m'.final_equity = c * m.final_equity

theorem metrics.compute_convert (c : Rate) (rt : Runtime) (equity : List ℚ) (trades : List Trade)
    (periods_per_year : {p : ℚ // 0 < p}) (risk_free_rate initial_cash total_costs
    traded_notional : ℚ) (exposure : Option (List ℚ)) :
    (metrics.compute rt equity trades periods_per_year risk_free_rate initial_cash total_costs
        traded_notional exposure).Converted c
      (metrics.compute rt (equity.map (c.1 * ·)) (trades.map (Trade.convert c)) periods_per_year
        risk_free_rate (c * initial_cash) (c * total_costs) (c * traded_notional) exposure) := by
  have hreturns := returns_convert c equity
  have hcagr := cagr_convert c equity rt periods_per_year.1
  have hdrawdown := max_drawdown_convert c equity
  have hfinal : (equity.map (c.1 * ·)).getLast?.getD (c.1 * initial_cash)
      = c.1 * equity.getLast?.getD initial_cash := by
    rw [List.getLast?_map]
    cases equity.getLast? <;> rfl
  have hcash : ∀ x : ℚ, (if c.1 * initial_cash = 0 then 0 else c.1 * x / (c.1 * initial_cash))
      = if initial_cash = 0 then 0 else x / initial_cash := by
    intro x
    simp only [mul_eq_zero, c.2.ne', false_or, mul_div_mul_left _ _ c.2.ne']
  exact
    { total_return := by
        simp only [metrics.compute, hfinal, mul_eq_zero, c.2.ne', false_or,
          mul_div_mul_left _ _ c.2.ne']
      cagr := hcagr
      annualized_volatility := by simp only [metrics.compute, hreturns]
      sharpe := by simp only [metrics.compute, hreturns]
      sortino := by simp only [metrics.compute, hreturns]
      max_drawdown := hdrawdown
      max_drawdown_duration_bars := max_drawdown_duration_convert c equity
      calmar := by simp only [metrics.compute, hcagr, hdrawdown]
      win_rate := win_rate_convert c trades
      profit_factor := by
        intro x x' hx hx'
        rw [profit_factor_eq_some hx, profit_factor_eq_some hx', wins_convert, losses_convert,
          c.sum_map_mul, c.sum_map_mul, ← mul_neg, mul_div_mul_left _ _ c.2.ne']
      trade_count := List.length_map _
      winning_trades := by simp only [metrics.compute, wins_convert, List.length_map]
      losing_trades := by simp only [metrics.compute, losses_convert, List.length_map]
      average_win := by simp only [metrics.compute, wins_convert, average_convert]
      average_loss := by simp only [metrics.compute, losses_convert, average_convert]
      turnover := by
        intro x x' hx hx'
        rw [turnover_eq_some hx, turnover_eq_some hx', c.sum_map_mul, List.length_map,
          mul_div_assoc c.1 equity.sum, mul_div_mul_left _ _ c.2.ne']
      exposure := rfl
      total_costs := rfl
      cost_drag := hcash total_costs
      final_equity := hfinal }

/-- The growth and the returns are the same, so the powers overflow alike. -/
theorem metrics.raising_compute_convert (c : Rate) (rt : Runtime) (equity : List ℚ)
    (trades : List Trade) (periods_per_year : {p : ℚ // 0 < p}) (risk_free_rate initial_cash
    total_costs traded_notional : ℚ) (exposure : Option (List ℚ)) :
    Outcome.Related (Metrics.Converted c)
      (metrics.raising.compute rt equity trades periods_per_year risk_free_rate initial_cash
        total_costs traded_notional exposure)
      (metrics.raising.compute rt (equity.map (c.1 * ·)) (trades.map (Trade.convert c))
        periods_per_year risk_free_rate (c * initial_cash) (c * total_costs)
        (c * traded_notional) exposure) := by
  have hannual : metrics.AnnualOverflows (equity.map (c.1 * ·)) periods_per_year.1 ↔
      metrics.AnnualOverflows equity periods_per_year.1 := by
    simp only [metrics.AnnualOverflows, List.length_map, List.head?_map, List.getLast?_map,
      metrics.getD_convert, mul_pos_iff_of_pos_left c.2, mul_div_mul_left _ _ c.2.ne']
  rw [metrics.raising.compute_eq, metrics.raising.compute_eq, returns_convert c equity]
  simp only [hannual]
  split_ifs
  · exact .error _
  · exact .ok (metrics.compute_convert c rt equity trades periods_per_year risk_free_rate
      initial_cash total_costs traded_notional exposure)

/-! ## The run -/

/-- A backtest in either currency. -/
structure BacktestRun.Converted (c : Rate) (run run' : BacktestRun) : Prop where
  signals : run'.signals.frame = run.signals.frame
  simulation : run.simulation.Converted c run'.simulation
  metrics : run.metrics.Converted c run'.metrics

theorem metrics_of_convert {c : Rate} {rt : Runtime} {interval : String} {config : BacktestConfig}
    {out out' : SimulationOutput} (h : out.Converted c out') :
    Outcome.Related (Metrics.Converted c) (metrics_of rt interval config out)
      (metrics_of rt interval (config.convert c) out') := by
  have hequity : out'.equity_curve.map Prod.snd
      = (out.equity_curve.map Prod.snd).map (c.1 * ·) := by
    rw [h.equity_curve, List.map_map, List.map_map]
    rfl
  have hcosts : out'.portfolio.total_commission + out'.portfolio.total_slippage
      = c.1 * (out.portfolio.total_commission + out.portfolio.total_slippage) := by
    rw [h.portfolio, mul_add]
    rfl
  have htrades : out'.portfolio.trades = out.portfolio.trades.map (Trade.convert c) := by
    rw [h.portfolio]
    rfl
  have hnotional : out'.portfolio.total_traded_notional
      = c.1 * out.portfolio.total_traded_notional := by
    rw [h.portfolio]
    rfl
  have hcash : (config.convert c).initial_cash = c.1 * config.initial_cash := rfl
  have hrate : (config.convert c).risk_free_rate = config.risk_free_rate := rfl
  rw [metrics_of, metrics_of, hequity, htrades, hcosts, hnotional, h.exposure, hcash, hrate]
  exact metrics.raising_compute_convert c rt _ _ _ _ _ _ _ _

theorem run_backtest_convert (c : Rate) {rt : Runtime} {strategy : RegisteredStrategy}
    (halone : strategy.auxiliary_symbols = [])
    (hroot : ∀ p, strategy = .bollinger p → rt.RootConverts c)
    (series : PriceSeries) (config : BacktestConfig) :
    Outcome.Related (BacktestRun.Converted c) (run_backtest rt series strategy none config)
      (run_backtest rt (series.convert c) strategy none (config.convert c)) := by
  refine ((generate_signals_convert halone hroot series).mapError _).bind
    fun signals signals' hsignals => ?_
  have hsized : strategy.contract.BaseSized := rfl
  refine ((simulate_convert hsized rfl hsignals series).mapError _).bind
    fun simulation simulation' hsimulation => ?_
  refine ((metrics_of_convert hsimulation).mapError _).bind
    fun metrics metrics' hmetrics => .ok ?_
  exact
    { signals := hsignals
      simulation := hsimulation
      metrics := hmetrics }

theorem two_zpow_pos (k : ℤ) : (0 : ℚ) < 2 ^ k := zpow_pos two_pos k

def power_of_two (k : ℤ) : Rate := ⟨2 ^ k, two_zpow_pos k⟩

/-- **Main result**: prices, starting cash and minimum commission in a unit that is
    a power of two give the same backtest in that unit, or fail alike. Every
    strategy of one series is meant; Bollinger bands take roots, and the root of
    floats gives a power of two back. -/
theorem run_backtest_in_currency (k : ℤ) {rt : Runtime} {strategy : RegisteredStrategy}
    (halone : strategy.auxiliary_symbols = [])
    (hroot : ∀ p, strategy = .bollinger p →
      ∀ x, 0 ≤ x → rt.sqrt (4 ^ k * x) = 2 ^ k * rt.sqrt x)
    (series : PriceSeries) (config : BacktestConfig) :
    Outcome.Related (BacktestRun.Converted (power_of_two k))
      (run_backtest rt series strategy none config)
      (run_backtest rt (series.convert (power_of_two k)) strategy none
        (config.convert (power_of_two k))) := by
  have hsquare : (2 : ℚ) ^ k * 2 ^ k = 4 ^ k := by
    rw [← mul_zpow]
    norm_num
  have hconverts : ∀ p, strategy = .bollinger p → rt.RootConverts (power_of_two k) := by
    intro p hp x hx
    show rt.sqrt (2 ^ k * 2 ^ k * x) = 2 ^ k * rt.sqrt x
    rw [hsquare]
    exact hroot p hp x hx
  exact run_backtest_convert (power_of_two k) halone hconverts series config

/-- Bands over five bars, with a short side. -/
def five_bar_bands : Bollinger.Parameters where
  window := ⟨5, by decide +kernel⟩
  num_std := ⟨some 1, by simp [Bollinger.num_std]; norm_num⟩
  exit_at_middle := false
  allow_short := true

/-- Prices that rise, fall and rise again. -/
def zigzag : PriceSeries :=
  daily_series "INFY.NS" [100, 101, 103, 106, 110, 108, 104, 99, 93, 97, 104, 112]

/-- The same run with prices in eighths. It trades, on bands whose widths are
    rounded roots. -/
theorem zigzag_in_currency :
    ∃ run run', run_backtest machine_runtime zigzag (.bollinger five_bar_bands) none default
          = .ok run ∧
      run_backtest machine_runtime (zigzag.convert (power_of_two 3)) (.bollinger five_bar_bands)
        none ((default : BacktestConfig).convert (power_of_two 3)) = .ok run' ∧
      run.simulation.portfolio.trades ≠ [] ∧ run.Converted (power_of_two 3) run' := by
  obtain ⟨run, hrun, htrades⟩ := Outcome.exists_of_any
    (show (run_backtest machine_runtime zigzag (.bollinger five_bar_bands) none
        default).toOption.any (fun run => run.simulation.portfolio.trades ≠ []) = true
      by decide +kernel)
  have halone : (RegisteredStrategy.bollinger five_bar_bands).auxiliary_symbols = [] := rfl
  obtain ⟨run', hrun', hconverted⟩ := (run_backtest_in_currency 3 halone
    (fun _ _ x _ => Binary64.sqrt_four_zpow_mul 3 x) zigzag default).exists_of_ok hrun
  exact ⟨run, run', hrun, hrun', of_decide_eq_true htrades, hconverted⟩

end Quantora
