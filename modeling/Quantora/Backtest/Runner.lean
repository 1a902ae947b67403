import Quantora.Data.Service
import Quantora.Strategy.Registry
import Quantora.Backtest.Metrics
import Quantora.Backtest.Simulate

/-! # The runner

    `runner.py`: one backtest from end to end, data -> signals -> simulation ->
    metrics.

    A strategy may declare further instruments. `resolve_auxiliary_series`
    fetches them over the same window and injects them; pair trading is the
    registered strategy that declares one. -/

namespace Quantora

open Python (PyError)

/-- The errors of the three layers a run goes through. -/
inductive EngineError where
  | data (error : DataError)
  /-- The model ends here: see `LoadError`. -/
  | infinite_price
  | strategy (error : StrategyError)
  | python (error : PyError)
  deriving DecidableEq, Repr

def EngineError.of_load : LoadError → EngineError
  | .data error => .data error
  | .infinite_price => .infinite_price

/-- One completed backtest, in memory. -/
structure BacktestRun where
  symbol : String
  strategy : RegisteredStrategy
  series : PriceSeries
  signals : SignalSet
  simulation : SimulationOutput
  metrics : Metrics
  config : BacktestConfig

/-- The metrics of a finished simulation. -/
def metrics_of (rt : Runtime) (interval : String) (config : BacktestConfig)
    (simulation : SimulationOutput) : Except PyError Metrics :=
  metrics.raising.compute rt (simulation.equity_curve.map Prod.snd) simulation.portfolio.trades
    ⟨BacktestConfig.periods_per_year interval, BacktestConfig.periods_per_year_pos interval⟩
    config.risk_free_rate config.initial_cash
    (simulation.portfolio.total_commission + simulation.portfolio.total_slippage)
    simulation.portfolio.total_traded_notional (some (simulation.exposure.map Prod.snd))

/-- Run one strategy, with the second leg it was given, over one validated price
    series. -/
def run_backtest (rt : Runtime) (series : PriceSeries) (strategy : RegisteredStrategy)
    (pair : Option PriceSeries) (config : BacktestConfig) : Except EngineError BacktestRun := do
  let signals ← (strategy.generate_signals rt pair series).mapError .strategy
  let simulation ← (simulate series strategy.contract signals config).mapError .python
  let metrics ← (metrics_of rt series.interval config simulation).mapError .python
  .ok
    { symbol := series.symbol
      strategy := strategy
      series := series
      signals := signals
      simulation := simulation
      metrics := metrics
      config := config }

/-! ## The second leg -/

/-- `attach_auxiliary_series`: the series that the strategy keeps. -/
def RegisteredStrategy.attach_auxiliary_series (rt : Runtime) (series : PriceSeries) :
    RegisteredStrategy → Except StrategyError PriceSeries
  | .pair_trading p =>
    if rt.casefold series.symbol ≠ rt.casefold p.pair_symbol.1 then
      .error (.InvalidParametersError ("pair_symbol is " ++ rt.repr (.str p.pair_symbol.1)
        ++ " but the injected series is for " ++ rt.repr (.str series.symbol)
        ++ ". The saved parameters must describe the data that was actually used, so either fix "
        ++ "the parameter or inject the matching series."))
    else .ok series
  | strategy =>
    .error (.NotImplementedError (strategy.name
      ++ " does not take auxiliary series (auxiliary_symbols() is empty), but one for "
      ++ rt.repr (.str series.symbol) ++ " was supplied."))

/-- A pair of one instrument is refused. -/
def both_legs (rt : Runtime) (strategy : RegisteredStrategy) (symbol : String) : EngineError :=
  .data (.InvalidRequestError (strategy.name ++ " was configured with "
    ++ rt.repr (.str symbol) ++ " as both the primary instrument and its second leg. "
    ++ "A spread against itself is identically zero, so there is nothing to trade."))

/-- Fetch and inject any extra instruments a strategy declares. -/
def resolve_auxiliary_series (rt : Runtime) (provider : PriceProvider)
    (strategy : RegisteredStrategy) (start end_ interval primary_symbol : String) :
    Except EngineError (Option PriceSeries) :=
  strategy.auxiliary_symbols.foldlM
    (fun _ symbol =>
      if symbol = primary_symbol then
        .error (both_legs rt strategy symbol)
      else do
        let series ← (load_prices rt provider symbol start end_ interval).mapError .of_load
        let attached ← (strategy.attach_auxiliary_series rt series).mapError .strategy
        .ok (some attached))
    none

/-! ## End to end -/

/-- What one backtest is asked for. -/
structure RunRequest where
  symbol : String
  strategy : String
  start : String
  end_ : String
  interval : String
  parameters : List (String × Json)
  config : BacktestConfig

/-- `run_backtest_for_symbol`: fetch data and run a backtest end to end. -/
def run_backtest_for_symbol (rt : Runtime) (provider : PriceProvider) (request : RunRequest) :
    Except EngineError BacktestRun := do
  let series ← (load_prices rt provider request.symbol request.start request.end_
    request.interval).mapError .of_load
  let strategy ← (RegisteredStrategy.create rt request.strategy request.parameters).mapError
    .strategy
  let pair ← resolve_auxiliary_series rt provider strategy request.start request.end_
    request.interval request.symbol
  run_backtest rt series strategy pair request.config

/-! ## What a run reads -/

/-- The three steps of a run, and what it keeps of its inputs. -/
theorem run_backtest_steps {rt : Runtime} {series : PriceSeries} {strategy : RegisteredStrategy}
    {pair : Option PriceSeries} {config : BacktestConfig} {run : BacktestRun}
    (h : run_backtest rt series strategy pair config = .ok run) :
    (run.strategy = strategy ∧ run.series = series ∧ run.config = config) ∧
      strategy.generate_signals rt pair series = .ok run.signals ∧
      simulate series strategy.contract run.signals config = .ok run.simulation ∧
      metrics_of rt series.interval config run.simulation = .ok run.metrics := by
  obtain ⟨signals, hsignals, h⟩ := Outcome.bind_eq_ok.mp h
  obtain ⟨simulation, hsimulation, h⟩ := Outcome.bind_eq_ok.mp h
  obtain ⟨metrics, hmetrics, h⟩ := Outcome.bind_eq_ok.mp h
  obtain rfl := Except.ok.inj h
  exact ⟨⟨rfl, rfl, rfl⟩, Outcome.mapError_eq_ok.mp hsignals,
    Outcome.mapError_eq_ok.mp hsimulation, Outcome.mapError_eq_ok.mp hmetrics⟩

theorem run_backtest_eq_ok {rt : Runtime} {series : PriceSeries} {strategy : RegisteredStrategy}
    {pair : Option PriceSeries} {config : BacktestConfig} {run : BacktestRun}
    (h : run_backtest rt series strategy pair config = .ok run) :
    run.strategy = strategy ∧ run.series = series ∧ run.config = config :=
  (run_backtest_steps h).1

/-- The primary series, the strategy and the second leg of a run. -/
theorem run_backtest_for_symbol_eq_ok {rt : Runtime} {provider : PriceProvider}
    {request : RunRequest} {run : BacktestRun}
    (h : run_backtest_for_symbol rt provider request = .ok run) :
    ∃ pair,
      load_prices rt provider request.symbol request.start request.end_ request.interval
        = .ok run.series ∧
      RegisteredStrategy.create rt request.strategy request.parameters = .ok run.strategy ∧
      resolve_auxiliary_series rt provider run.strategy request.start request.end_
        request.interval request.symbol = .ok pair ∧
      run_backtest rt run.series run.strategy pair request.config = .ok run := by
  obtain ⟨series, hseries, h⟩ := Outcome.bind_eq_ok.mp h
  obtain ⟨strategy, hstrategy, h⟩ := Outcome.bind_eq_ok.mp h
  obtain ⟨pair, hpair, h⟩ := Outcome.bind_eq_ok.mp h
  obtain ⟨rfl, rfl, -⟩ := run_backtest_eq_ok h
  exact ⟨pair, Outcome.mapError_eq_ok.mp hseries, Outcome.mapError_eq_ok.mp hstrategy, hpair, h⟩

theorem attach_auxiliary_series_eq {rt : Runtime} {series kept : PriceSeries}
    {strategy : RegisteredStrategy}
    (h : strategy.attach_auxiliary_series rt series = .ok kept) : kept = series := by
  cases strategy with
  | pair_trading p =>
    simp only [RegisteredStrategy.attach_auxiliary_series] at h
    split_ifs at h
    exact (Except.ok.inj h).symm
  | macd p => cases h
  | bollinger p => cases h
  | dual_thrust p => cases h

/-- The second leg of a run is fetched over the same window, if there is one. -/
theorem resolve_auxiliary_series_eq_ok {rt : Runtime} {provider : PriceProvider}
    {strategy : RegisteredStrategy} {start end_ interval primary_symbol : String}
    {pair : Option PriceSeries}
    (h : resolve_auxiliary_series rt provider strategy start end_ interval primary_symbol
      = .ok pair) :
    (strategy.auxiliary_symbols = [] ∧ pair = none) ∨
      ∃ symbol series, strategy.auxiliary_symbols = [symbol] ∧ pair = some series ∧
        load_prices rt provider symbol start end_ interval = .ok series := by
  cases strategy with
  | macd p => exact .inl ⟨rfl, (Except.ok.inj h).symm⟩
  | bollinger p => exact .inl ⟨rfl, (Except.ok.inj h).symm⟩
  | dual_thrust p => exact .inl ⟨rfl, (Except.ok.inj h).symm⟩
  | pair_trading p =>
    right
    rw [resolve_auxiliary_series, RegisteredStrategy.auxiliary_symbols, List.foldlM_cons] at h
    obtain ⟨attached, hattached, h⟩ := Outcome.bind_eq_ok.mp h
    obtain rfl := Except.ok.inj h
    by_cases hprimary : p.pair_symbol.1 = primary_symbol
    · rw [if_pos hprimary] at hattached
      cases hattached
    rw [if_neg hprimary] at hattached
    obtain ⟨series, hseries, hattached⟩ := Outcome.bind_eq_ok.mp hattached
    obtain ⟨kept, hkept, hattached⟩ := Outcome.bind_eq_ok.mp hattached
    obtain rfl := Except.ok.inj hattached
    have hsame := attach_auxiliary_series_eq (Outcome.mapError_eq_ok.mp hkept)
    exact ⟨p.pair_symbol.1, series, rfl, by rw [hsame], Outcome.mapError_eq_ok.mp hseries⟩

end Quantora
