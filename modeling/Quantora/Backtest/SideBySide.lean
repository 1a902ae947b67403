import Quantora.Framework.Champion
import Quantora.Framework.Recall
import Quantora.Backtest.Compare
import Quantora.Backtest.Errors

/-! # Strategies side by side

    `compare_strategies` of `compare.py`: several strategies over one instrument
    and window. The provider revises history, so its answer may differ from call
    to call: the bars are fetched once, and a second leg is kept once it was
    fetched.

    * `Feed` — a provider, call by call; `Feed.frozen` is one moment of it for
      each instrument.
    * `run_backtest_for_symbol_with` — a run on data that was already fetched.
    * `compare_strategies` — the columns, the failures and the metric table. -/

namespace Quantora

/-! ## A provider that revises history -/

/-- What the provider answers at each call. -/
structure Feed where
  name : String
  /-- `fetch(provider_ticker, start, end, interval)`, at one call. -/
  fetch : ℕ → String → String → String → String → Except DataError RawFrame

namespace Feed

variable (feed : Feed)

/-- The provider at one call. -/
def at_call (n : ℕ) : PriceProvider where
  name := feed.name
  fetch := feed.fetch n

/-- A provider that answers every request for a ticker as the feed did at one
    moment. -/
def frozen (moment : String → ℕ) : PriceProvider where
  name := feed.name
  fetch ticker start end_ interval := feed.fetch (moment ticker) ticker start end_ interval

/-- `load_prices` at one call. -/
def prices (rt : Runtime) (start end_ interval : String) (n : ℕ) (symbol : String) :
    Except LoadError PriceSeries :=
  load_prices rt (feed.at_call n) symbol start end_ interval

end Feed

/-! ## Runs on fetched data -/

/-- `auxiliary_cache`, with the number of fetches so far. -/
abbrev Cache := Recall.Memo String PriceSeries

section Runs

variable (rt : Runtime) (feed : Feed)

/-- The loop of `resolve_auxiliary_series` over the symbols, with a cache. What
    was fetched stays in the cache when a later step raises. -/
def resolve_with_cache (strategy : RegisteredStrategy)
    (start end_ interval primary_symbol : String) :
    List String → Option PriceSeries → Cache → Except EngineError (Option PriceSeries) × Cache
  | [], attached, cache => (.ok attached, cache)
  | symbol :: symbols, _, cache =>
    if symbol = primary_symbol then (.error (both_legs rt strategy symbol), cache)
    else
      match cache.ask (feed.prices rt start end_ interval) symbol with
      | (.error error, cache) => (.error (.of_load error), cache)
      | (.ok series, cache) =>
        match strategy.attach_auxiliary_series rt series with
        | .error error => (.error (.strategy error), cache)
        | .ok attached =>
          resolve_with_cache strategy start end_ interval primary_symbol symbols (some attached)
            cache

/-- `run_backtest_for_symbol`, with `market_data` and `auxiliary_cache`. -/
def run_backtest_for_symbol_with (data : PriceSeries) (request : RunRequest) (cache : Cache) :
    Except EngineError BacktestRun × Cache :=
  match RegisteredStrategy.create rt request.strategy request.parameters with
  | .error error => (.error (.strategy error), cache)
  | .ok strategy =>
    match resolve_with_cache rt feed strategy request.start request.end_ request.interval
        request.symbol strategy.auxiliary_symbols none cache with
    | (.error error, cache) => (.error error, cache)
    | (.ok pair, cache) => (run_backtest rt data strategy pair request.config, cache)

end Runs

/-! ## The metric table -/

namespace comparison

/-- Which way a metric is better. -/
inductive Direction where
  | higher
  | lower
  deriving DecidableEq, Repr

/-- The metrics shown side by side, each with the direction that counts as
    better. A drawdown is negative. -/
def COMPARISON_METRICS : List (String × String × Option Direction) :=
  [("total_return", "Total return", some .higher),
    ("cagr", "CAGR", some .higher),
    ("sharpe", "Sharpe", some .higher),
    ("sortino", "Sortino", some .higher),
    ("max_drawdown", "Max drawdown", some .higher),
    ("calmar", "Calmar", some .higher),
    ("win_rate", "Win rate", some .higher),
    ("profit_factor", "Profit factor", some .higher),
    ("trade_count", "Trades", none),
    ("turnover", "Turnover (annual)", none),
    ("exposure", "Avg exposure", none),
    ("total_costs", "Total costs", some .lower),
    ("cost_drag", "Cost drag", some .lower),
    ("annualized_volatility", "Volatility", some .lower),
    ("final_equity", "Final equity", some .higher)]

/-- A number of a metric dictionary; `None` is null. -/
def as_number : Json → Option Python.Float
  | .float x => some x
  | .int n => some (.num n)
  | _ => none

/-- `metrics.get(key)`. -/
def get (metrics : Metrics) (key : String) : Option Python.Float :=
  (metrics.as_dict.lookup key).bind as_number

/-- `comparable[a]` against `comparable[b]`. -/
def Direction.better : Direction → Python.Float → Python.Float → Bool
  | higher, a, b => b.lt a
  | lower, a, b => a.lt b

/-- A map that the labels key. -/
abbrev ByLabel (α : Type) := Keyed (Prod.fst : String × α → String)

structure MetricRow where
  metric : String
  label : String
  values : ByLabel (Option Python.Float)
  better : Option Direction
  best : Option String
  unavailable : ByLabel String

/-- The labels that have a value, with the value. -/
def comparable (values : ByLabel (Option Python.Float)) : List (String × Python.Float) :=
  values.items.filterMap (fun entry => entry.2.map (entry.1, ·))

/-- The winner: `max` and `min` keep the first of several. A single value has
    nothing to win against. -/
def best_label (better : Option Direction) (values : ByLabel (Option Python.Float)) :
    Option String :=
  match better with
  | none => none
  | some direction =>
    if (comparable values).length > 1 then
      (Champion.champion (fun a b => direction.better a.2 b.2) (comparable values)).map Prod.fst
    else none

/-- One row of the table, over the entries with their labels. -/
def metric_row (entries : List (String × Metrics)) (metric : String × String × Option Direction) :
    MetricRow :=
  let (key, label, direction) := metric
  let values := columns (entries.map (fun entry => (entry.1, get entry.2 key)))
  { metric := key
    label := label
    values := values
    better := direction
    best := best_label direction values
    unavailable := columns (entries.filterMap (fun entry =>
      if (get entry.2 key).isNone then
        ((entry.2.unavailable.lookup key).filter (· ≠ "")).map (entry.1, ·)
      else none)) }

/-- `_build_metric_table`: metrics pivoted into rows, with the winner marked. -/
def build_metric_table (entries : List (String × Metrics)) : List MetricRow :=
  COMPARISON_METRICS.map (metric_row entries)

end comparison

/-! ## The comparison -/

/-- A strategy that ran, under its label. -/
structure ComparedRun where
  label : String
  spec : StrategySpec
  run : BacktestRun

/-- A strategy that failed: the gap is named. -/
structure ComparisonFailure where
  label : String
  strategy : String
  parameters : List (String × Json)
  error : String
  error_type : String

/-- Fractional drawdown from the running peak, on its index. -/
def BacktestRun.drawdown_curve (run : BacktestRun) : List (Timestamp × Python.Float) :=
  (run.simulation.equity_curve.map Prod.fst).zip
    (metrics.drawdown_curve (run.simulation.equity_curve.map Prod.snd))

structure Comparison where
  symbol : String
  interval : String
  start : String
  end_ : String
  /-- The one dataset, which the data version and the provenance are read from. -/
  data : PriceSeries
  /-- `_reference_config`: the configuration, stated once. -/
  reference : BacktestConfig
  runs : List ComparedRun
  metric_table : List comparison.MetricRow
  equity_curves : comparison.ByLabel Series
  drawdown_curves : comparison.ByLabel (List (Timestamp × Python.Float))
  benchmark : Except String BuyAndHold
  failures : List ComparisonFailure

/-- The variables of the loop over the strategies. -/
structure Progress where
  cache : Cache
  runs : List ComparedRun := []
  failures : List ComparisonFailure := []

/-- What a comparison is asked for, besides the strategies. -/
structure ComparisonRequest where
  symbol : String
  start : String
  end_ : String
  interval : String
  config : BacktestConfig

/-- What one strategy of a comparison is run with. -/
def ComparisonRequest.of_spec (request : ComparisonRequest) (spec : StrategySpec) : RunRequest where
  symbol := request.symbol
  strategy := spec.strategy
  start := request.start
  end_ := request.end_
  interval := request.interval
  parameters := spec.parameters
  config := request.config

section Compare

variable (rt : Runtime) (feed : Feed) (request : ComparisonRequest)

def failure_of (label : String) (spec : StrategySpec) (error : EngineError) :
    ComparisonFailure where
  label := label
  strategy := spec.strategy
  parameters := spec.parameters
  error := error.message rt
  error_type := error.type_name

/-- One turn of the loop: a failure does not lose the results of the others. -/
def compare_step (data : PriceSeries) (st : Progress) (entry : String × StrategySpec) : Progress :=
  match run_backtest_for_symbol_with rt feed data (request.of_spec entry.2) st.cache with
  | (.ok run, cache) =>
    { st with cache := cache, runs := st.runs ++ [⟨entry.1, entry.2, run⟩] }
  | (.error error, cache) =>
    { st with cache := cache, failures := st.failures ++ [failure_of rt entry.1 entry.2 error] }

/-- The loop, after the one fetch of the primary bars. -/
def compare_loop (data : PriceSeries) (entries : List (String × StrategySpec)) : Progress :=
  entries.foldl (compare_step rt feed request data) { cache := { calls := 1 } }

def too_few_strategies (n : ℕ) : EngineError :=
  .data (.InvalidRequestError ("A comparison needs at least two strategies, got " ++ toString n
    ++ ". Use the backtest endpoint to run a single strategy."))

def every_strategy_failed (failures : List ComparisonFailure) : EngineError :=
  .data (.InvalidRequestError ("Every strategy in the comparison failed. First error: "
    ++ (failures.head?.map ComparisonFailure.error).getD ""))

/-- The labels and metrics that the table is built from. -/
def entries_of (runs : List ComparedRun) : List (String × Metrics) :=
  runs.map (fun run => (run.label, run.run.metrics))

/-- Run several strategies over one instrument and window, side by side. -/
def compare_strategies (specs : List StrategySpec) : Except EngineError Comparison :=
  if specs.length < 2 then .error (too_few_strategies specs.length)
  else
    match feed.prices rt request.start request.end_ request.interval 0 request.symbol with
    | .error error => .error (.of_load error)
    | .ok data =>
      let progress := compare_loop rt feed request data ((unique_labels rt specs).zip specs)
      match progress.runs with
      | [] => .error (every_strategy_failed progress.failures)
      | first :: rest =>
        let runs := first :: rest
        .ok
          { symbol := request.symbol
            interval := request.interval
            start := request.start
            end_ := request.end_
            data := data
            reference := first.run.config
            runs := runs
            metric_table := comparison.build_metric_table (entries_of runs)
            equity_curves := columns (runs.map (fun run =>
              (run.label, run.run.simulation.equity_curve)))
            drawdown_curves := columns (runs.map (fun run => (run.label, run.run.drawdown_curve)))
            benchmark := buy_and_hold data.frame request.config
            failures := progress.failures }

end Compare

end Quantora
