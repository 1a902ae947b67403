import Quantora.Risk.Report

/-! # Scenarios

    `portfolio/scenario.py`: change some weights of a portfolio, normalise, turn
    the weights back into holdings and compare the risk before and after.

    * `validate_overrides`, `resolve_weights` — the weights that were asked for.
    * `describe_changes`, `metric_deltas` — what moved, and by how much.
    * `run_scenario` — both states over one window.

    An override may be any float; what passes validation is a number. -/

namespace Quantora

namespace risk

/-- Weights closer together than this are treated as unchanged. -/
def WEIGHT_EPSILON : ℚ := 1 / 1000000000

/-- The weights that a scenario asks for. -/
abbrev Overrides := Keyed (Prod.fst : String × Python.Float → String)

/-! ## Weights -/

/-- `sorted(entries.items())`; the keys differ. -/
def sorted_entries (entries : List (String × Python.Float)) : List (String × Python.Float) :=
  entries.insertionSort (fun a b => a.1 ≤ b.1)

/-- `f"{value:g}"`. -/
def fmt_float_g : Python.Float → String
  | .num x => Python.fmt_g x
  | .inf negative => if negative then "-inf" else "inf"
  | .nan => "nan"

/-- The first symbol that the universe does not have. -/
def check_symbols : List (String × Python.Float) → Except PortfolioError Unit
  | [] => .ok ()
  | (symbol, _) :: rest =>
    match get_instrument symbol with
    | .error err => .error (.data err)
    | .ok _ => check_symbols rest

/-- Reject a weight map that is malformed regardless of the portfolio. -/
def validate_overrides (rt : Runtime) (overrides : Overrides) : Except PortfolioError Unit :=
  if overrides.items = [] then
    .error (.invalid ("A scenario must change at least one weight. Supply `weights` as a map of "
      ++ "symbol to target weight, for example \x7b\"TCS.NS\": 0.25\x7d."))
  else
    let invalid := overrides.items.filter (fun item => ¬ item.2.is_finite)
    if invalid ≠ [] then
      .error (.invalid ("Scenario weights must be finite numbers; got "
        ++ join ((sorted_entries invalid).map (fun item =>
          item.1 ++ "=" ++ rt.repr (.float item.2))) ++ "."))
    else
      let negative := overrides.items.filter (fun item => item.2.lt (.num 0))
      if negative ≠ [] then
        .error (.invalid ("Scenario weights must be zero or positive; got "
          ++ join ((sorted_entries negative).map (fun item => item.1 ++ "=" ++ fmt_float_g item.2))
          ++ ". A negative weight is a short position, which the portfolio engine does not model, "
          ++ "and a weight vector containing one has no single sensible normalisation."))
      else check_symbols overrides.items

/-- `float(value)`, once every value has been checked. -/
def override_value : Python.Float → ℚ
  | .num x => x
  | _ => 0

/-- The overrides in place of the weights that they name. -/
def combined (base_weights : Weights) (overrides : Overrides) : Weights :=
  overrides.items.foldl (fun weights item => weights.upsert (item.1, override_value item.2))
    base_weights

/-- Every weight divided by a total. -/
def normalised (weights : Weights) (total : ℚ) : Weights :=
  ⟨weights.items.map (fun item => (item.1, item.2 / total)), by
    rw [List.map_map]
    exact weights.nodup⟩

/-- Apply weight overrides to the current allocation and normalise. The notes
    travel with the result. -/
def resolve_weights (rt : Runtime) (base_weights : Weights) (overrides : Overrides) :
    Except PortfolioError (Weights × List String) := do
  validate_overrides rt overrides
  let combined := combined base_weights overrides
  let total := (combined.items.map Prod.snd).sum
  if total ≤ WEIGHT_EPSILON then
    .error (.invalid ("The scenario's weights sum to 0, so they cannot be normalised into a "
      ++ "portfolio. At least one holding must carry a positive weight."))
  else
    let notes :=
      if WEIGHT_EPSILON < |total - 1| then
        ["The requested weights summed to " ++ Python.fmt_f 4 total
          ++ "; every weight was divided by that sum "
          ++ "so the scenario portfolio is fully invested and its weights total 1."]
      else []
    .ok (normalised combined total, notes)

/-! ## What moved -/

inductive ChangeKind where
  | added
  | removed
  | reweighted
  deriving DecidableEq, Repr

structure WeightChange where
  symbol : String
  change : ChangeKind
  weight_before : ℚ
  weight_after : ℚ
  delta : ℚ
  note : String
  deriving DecidableEq, Repr

/-- The entry of one symbol, if its weight moved. -/
def describe_change (base_weights scenario_weights : Weights) (symbol : String) :
    Option WeightChange :=
  let before := weight_of base_weights symbol
  let after := weight_of scenario_weights symbol
  if |after - before| ≤ WEIGHT_EPSILON then none
  else
    let change : ChangeKind :=
      if before ≤ WEIGHT_EPSILON then .added
      else if after ≤ WEIGHT_EPSILON then .removed
      else .reweighted
    let note :=
      match change with
      | .added =>
        symbol ++ " is not in the current portfolio, so the scenario treats it as a new "
          ++ "position at " ++ Python.fmt_percent 2 after ++ "."
      | .removed =>
        symbol ++ " is zeroed out: the scenario sells the whole " ++ Python.fmt_percent 2 before
          ++ " position."
      | .reweighted =>
        symbol ++ " moves from " ++ Python.fmt_percent 2 before ++ " to "
          ++ Python.fmt_percent 2 after ++ "."
    some
      { symbol := symbol
        change := change
        weight_before := before
        weight_after := after
        delta := after - before
        note := note }

/-- One entry per symbol whose weight moved. -/
def describe_changes (base_weights scenario_weights : Weights) : List WeightChange :=
  let symbols := (base_weights.items.map Prod.fst ++ scenario_weights.items.map Prod.fst).dedup
  (sorted symbols).filterMap (describe_change base_weights scenario_weights)

/-- Which way a metric improves. -/
inductive Direction where
  | higher
  | lower
  deriving DecidableEq, Repr

/-- Metrics compared before and after, in display order; `none` where neither
    direction is better. -/
def RISK_METRICS : List (String × String × Option Direction) :=
  [("total_return", "Total return", some .higher),
    ("annualized_return", "Annualized return", some .higher),
    ("annualized_volatility", "Annualized volatility", some .lower),
    ("beta", "Beta vs benchmark", none),
    ("sharpe", "Sharpe", some .higher),
    ("sortino", "Sortino", some .higher),
    ("max_drawdown", "Max drawdown", some .higher),
    ("largest_weight", "Largest position weight", some .lower),
    ("top_n_weight", "Top-3 weight", some .lower),
    ("hhi", "Concentration (HHI)", some .lower),
    ("effective_holdings", "Effective holdings", some .higher)]

/-- `metrics.get(key)`, for the keys of `RISK_METRICS`. -/
def RiskMetrics.get (m : RiskMetrics) : String → Option Python.Float
  | "total_return" => some (.num m.total_return)
  | "annualized_return" => m.annualized_return.map .num
  | "annualized_volatility" => m.annualized_volatility
  | "beta" => m.beta.map .num
  | "sharpe" => m.sharpe
  | "sortino" => m.sortino
  | "max_drawdown" => some m.max_drawdown
  | "largest_weight" => some (.num m.largest_weight)
  | "top_n_weight" => some (.num m.top_n_weight)
  | "hhi" => some (.num m.hhi)
  | "effective_holdings" => some m.effective_holdings
  | _ => none

structure MetricDelta where
  metric : String
  label : String
  before : Option Python.Float
  after : Option Python.Float
  delta : Option Python.Float
  better : Option Direction
  improved : Option Bool
  unavailable : Option String
  deriving DecidableEq, Repr

/-- Whether a change is an improvement, where there is a better direction. -/
def improvement (direction : Option Direction) (delta : Python.Float) : Option Bool :=
  if (Python.Float.num WEIGHT_EPSILON).lt delta.abs then
    direction.map (fun direction =>
      match direction with
      | .higher => (Python.Float.num 0).lt delta
      | .lower => delta.lt (.num 0))
  else none

/-- Why one side of a comparison is missing. -/
def missing_reason (side key : String) (m : RiskMetrics) : List String :=
  if (m.get key).isNone then
    [side ++ ": " ++ ((m.unavailable.lookup key).getD "not available")]
  else []

/-- The row of one metric. A delta exists when both sides do. -/
def metric_delta (before after : RiskMetrics) (metric : String × String × Option Direction) :
    MetricDelta :=
  let (key, label, direction) := metric
  let delta := Option.map₂ Python.Float.sub (after.get key) (before.get key)
  { metric := key
    label := label
    before := before.get key
    after := after.get key
    delta := delta
    better := direction
    improved := delta.bind (improvement direction)
    unavailable :=
      if delta.isSome then none
      else some ("; ".intercalate
        (missing_reason "before" key before ++ missing_reason "after" key after)) }

/-- Per-metric before and after with the change. -/
def metric_deltas (before after : RiskMetrics) : List MetricDelta :=
  RISK_METRICS.map (metric_delta before after)

/-! ## The scenario -/

/-- A comparison of two weightings of the same bars. -/
structure ScenarioReport where
  requested_weights : Overrides
  scenario_weights : Weights
  changes : List WeightChange
  before : Report
  after : Report
  deltas : List MetricDelta
  notes : List String
  assumptions : List String

/-- What a scenario assumes beyond its reports. -/
def scenario_assumptions : List String :=
  ["The scenario holds the portfolio's total market value constant: it reallocates "
      ++ "the same money rather than adding or withdrawing any.",
    "Both states are measured over one fetch of the same aligned bars, so every "
      ++ "difference in the table is caused by the reweighting and by nothing else.",
    "Scenario quantities are fractional. The scenario answers 'what if the allocation "
      ++ "looked like this', so it is not rounded to whole tradable units and no transaction "
      ++ "cost is charged for getting there."]

/-- The overrides of the symbols that the window has. -/
def usable_overrides (overrides : Overrides) (window : MarketWindow) : Overrides :=
  overrides.filter (fun item => item.1 ∈ window.symbols)

/-- The symbols that it does not have. -/
def ignored_symbols (overrides : Overrides) (window : MarketWindow) : List String :=
  sorted ((overrides.items.map Prod.fst).filter (fun s => s ∉ window.symbols))

/-- `run_scenario`, once the window is loaded. -/
def scenario_over_window (rt : Runtime) (portfolio : Portfolio) (overrides : Overrides)
    (window : MarketWindow) (benchmark : String) (risk_free_rate : ℚ) :
    Except PortfolioError ScenarioReport :=
  if portfolio.holdings.filter (fun h => h.symbol ∈ window.symbols) = [] then
    .error (.invalid ("Every holding in the current portfolio was excluded for insufficient "
      ++ "history, so there is no 'before' state to compare a scenario against."))
  else do
    let base_portfolio ← surviving portfolio window benchmark
    let before ← analyze rt base_portfolio window risk_free_rate
    let ignored := ignored_symbols overrides window
    let (scenario_weights, notes) ←
      resolve_weights rt before.allocation.weights (usable_overrides overrides window)
    let notes := notes ++
      (if ignored = [] then []
      else ["Ignored in the scenario because they have too little history in this window: "
        ++ join ignored])
    let scenario_portfolio ← Portfolio.from_weights rt scenario_weights window.prices_as_of
      before.allocation.total_value (Python.strip (portfolio.name ++ " (scenario)"))
      portfolio.base_currency benchmark
    let after ← analyze rt scenario_portfolio window risk_free_rate
    .ok
      { requested_weights := overrides
        scenario_weights := scenario_weights
        changes := describe_changes before.allocation.weights scenario_weights
        before := before
        after := after
        deltas := metric_deltas before.metrics after.metrics
        notes := notes
        assumptions := before.assumptions ++ scenario_assumptions }

/-- Reweight a portfolio, recalculate its risk, and compare before and after. -/
def run_scenario (rt : Runtime) (loader : PriceLoader) (portfolio : Portfolio)
    (overrides : Overrides) (start end_ interval : String) (benchmark : Option String)
    (risk_free_rate : ℚ) : Except PortfolioError ScenarioReport := do
  let resolved := resolved_benchmark benchmark portfolio
  -- A malformed map is rejected before a fetch is spent on it.
  validate_overrides rt overrides
  let scenario_symbols := (overrides.items.map Prod.fst).filter (fun s => s ∉ portfolio.symbols)
  let window ← load_window loader (portfolio.symbols ++ scenario_symbols) start end_ interval
    resolved
  scenario_over_window rt portfolio overrides window resolved risk_free_rate

end risk

end Quantora
