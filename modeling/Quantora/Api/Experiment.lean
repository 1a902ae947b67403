import Mathlib.Data.List.Sort
import Quantora.Api.Portfolio
import Quantora.Go.Json
import Quantora.Go.Strings

/-! # Experiments

    `experiment/service.go`: what is kept of a result so that it can be rerun,
    and the verdict on what a rerun brought back.

    * `experimentFromResult` — from a result document to an `Experiment`.
    * `compareRuns` — the verdict; `explain` puts it in words. -/

namespace Quantora

namespace experiment

open Go (Any)
open portfolio (Time)

/-! ## Domain types -/

/-- The zero `time.Time`: the first of January of the year 1. -/
def zero_time : Time := -62135596800000000000

/-- A saved, rerunnable backtest. -/
structure Experiment where
  ID : String
  Name : String
  Notes : String
  Strategy : String
  Symbol : String
  Interval : String
  Start : String
  End : String
  Parameters : Go.Map
  CostModel : Go.Map
  BacktestConfig : Go.Map
  DataVersion : String
  CodeVersion : String
  ContractVersion : ℤ
  Result : Any
  CreatedAt : Time

/-- One metric that changed between the original run and the rerun. -/
structure MetricDiff where
  Metric : String
  Original : Option ℚ
  Rerun : Option ℚ
  deriving DecidableEq, Repr

/-- The verdict of rerunning a saved experiment. -/
structure RerunOutcome where
  ExperimentID : String
  Reproducible : Bool
  DataVersionMatches : Bool
  MetricsMatch : Bool
  OriginalDataVersion : String
  RerunDataVersion : String
  Differences : List MetricDiff
  Explanation : String
  OriginalResult : Any
  RerunResult : Any

/-- The errors of the package, and a failed database call with its context. -/
inductive Error where
  | ErrInvalid (message : String)
  | ErrNotFound (id : String)
  | failed (context : String) (cause : portfolio.SqlError)
  deriving DecidableEq, Repr

/-- `fmt.Errorf("<context>: %w", err)`. -/
def Error.wrap (context : String) : Error → Error
  | .failed inner cause => .failed (context ++ ": " ++ inner) cause
  | err => err

/-! ## Comparing metrics -/

/-- How close two runs' metrics must be to count as identical. -/
def metricTolerance : ℚ := 1 / 1000000000

/-- The numbers a reproducibility check compares. -/
def comparedMetrics : List String :=
  ["total_return", "cagr", "sharpe", "sortino", "max_drawdown", "win_rate", "profit_factor",
    "final_equity", "total_costs"]

/-- `asFloat(m[key])`. A decoded document has no number but `float64`. -/
def asFloat (m : Go.Map) (key : String) : Option ℚ :=
  match m.get key with
  | some (.float64 x) => some x
  | _ => none

/-- The difference in one compared metric, if there is one. -/
def diffMetric (original rerun : Go.Map) (name : String) : List MetricDiff :=
  match asFloat original name, asFloat rerun name with
  -- Both unavailable for the same reason; not a difference.
  | none, none => []
  | some a, some b => if |a - b| > metricTolerance then [⟨name, some a, some b⟩] else []
  | a, b => [⟨name, a, b⟩]

/-- The trade counts are compared only when both are there. -/
def diffTradeCount (original rerun : Go.Map) : List MetricDiff :=
  match asFloat original "trade_count", asFloat rerun "trade_count" with
  | some a, some b => if a ≠ b then [⟨"trade_count", some a, some b⟩] else []
  | _, _ => []

def diffMetrics (original rerun : Go.Map) : List MetricDiff :=
  (comparedMetrics.flatMap (diffMetric original rerun)
    ++ diffTradeCount original rerun).insertionSort (fun i j => i.Metric ≤ j.Metric)

/-- Two numbers that are read alike are no difference. -/
theorem diffMetric_eq_nil {original rerun : Go.Map} {name : String}
    (h : asFloat original name = asFloat rerun name) : diffMetric original rerun name = [] := by
  unfold diffMetric
  rw [h]
  cases asFloat rerun name with
  | none => rfl
  | some x =>
    show (if |x - x| > metricTolerance then _ else []) = []
    rw [if_neg]
    rw [sub_self, abs_zero, metricTolerance]
    norm_num

theorem diffTradeCount_eq_nil {original rerun : Go.Map}
    (h : asFloat original "trade_count" = asFloat rerun "trade_count") :
    diffTradeCount original rerun = [] := by
  unfold diffTradeCount
  rw [h]
  cases asFloat rerun "trade_count" with
  | none => rfl
  | some x => simp

/-- The list is empty when every part of it is: sorting drops nothing. -/
theorem diffMetrics_eq_nil_iff_each {original rerun : Go.Map} :
    diffMetrics original rerun = [] ↔
      (∀ name ∈ comparedMetrics, diffMetric original rerun name = []) ∧
        diffTradeCount original rerun = [] := by
  rw [diffMetrics, ← List.length_eq_zero_iff, List.length_insertionSort, List.length_eq_zero_iff,
    List.append_eq_nil_iff, List.flatMap_eq_nil_iff]

/-- No difference in any number that the check compares. -/
theorem diffMetrics_eq_nil {original rerun : Go.Map}
    (h : ∀ name ∈ comparedMetrics ++ ["trade_count"],
      asFloat original name = asFloat rerun name) : diffMetrics original rerun = [] := by
  rw [diffMetrics_eq_nil_iff_each]
  constructor
  · intro name hname
    exact diffMetric_eq_nil (h name (List.mem_append_left _ hname))
  · exact diffTradeCount_eq_nil (h "trade_count" (by simp))

/-- A metric that differs is among the differences. -/
theorem diffMetrics_ne_nil {original rerun : Go.Map} {name : String}
    (hname : name ∈ comparedMetrics) (h : diffMetric original rerun name ≠ []) :
    diffMetrics original rerun ≠ [] :=
  fun hnil => h ((diffMetrics_eq_nil_iff_each.mp hnil).1 name hname)

/-! ## The verdict -/

/-- States the verdict in the terms the user has to act on. -/
def explain (reproducible dataVersionMatches metricsMatch : Bool) : String :=
  if reproducible then
    "Reproduced exactly: the source data is unchanged and every compared metric matches."
  else if !dataVersionMatches && metricsMatch then
    "The metrics match, but the source data has changed since this experiment was saved "
      ++ "(the provider revised history). The result is still consistent, but it is no longer "
      ++ "backed by identical bars."
  else if !dataVersionMatches then
    "The source data has changed since this experiment was saved, so the differing "
      ++ "metrics are explained by revised history rather than by a change in the code. "
      ++ "Compare the data versions before treating this as a regression."
  else
    "The source data is identical but the metrics differ. That points at a change in "
      ++ "the engine or the strategy, not at the data — treat it as a regression."

/-- A field of a decoded document. -/
def field (document : Any) (name : String) : Option Any :=
  match document with
  | .map entries => Go.Map.get entries name
  | _ => none

/-- A field of type `string`: empty when absent. -/
def stringField (document : Any) (name : String) : String :=
  match field document name with
  | some (.string s) => s
  | _ => ""

/-- A field of type `map[string]any`: empty when absent. -/
def mapField (document : Any) (name : String) : Go.Map :=
  match field document name with
  | some (.map entries) => entries
  | _ => []

def compareRuns (original : Experiment) (rerun : Any) : RerunOutcome :=
  let rerunDataVersion := stringField rerun "data_version"
  let dataVersionMatches :=
    decide (original.DataVersion ≠ "" ∧ original.DataVersion = rerunDataVersion)
  let differences := diffMetrics (mapField original.Result "metrics") (mapField rerun "metrics")
  let metricsMatch := differences.isEmpty
  let reproducible := dataVersionMatches && metricsMatch
  { ExperimentID := original.ID
    Reproducible := reproducible
    DataVersionMatches := dataVersionMatches
    MetricsMatch := metricsMatch
    OriginalDataVersion := original.DataVersion
    RerunDataVersion := rerunDataVersion
    Differences := differences
    Explanation := explain reproducible dataVersionMatches metricsMatch
    OriginalResult := original.Result
    RerunResult := rerun }

/-! ## From a result to an experiment -/

/-- The fields that a result must have to be rerun later. -/
def missingFields (result : Any) : List String :=
  (if stringField result "strategy" = "" then ["strategy"] else [])
    ++ (if stringField result "symbol" = "" then ["symbol"] else [])
    ++ (if stringField result "start" = "" ∨ stringField result "end" = "" then ["start/end"]
      else [])
    ++ (if stringField result "data_version" = "" then ["data_version"] else [])

/-- A field has the type of the Go struct, or is absent or null. -/
def stringTyped (result : Any) (name : String) : Bool :=
  match field result name with
  | none | some .nil | some (.string _) => true
  | _ => false

def mapTyped (result : Any) (name : String) : Bool :=
  match field result name with
  | none | some .nil | some (.map _) => true
  | _ => false

/-- A field of type `int`: a whole number, written without a point. -/
def intTyped (result : Any) (name : String) : Bool :=
  match field result name with
  | none | some .nil => true
  | some (.float64 x) => x.den = 1
  | _ => false

def intField (result : Any) (name : String) : ℤ :=
  match field result name with
  | some (.float64 x) => x.num
  | _ => 0

/-- `json.Unmarshal` into the view succeeds. -/
def readable (result : Any) : Bool :=
  (match result with
    | .map _ | .nil => true
    | _ => false)
    && ["strategy", "symbol", "interval", "start", "end", "data_version", "code_version"].all
      (stringTyped result)
    && ["parameters", "cost_model", "backtest_config"].all (mapTyped result)
    && intTyped result "contract_version"

/-- Reads the engine's result contract into the domain model. The identity of
    the experiment and its time are filled in by `Save`. -/
def experimentFromResult (result : Any) : Except Error Experiment :=
  if ¬ readable result then
    .error (.ErrInvalid "the backtest result could not be read")
  else if missingFields result ≠ [] then
    .error (.ErrInvalid ("the backtest result is missing "
      ++ ", ".intercalate (missingFields result) ++ ", so it could not be rerun later"))
  else
    .ok
      { ID := ""
        Name := ""
        Notes := ""
        Strategy := stringField result "strategy"
        Symbol := stringField result "symbol"
        Interval := orDefault (stringField result "interval") "1d"
        Start := stringField result "start"
        End := stringField result "end"
        Parameters := mapField result "parameters"
        CostModel := mapField result "cost_model"
        BacktestConfig := mapField result "backtest_config"
        DataVersion := stringField result "data_version"
        CodeVersion := orDefault (stringField result "code_version") "dev"
        ContractVersion := max (intField result "contract_version") 1
        Result := result
        CreatedAt := zero_time }

end experiment

end Quantora
