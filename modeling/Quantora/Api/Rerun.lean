import Quantora.Api.ExperimentStore
import Quantora.Api.QuantClient
import Quantora.Webapi.Routes

/-! # Saving and rerunning an experiment

    `experiment/service.go`: `Save`, from the result on, and `Rerun`. The engine
    is whatever answers the client's requests; `deployed` is the one of this
    repository.

    * `rerunRequest` — the request that a rerun sends: `applyStoredConfig`
      replays the saved configuration. -/

namespace Quantora

namespace experiment

open Go (Any)
open portfolio (Time)
open postgres (DateInput Experiments)

/-- The service's own errors, and those of the engine. -/
inductive ServiceError where
  | service (error : Error)
  | upstream (error : ApiError)
  deriving DecidableEq, Repr

/-- `Runner.RunBacktest`. -/
abbrev Runner := quant.BacktestRequest → Except ApiError Json

/-- The client, in front of the engine of this repository. -/
def deployed (engine : Engine) (number_text : NumberText) (provider : PriceProvider) : Runner :=
  fun request => run_backtest_endpoint engine number_text provider request.marshal

/-! ## Saving -/

/-- `experimentFromResult` of a raw response. -/
def experimentFromRaw (result : Json) : Except Error Experiment :=
  match Go.unmarshal result with
  | some document => experimentFromResult document
  | none => .error (.ErrInvalid "the backtest result could not be read")

/-- What `Save` fills in. -/
def Experiment.named (exp : Experiment) (id : String) (now : Time) (name notes : String) :
    Experiment :=
  { exp with
    ID := id
    Name := Go.TrimSpace name
    Notes := Go.TrimSpace notes
    CreatedAt := now }

/-- `Save`, once the result is there. The identity is a fresh one. -/
def Save (input : DateInput) (experiments : Experiments) (id : String) (now : Time)
    (name notes : String) (result : Json) : Except Error (Experiments × Experiment) := do
  let kept ← experimentFromRaw result
  let exp := kept.named id now name notes
  let experiments ← (postgres.Save input experiments exp).mapError (.wrap "persist experiment")
  .ok (experiments, exp)

/-! ## Rerunning -/

/-- `numberOr`. -/
def numberOr (source : Go.Map) (key : String) (fallback : ℚ) : ℚ :=
  (asFloat source key).getD fallback

/-- Replays the saved backtest configuration. Anything missing falls back to
    the engine's default. -/
def applyStoredConfig (req : quant.BacktestRequest) (exp : Experiment) : quant.BacktestRequest :=
  let config := exp.BacktestConfig
  { req with
    InitialCash :=
      match config.get "initial_cash" with
      | some (.float64 cash) => if 0 < cash then cash else req.InitialCash
      | _ => req.InitialCash
    ExecutionModel :=
      match config.get "execution_model" with
      | some (.string model) => if model ≠ "" then model else req.ExecutionModel
      | _ => req.ExecutionModel
    AllowShort :=
      match config.get "allow_short" with
      | some (.bool allow) => allow
      | _ => req.AllowShort
    LiquidateAtEnd :=
      match config.get "liquidate_at_end" with
      | some (.bool liquidate) => liquidate
      | _ => true
    RiskFreeRate :=
      match config.get "risk_free_rate" with
      | some (.float64 rate) => rate
      | _ => req.RiskFreeRate
    CostModel :=
      if exp.CostModel.isEmpty then req.CostModel
      else
        some
          { CommissionBps := numberOr exp.CostModel "commission_bps" 3
            CommissionMin := numberOr exp.CostModel "commission_min" 0
            SlippageBps := numberOr exp.CostModel "slippage_bps" 5
            SpreadBps := numberOr exp.CostModel "spread_bps" 2 } }

/-- The request of `Rerun`. -/
def rerunRequest (original : Experiment) : quant.BacktestRequest :=
  applyStoredConfig
    { Symbol := original.Symbol
      Strategy := original.Strategy
      Start := original.Start
      End := original.End
      Interval := orDefault original.Interval "1d"
      Parameters := original.Parameters
      ExperimentID := original.ID }
    original

/-- Re-executes a saved experiment from its stored configuration. A response
    that cannot be decoded compares as an empty one. -/
def Rerun (runner : Runner) (experiments : Experiments) (id : String) :
    Except ServiceError RerunOutcome := do
  let original ← (postgres.Get experiments id).mapError .service
  let rerun ← (runner (rerunRequest original)).mapError .upstream
  .ok (compareRuns original ((Go.unmarshal rerun).getD .nil))

end experiment

end Quantora
