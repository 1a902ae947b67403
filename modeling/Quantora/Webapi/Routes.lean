import Quantora.Backtest.Result
import Quantora.Webapi.Schemas

/-! # Routes

    `routes.py`: the endpoint that runs one backtest. It validates the body,
    calls the runner and renders the result.

    * `run_backtest_endpoint` — from a body to a rendered result.
    * `resolve` — what a body asks for once every default is applied and every
      value is in its canonical form: the instrument, the strategy with its
      resolved parameters, the window, the interval and the configuration.
    * `run_backtest_for_symbol_congr` — nothing else of a body matters. -/

namespace Quantora

open Python (PyError)

inductive ApiError where
  | invalid_body (location : schemas.Location)
  | engine (error : EngineError)
  /-- An infinite amount: the run fails, or its result cannot be rendered. -/
  | unbounded_amount
  | render (error : PyError)
  deriving DecidableEq, Repr

/-! ## The configuration -/

def positive_amount : {x : Python.Float // (Python.Float.num 0).lt x} → Option {x : ℚ // 0 < x}
  | ⟨.num x, h⟩ => some ⟨x, of_decide_eq_true h⟩
  | _ => none

def non_negative_amount :
    {x : Python.Float // (Python.Float.num 0).le x} → Option {x : ℚ // 0 ≤ x}
  | ⟨.num x, h⟩ => some ⟨x, of_decide_eq_true h⟩
  | _ => none

/-- `_config`, and the `_build_config` it calls. -/
def build_config (payload : BacktestRequest) : Except ApiError BacktestConfig :=
  match positive_amount payload.initial_cash,
    non_negative_amount payload.cost_model.commission_min with
  | some cash, some minimum =>
    .ok
      { initial_cash := cash.1
        cost_model :=
          { commission_bps := payload.cost_model.commission_bps.1
            commission_min := minimum.1
            slippage_bps := payload.cost_model.slippage_bps.1
            spread_bps := payload.cost_model.spread_bps.1
            commission_bps_nonneg := payload.cost_model.commission_bps.2.1
            commission_min_nonneg := minimum.2
            slippage_bps_nonneg := payload.cost_model.slippage_bps.2.1
            spread_bps_nonneg := payload.cost_model.spread_bps.2.1 }
        execution_model := payload.execution_model
        allow_short := payload.allow_short
        liquidate_at_end := payload.liquidate_at_end
        risk_free_rate := payload.risk_free_rate.1
        initial_cash_pos := cash.2
        risk_free_rate_ge := payload.risk_free_rate.2.1
        risk_free_rate_le := payload.risk_free_rate.2.2 }
  | _, _ => .error .unbounded_amount

/-- What the runner is called with. -/
def BacktestRequest.run_request (payload : BacktestRequest) (config : BacktestConfig) :
    RunRequest where
  symbol := payload.symbol
  strategy := payload.strategy
  start := payload.start
  end_ := payload.end_
  interval := payload.interval.1
  parameters := payload.parameters
  config := config

/-! ## The endpoint -/

section Endpoint

variable (engine : Engine) (number_text : NumberText) (provider : PriceProvider)

def validate_body (body : Json) : Except ApiError BacktestRequest :=
  (BacktestRequest.parse number_text body).mapError
    fun location => .invalid_body ("body" :: location)

/-- `POST /v1/backtests`: run one backtest and return the full result
    contract. -/
def run_backtest_endpoint (body : Json) : Except ApiError Json := do
  let payload ← validate_body number_text body
  let config ← build_config payload
  let run ← (run_backtest_for_symbol engine.rt provider (payload.run_request config)).mapError
    .engine
  (render (build_result engine.digest engine.code_version run payload.experiment_id)).mapError
    .render

end Endpoint

/-! ## What a body asks for -/

/-- A backtest, in canonical form. -/
structure Resolved where
  symbol : String
  strategy : RegisteredStrategy
  start : Python.Date
  end_ : Python.Date
  interval : String
  config : BacktestConfig

def resolve (rt : Runtime) (number_text : NumberText) (body : Json) :
    Except ApiError Resolved := do
  let payload ← validate_body number_text body
  let config ← build_config payload
  let strategy ← (RegisteredStrategy.create rt payload.strategy payload.parameters).mapError
    (fun error => .engine (.strategy error))
  let start ← (as_iso_date rt payload.start "start").mapError (fun error => .engine (.data error))
  let end_ ← (as_iso_date rt payload.end_ "end").mapError (fun error => .engine (.data error))
  .ok
    { symbol := payload.symbol
      strategy := strategy
      start := start
      end_ := end_
      interval := payload.interval.1
      config := config }

/-! ## What a result depends on -/

section Accepted

variable {engine : Engine} {number_text : NumberText} {provider : PriceProvider}
  {body rendered : Json}

/-- The steps of a request that was answered with a result. -/
theorem run_backtest_endpoint_eq_ok :
    run_backtest_endpoint engine number_text provider body = .ok rendered ↔
      ∃ payload config run,
        BacktestRequest.parse number_text body = .ok payload ∧
        build_config payload = .ok config ∧
        run_backtest_for_symbol engine.rt provider (payload.run_request config) = .ok run ∧
        render (build_result engine.digest engine.code_version run payload.experiment_id)
          = .ok rendered := by
  constructor
  · intro h
    obtain ⟨payload, hpayload, h⟩ := Outcome.bind_eq_ok.mp h
    obtain ⟨config, hconfig, h⟩ := Outcome.bind_eq_ok.mp h
    obtain ⟨run, hrun, h⟩ := Outcome.bind_eq_ok.mp h
    exact ⟨payload, config, run, Outcome.mapError_eq_ok.mp hpayload, hconfig,
      Outcome.mapError_eq_ok.mp hrun, Outcome.mapError_eq_ok.mp h⟩
  · rintro ⟨payload, config, run, hpayload, hconfig, hrun, hrender⟩
    refine Outcome.bind_eq_ok.mpr ⟨payload, Outcome.mapError_eq_ok.mpr hpayload, ?_⟩
    refine Outcome.bind_eq_ok.mpr ⟨config, hconfig, ?_⟩
    refine Outcome.bind_eq_ok.mpr ⟨run, Outcome.mapError_eq_ok.mpr hrun, ?_⟩
    exact Outcome.mapError_eq_ok.mpr hrender

/-- What a valid body asks for. -/
theorem resolve_eq_ok {rt : Runtime} {payload : BacktestRequest} {config : BacktestConfig}
    {strategy : RegisteredStrategy} {first last : Python.Date}
    (hpayload : BacktestRequest.parse number_text body = .ok payload)
    (hconfig : build_config payload = .ok config)
    (hstrategy : RegisteredStrategy.create rt payload.strategy payload.parameters = .ok strategy)
    (hstart : Python.Date.fromisoformat payload.start = some first)
    (hend : Python.Date.fromisoformat payload.end_ = some last) :
    resolve rt number_text body
      = .ok ⟨payload.symbol, strategy, first, last, payload.interval.1, config⟩ := by
  refine Outcome.bind_eq_ok.mpr ⟨payload, Outcome.mapError_eq_ok.mpr hpayload, ?_⟩
  refine Outcome.bind_eq_ok.mpr ⟨config, hconfig, ?_⟩
  refine Outcome.bind_eq_ok.mpr ⟨strategy, Outcome.mapError_eq_ok.mpr hstrategy, ?_⟩
  refine Outcome.bind_eq_ok.mpr
    ⟨first, Outcome.mapError_eq_ok.mpr (as_iso_date_eq_ok.mpr hstart), ?_⟩
  exact Outcome.bind_eq_ok.mpr
    ⟨last, Outcome.mapError_eq_ok.mpr (as_iso_date_eq_ok.mpr hend), rfl⟩

/-- Requests for the same instrument, window, interval, strategy and
    configuration are one run, however their texts and numbers are written. -/
theorem run_backtest_for_symbol_congr {rt : Runtime} {request request' : RunRequest}
    {first last : Python.Date} (hsymbol : request'.symbol = request.symbol)
    (hinterval : request'.interval = request.interval)
    (hstart : Python.Date.fromisoformat request.start = some first)
    (hstart' : Python.Date.fromisoformat request'.start = some first)
    (hend : Python.Date.fromisoformat request.end_ = some last)
    (hend' : Python.Date.fromisoformat request'.end_ = some last)
    (hstrategy : RegisteredStrategy.create rt request'.strategy request'.parameters
      = RegisteredStrategy.create rt request.strategy request.parameters)
    (hconfig : request'.config = request.config) :
    run_backtest_for_symbol rt provider request' = run_backtest_for_symbol rt provider request := by
  have hprices : ∀ symbol, load_prices rt provider symbol request'.start request'.end_
      request.interval = load_prices rt provider symbol request.start request.end_
      request.interval := fun symbol => load_prices_congr hstart hend hstart' hend'
  simp only [run_backtest_for_symbol, resolve_auxiliary_series, hsymbol, hinterval, hprices,
    hstrategy, hconfig]

end Accepted

end Quantora
