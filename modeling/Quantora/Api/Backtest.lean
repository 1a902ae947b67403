import Quantora.Api.QuantClient
import Quantora.Go.Decode
import Quantora.Go.Strings
import Quantora.Webapi.Routes

/-! # Running a backtest through the API

    The Go package `backtest` and its handler: a body is decoded into a request,
    checked, completed with defaults and posted to the engine.

    * `Request` — what the API reads, with the decoder of each field. Unknown
      fields are an error.
    * `Request.posted` — what `Run` posts.
    * `posted_config` — the configuration that the engine then runs with. -/

namespace Quantora

namespace quant

/-- The decoder of one field of a `CostModel`. -/
def CostModel.decode_field (m : CostModel) : String × Json → Option CostModel
  | ("commission_bps", value) =>
    (Go.decode_float64 m.CommissionBps value).map fun x => { m with CommissionBps := x }
  | ("commission_min", value) =>
    (Go.decode_float64 m.CommissionMin value).map fun x => { m with CommissionMin := x }
  | ("slippage_bps", value) =>
    (Go.decode_float64 m.SlippageBps value).map fun x => { m with SlippageBps := x }
  | ("spread_bps", value) =>
    (Go.decode_float64 m.SpreadBps value).map fun x => { m with SpreadBps := x }
  | _ => none

/-- The zero value. -/
def CostModel.zero : CostModel := ⟨0, 0, 0, 0⟩

def CostModel.decode : Option CostModel → Json → Option (Option CostModel) :=
  Go.decode_pointer (Go.decode_struct CostModel.decode_field) CostModel.zero

end quant

namespace backtest

/-- The API-level backtest request, before defaults are applied. -/
structure Request where
  Symbol : String := ""
  Strategy : String := ""
  Start : String := ""
  End : String := ""
  Interval : String := ""
  Parameters : Go.Map := []
  InitialCash : ℚ := 0
  CostModel : Option quant.CostModel := none
  ExecutionModel : String := ""
  AllowShort : Bool := false
  LiquidateAtEnd : Option Bool := none
  RiskFreeRate : ℚ := 0

/-- The decoder of one field. -/
def Request.decode_field (r : Request) : String × Json → Option Request
  | ("symbol", value) => (Go.decode_string r.Symbol value).map fun x => { r with Symbol := x }
  | ("strategy", value) => (Go.decode_string r.Strategy value).map fun x => { r with Strategy := x }
  | ("start", value) => (Go.decode_string r.Start value).map fun x => { r with Start := x }
  | ("end", value) => (Go.decode_string r.End value).map fun x => { r with End := x }
  | ("interval", value) => (Go.decode_string r.Interval value).map fun x => { r with Interval := x }
  | ("parameters", value) =>
    (Go.decode_map r.Parameters value).map fun x => { r with Parameters := x }
  | ("initial_cash", value) =>
    (Go.decode_float64 r.InitialCash value).map fun x => { r with InitialCash := x }
  | ("cost_model", value) =>
    (quant.CostModel.decode r.CostModel value).map fun x => { r with CostModel := x }
  | ("execution_model", value) =>
    (Go.decode_string r.ExecutionModel value).map fun x => { r with ExecutionModel := x }
  | ("allow_short", value) =>
    (Go.decode_bool r.AllowShort value).map fun x => { r with AllowShort := x }
  | ("liquidate_at_end", value) =>
    (Go.decode_pointer Go.decode_bool false r.LiquidateAtEnd value).map
      fun x => { r with LiquidateAtEnd := x }
  | ("risk_free_rate", value) =>
    (Go.decode_float64 r.RiskFreeRate value).map fun x => { r with RiskFreeRate := x }
  | _ => none

/-- `decodeJSON(w, r, &req)`. -/
def Request.decode (body : Json) : Option Request :=
  Go.decode_struct Request.decode_field {} body

/-! ## Validation -/

/-- `time.Parse(time.DateOnly, value)` succeeds. -/
def isISODate (value : String) : Bool :=
  match value.toList with
  | [y₁, y₂, y₃, y₄, '-', m₁, m₂, '-', d₁, d₂] =>
    match Python.Date.number [y₁, y₂, y₃, y₄], Python.Date.number [m₁, m₂],
      Python.Date.number [d₁, d₂] with
    | some year, some month, some day =>
      (1 ≤ month ∧ month ≤ 12) ∧ 1 ≤ day ∧ day ≤ Python.days_in_month year month
    | _, _, _ => false
  | _ => false

def Request.problems (r : Request) : List String :=
  (if Go.TrimSpace r.Symbol = "" then ["symbol is required"] else []) ++
  (if Go.TrimSpace r.Strategy = "" then ["strategy is required"] else []) ++
  (if isISODate r.Start then [] else ["start must be an ISO date (YYYY-MM-DD)"]) ++
  (if isISODate r.End then [] else ["end must be an ISO date (YYYY-MM-DD)"]) ++
  (if isISODate r.Start ∧ isISODate r.End ∧ r.End < r.Start then
    ["start must not be after end"] else []) ++
  (if r.InitialCash < 0 then ["initial_cash must be positive"] else [])

/-- `Validate`: the error, if the request is rejected. -/
def Request.Validate (r : Request) : Option String :=
  if r.problems = [] then none
  else some ("invalid backtest request: " ++ Go.join_problems r.problems)

/-! ## Running -/

def defaultString (value fallback : String) : String :=
  if Go.TrimSpace value = "" then fallback else value

def defaultFloat (value fallback : ℚ) : ℚ := if value ≤ 0 then fallback else value

/-- The request that `Run` posts under a fresh identity. -/
def Request.posted (r : Request) (id : String) : quant.BacktestRequest where
  Symbol := r.Symbol
  Strategy := r.Strategy
  Start := r.Start
  End := r.End
  Interval := defaultString r.Interval "1d"
  Parameters := r.Parameters
  InitialCash := defaultFloat r.InitialCash 1000000
  CostModel := r.CostModel
  ExecutionModel := defaultString r.ExecutionModel "next_bar_open"
  AllowShort := r.AllowShort
  LiquidateAtEnd := r.LiquidateAtEnd.getD true
  RiskFreeRate := r.RiskFreeRate
  ExperimentID := id

/-- Why a request was not answered with a result. -/
inductive RequestError where
  /-- The body is not the JSON of a request. -/
  | unreadable
  | ErrInvalidRequest (text : String)
  | upstream (error : ApiError)
  deriving DecidableEq, Repr

/-- A decoded and validated body. -/
def accept (body : Json) : Except RequestError Request :=
  match Request.decode body with
  | none => .error .unreadable
  | some r =>
    match r.Validate with
    | some text => .error (.ErrInvalidRequest text)
    | none => .ok r

/-- `POST /api/backtests`: `Create`, and the `Run` that it calls, against the engine
    of this repository. The answer is the result that is stored. -/
def Create (engine : Engine) (number_text : NumberText) (provider : PriceProvider) (id : String)
    (body : Json) : Except RequestError Json := do
  let r ← accept body
  (run_backtest_endpoint engine number_text provider (r.posted id).marshal).mapError .upstream

/-- The configuration that the engine runs with. -/
def posted_config (number_text : NumberText) (id : String) (body : Json) :
    Except RequestError BacktestConfig := do
  let r ← accept body
  (validate_body number_text (r.posted id).marshal >>= build_config).mapError .upstream

end backtest

end Quantora
