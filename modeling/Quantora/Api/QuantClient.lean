import Quantora.Go.Json

/-! # The client of the engine

    `quant/client.go`: the body that the services post to the engine. A field
    tagged `omitempty` is left out when it holds the zero value of its type, so
    the engine applies its own default. -/

namespace Quantora

namespace quant

structure CostModel where
  CommissionBps : ℚ
  CommissionMin : ℚ
  SlippageBps : ℚ
  SpreadBps : ℚ
  deriving DecidableEq, Repr

/-- The zero values are those of Go. -/
structure BacktestRequest where
  Symbol : String := ""
  Strategy : String := ""
  Start : String := ""
  End : String := ""
  Interval : String := ""
  Parameters : Go.Map := []
  InitialCash : ℚ := 0
  CostModel : Option quant.CostModel := none
  ExecutionModel : String := ""
  AllowShort : Bool := false
  LiquidateAtEnd : Bool := false
  RiskFreeRate : ℚ := 0
  ExperimentID : String := ""

/-- The value of a field tagged `omitempty`, `none` when it is left out. -/
def omitempty (empty : Bool) (value : Json) : Option Json := if empty then none else some value

/-- The fields that are not left out. -/
def present (fields : List (String × Option Json)) : List (String × Json) :=
  fields.filterMap fun field => field.2.map (field.1, ·)

def CostModel.fields (m : CostModel) : List (String × Json) :=
  [("commission_bps", Go.number m.CommissionBps), ("commission_min", Go.number m.CommissionMin),
    ("slippage_bps", Go.number m.SlippageBps), ("spread_bps", Go.number m.SpreadBps)]

def BacktestRequest.fields (r : BacktestRequest) : List (String × Option Json) :=
  [("symbol", some (.str r.Symbol)),
    ("strategy", some (.str r.Strategy)),
    ("start", some (.str r.Start)),
    ("end", some (.str r.End)),
    ("interval", omitempty (r.Interval = "") (.str r.Interval)),
    ("parameters", omitempty r.Parameters.isEmpty (.obj (Go.marshal_entries r.Parameters))),
    ("initial_cash", omitempty (r.InitialCash = 0) (Go.number r.InitialCash)),
    ("cost_model", r.CostModel.map (fun m => .obj m.fields)),
    ("execution_model", omitempty (r.ExecutionModel = "") (.str r.ExecutionModel)),
    ("allow_short", some (.bool r.AllowShort)),
    ("liquidate_at_end", some (.bool r.LiquidateAtEnd)),
    ("risk_free_rate", omitempty (r.RiskFreeRate = 0) (Go.number r.RiskFreeRate)),
    ("experiment_id", omitempty (r.ExperimentID = "") (.str r.ExperimentID))]

/-- `json.Marshal(req)`. -/
def BacktestRequest.marshal (r : BacktestRequest) : Json := .obj (present r.fields)

theorem BacktestRequest.nodup_fields (r : BacktestRequest) : (r.fields.map Prod.fst).Nodup := by
  change ["symbol", "strategy", "start", "end", "interval", "parameters", "initial_cash",
    "cost_model", "execution_model", "allow_short", "liquidate_at_end", "risk_free_rate",
    "experiment_id"].Nodup
  decide +kernel

end quant

end Quantora
