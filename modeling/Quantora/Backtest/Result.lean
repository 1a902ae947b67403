import Quantora.Backtest.Runner
import Quantora.Python.Rendering

/-! # The result contract

    `result.py`: the document that a completed run becomes. The fields here are
    those that the services read; curves, trades, warnings and the texts of the
    assumptions are left out. -/

namespace Quantora

/-! ## Wire forms -/

def ParameterValue.to_json : ParameterValue → Json
  | int n => .int n
  | float none => .float .nan
  | float (some x) => .float (.num x)
  | bool b => .bool b
  | str s => .str s

/-- `CostModel.as_dict`. -/
def CostModel.as_dict (m : CostModel) : List (String × Json) :=
  [("commission_bps", .float (.num m.commission_bps)),
    ("commission_min", .float (.num m.commission_min)),
    ("slippage_bps", .float (.num m.slippage_bps)),
    ("spread_bps", .float (.num m.spread_bps))]

/-- `str(model)`. -/
def ExecutionModel.value : ExecutionModel → String
  | NEXT_BAR_OPEN => "next_bar_open"
  | NEXT_BAR_CLOSE => "next_bar_close"

/-- `BacktestConfig.as_dict`. -/
def BacktestConfig.as_dict (config : BacktestConfig) : List (String × Json) :=
  [("initial_cash", .float (.num config.initial_cash)),
    ("cost_model", .obj config.cost_model.as_dict),
    ("execution_model", .str config.execution_model.value),
    ("allow_short", .bool config.allow_short),
    ("liquidate_at_end", .bool config.liquidate_at_end),
    ("risk_free_rate", .float (.num config.risk_free_rate))]

def parameters_json (strategy : RegisteredStrategy) : List (String × Json) :=
  strategy.parameters.map fun parameter => (parameter.1, parameter.2.to_json)

/-! ## The document -/

def RESULT_CONTRACT_VERSION : ℤ := 1

def result_fields (digest : DataPayload → String) (code_version : String) (run : BacktestRun)
    (experiment_id : Option String) : List (String × Json) :=
  [("contract_version", .int RESULT_CONTRACT_VERSION),
    ("experiment_id", experiment_id.elim .null .str),
    ("strategy", .str run.strategy.name),
    ("symbol", .str run.series.symbol),
    ("interval", .str run.series.interval),
    ("start", .str run.series.provenance.requested_start),
    ("end", .str run.series.provenance.requested_end),
    ("parameters", .obj (parameters_json run.strategy)),
    ("cost_model", .obj run.config.cost_model.as_dict),
    ("backtest_config", .obj run.config.as_dict),
    ("metrics", .obj run.metrics.as_dict),
    ("data_version", .str (run.series.data_version digest)),
    ("code_version", .str code_version)]

/-- Serialize a completed run into the result contract. -/
def build_result (digest : DataPayload → String) (code_version : String) (run : BacktestRun)
    (experiment_id : Option String) : Json :=
  .obj (result_fields digest code_version run experiment_id)

theorem nodup_result_fields (digest : DataPayload → String) (code_version : String)
    (run : BacktestRun) (experiment_id : Option String) :
    ((result_fields digest code_version run experiment_id).map Prod.fst).Nodup := by
  change ["contract_version", "experiment_id", "strategy", "symbol", "interval", "start", "end",
    "parameters", "cost_model", "backtest_config", "metrics", "data_version",
    "code_version"].Nodup
  decide +kernel

theorem nodup_metrics_as_dict (m : Metrics) : (m.as_dict.map Prod.fst).Nodup := by
  change ["total_return", "cagr", "annualized_volatility", "sharpe", "sortino", "max_drawdown",
    "max_drawdown_duration_bars", "calmar", "win_rate", "profit_factor", "trade_count",
    "winning_trades", "losing_trades", "average_win", "average_loss", "turnover", "exposure",
    "total_costs", "cost_drag", "final_equity", "unavailable"].Nodup
  decide +kernel

/-- Only a parameter and a metric can keep a result from being rendered. -/
theorem compliant_build_result (digest : DataPayload → String) (code_version : String)
    (run : BacktestRun) (experiment_id : Option String) :
    (build_result digest code_version run experiment_id).compliant
      = (Json.compliant_fields (parameters_json run.strategy)
          && Json.compliant_fields run.metrics.as_dict) := by
  have hcosts : Json.compliant_fields run.config.cost_model.as_dict = true := rfl
  have hconfig : Json.compliant_fields run.config.as_dict = true := rfl
  have hid : (experiment_id.elim Json.null Json.str).compliant = true := by
    cases experiment_id <;> rfl
  simp only [build_result, result_fields, Json.compliant, Json.compliant_fields, hcosts, hconfig,
    hid, Bool.and_true, Bool.true_and]

/-- What one deployment of the engine fixes. -/
structure Engine where
  rt : Runtime
  digest : DataPayload → String
  code_version : String

end Quantora
