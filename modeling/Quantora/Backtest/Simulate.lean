import Quantora.Backtest.Execution
import Quantora.Strategy.Base

/-! # The two decision halves

    `engine.py` drives the execution loop in two ways:

    * `simulate` — the targets come from a strategy's signals, its exit rule and
      its sizing rule. The closure remembers the direction it left on a
      discretionary exit (`suppressed_direction`) until the signal changes.
    * `simulate_targets` — the targets are given, one per bar.
-/

namespace Quantora

open Python (PyError)

/-- A `pd.Series` of floats, on its index. -/
abbrev Series := List (Timestamp × ℚ)

/-- Raw simulation output, before metrics are computed. -/
structure SimulationOutput where
  symbol : String
  strategy : String
  equity_curve : Series
  positions : List PositionEvent
  orders : List OrderEvent
  fills : List FillEvent
  portfolio : Portfolio
  signals : Option SignalSet
  warnings : List String
  exposure : Series

/-- The output of a finished loop over `frame`. -/
def LoopState.output {σ : Type} (st : LoopState σ) (symbol strategy : String)
    (signals : Option SignalSet) (frame : List Bar) : SimulationOutput where
  symbol := symbol
  strategy := strategy
  equity_curve := (frame.map Bar.timestamp).zip st.equity_values
  positions := st.positions
  orders := st.orders
  fills := st.fills
  portfolio := st.portfolio
  signals := signals
  warnings := st.warnings
  exposure := (frame.map Bar.timestamp).zip st.exposure_values

/-! ## Decisions from a strategy -/

def direction_of (quantity : ℚ) : SignalDirection :=
  if quantity > 0 then .LONG else if quantity < 0 then .SHORT else .FLAT

/-- The known values of the row stamped `timestamp`; empty if there is none. -/
def indicator_row (indicators : List IndicatorRow) (timestamp : Timestamp) :
    List (String × ℚ) :=
  match indicators.find? (fun row => row.timestamp = timestamp) with
  | none => []
  | some row => row.values.filterMap fun (name, value) => value.map (name, ·)

def as_contract_position (portfolio : Portfolio) (symbol : String) (bar_index : ℕ) : Position :=
  let state := portfolio.position symbol
  { symbol := symbol
    quantity := state.quantity
    entry_price := state.average_price
    entry_timestamp := state.entry_timestamp.getD 0
    bars_held := if state.is_flat then 0 else bar_index - state.entry_bar_index }

/-- The return on the open position's notional. -/
def unrealized_return (position : PositionState) (price : ℚ) : Except PyError ℚ :=
  if position.quantity = 0 then .ok 0
  else
    let notional := |position.average_price * position.quantity|
    -- Guarded by the quantity alone: a price of zero raises.
    if notional = 0 then .error .ZeroDivisionError
    else .ok (position.unrealized_pnl price / notional)

section Decide

variable (strategy : Strategy) (config : BacktestConfig) (symbol : String) (signals : SignalSet)

/-- The discretionary exit, evaluated on this bar's close: its reason, if the
    strategy asks for it. -/
def exit_reason (portfolio : Portfolio) (i : ℕ) (market : MarketEvent)
    (position : PositionState) : Except PyError (Option String) :=
  if position.is_flat then .ok none
  else do
    let unrealized_return ← unrealized_return position market.close
    let decision := strategy.exit_signal
      { timestamp := market.timestamp
        symbol := symbol
        position := as_contract_position portfolio symbol i
        price := market.close
        bar := market.as_bar
        unrealized_pnl := position.unrealized_pnl market.close
        unrealized_return := unrealized_return
        indicators := indicator_row signals.indicators market.timestamp }
    if decision.should_exit then
      .ok (some (if decision.reason = "" then "strategy exit signal" else decision.reason))
    else .ok none

/-- The engine has the final say: a short target is flat in a long-only run. -/
def allowed_direction (direction : SignalDirection) : SignalDirection :=
  if direction = .SHORT ∧ ¬ config.allow_short then .FLAT else direction

/-- Re-entry is suppressed until the signal itself changes its mind. -/
def resolve_suppression (suppressed : Option SignalDirection) (direction : SignalDirection) :
    SignalDirection × Option SignalDirection :=
  if suppressed = some direction then (.FLAT, suppressed) else (direction, none)

/-- The target direction of a signal row, and the suppression that remains. -/
def target_direction (suppressed : Option SignalDirection) (row : SignalRow) :
    SignalDirection × Option SignalDirection :=
  resolve_suppression suppressed (allowed_direction config row.direction)

/-- What `position_size` is asked for a target direction at this bar. -/
def sizing_context (portfolio : Portfolio) (i : ℕ) (market : MarketEvent) (equity : ℚ)
    (row : SignalRow) (direction : SignalDirection) : SizingContext where
  timestamp := market.timestamp
  symbol := symbol
  direction := direction
  strength := row.strength
  price := market.close
  equity := equity
  cash := portfolio.cash
  position := as_contract_position portfolio symbol i
  indicators := indicator_row signals.indicators market.timestamp

/-- A position that already points the right way is kept, unless the strategy
    rebalances continuously. -/
def keeps_position (direction : SignalDirection) (position : PositionState) : Bool :=
  direction = direction_of position.quantity ∧ ¬ strategy.rebalances_continuously

/-- The `decide` closure of `simulate`. -/
def simulate_decide : DecisionFn (Option SignalDirection) :=
  fun portfolio suppressed i market equity position => do
    match ← exit_reason strategy symbol signals portfolio i market position with
    -- An exit overrides the signal, and suppresses its direction.
    | some reason => .ok ((0, reason), some (direction_of position.quantity))
    | none =>
      match signals.frame[i]? with
      | none => .error .IndexError
      | some row =>
        let (direction, suppressed) := target_direction config suppressed row
        if keeps_position strategy direction position then
          .ok ((position.quantity, ""), suppressed)
        else
          let reason := if row.reason = "" then "target " ++ direction.label else row.reason
          let size := strategy.position_size
            (sizing_context symbol signals portfolio i market equity row direction)
          .ok ((size, reason), suppressed)

end Decide

/-- `simulate`: run one instrument through the execution simulator. -/
def simulate (series : PriceSeries) (strategy : Strategy) (signals : SignalSet)
    (config : BacktestConfig) : Except PyError SimulationOutput :=
  if series.frame.bars.isEmpty then
    .error (.ValueError "cannot simulate a backtest over an empty price series")
  else if series.frame.index ≠ signals.frame.map SignalRow.timestamp then
    .error (.ValueError
      "signal index does not match the price index; the strategy must emit one row per bar")
  else do
    let st ← run_execution series.symbol series.frame.bars config
      (simulate_decide strategy config series.symbol signals) none
    .ok (st.output series.symbol strategy.name (some signals) series.frame.bars)

/-! ## Decisions from given targets -/

/-- The `decide` closure of `simulate_targets`. -/
def simulate_targets_decide (targets : List ℚ) (reasons : Option (List String)) : DecisionFn Unit :=
  fun _ _ i _ _ _ =>
    match targets[i]?, reasons.map (·[i]?) with
    | some target, none => .ok ((target, ""), ())
    | some target, some (some reason) => .ok ((target, reason), ())
    | _, _ => .error .IndexError

def targets_length_message (targets bars : ℕ) : String :=
  "targets has " ++ toString targets ++ " entries but there are " ++ toString bars
    ++ " bars; the executor needs exactly one target per bar"

def reasons_length_message (reasons bars : ℕ) : String :=
  "reasons has " ++ toString reasons ++ " entries but there are " ++ toString bars ++ " bars"

/-- `simulate_targets`: execute a pre-computed target position per bar. -/
def simulate_targets (frame : List Bar) (targets : List ℚ) (symbol : String)
    (reasons : Option (List String)) (config : BacktestConfig) (strategy : String) :
    Except PyError SimulationOutput :=
  if frame.isEmpty then
    .error (.ValueError "cannot simulate a backtest over an empty price series")
  else if targets.length ≠ frame.length then
    .error (.ValueError (targets_length_message targets.length frame.length))
  else if ∃ r ∈ reasons, r.length ≠ frame.length then
    .error (.ValueError
      (reasons_length_message (reasons.elim 0 List.length) frame.length))
  else do
    let st ← run_execution symbol frame config (simulate_targets_decide targets reasons) ()
    .ok (st.output symbol strategy none frame)

end Quantora
