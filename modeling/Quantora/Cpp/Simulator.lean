import Quantora.Backtest.Simulate
import Quantora.Cpp.Portfolio

/-! # The C++ simulator and its wrapper

    * `Cpp.simulate_targets` — `simulator.cpp`: bars, one target per bar and a
      configuration in; a `SimulationResult` over bar indices out.
    * `cpp_engine.simulate_targets` — the Python wrapper: it converts the
      arguments, runs the extension and maps the result back onto the index of
      the frame (`_to_simulation_output`). -/

namespace Quantora

open Python (PyError)

namespace Cpp

/-- `std::invalid_argument` and `std::logic_error`. -/
inductive CppError where
  | invalid_argument (message : String)
  | logic_error (message : String)
  deriving DecidableEq, Repr

inductive PriceField where
  | Open
  | Close
  deriving DecidableEq, Repr

structure SimulationConfig where
  initial_cash : ℚ := 1000000
  costs : CostModel := {}
  price_field : PriceField := .Open
  liquidate_at_end : Bool := true
  deriving DecidableEq, Repr

structure Bar where
  open_ : ℚ
  high : ℚ
  low : ℚ
  close : ℚ
  volume : ℚ
  deriving DecidableEq, Repr

inductive WarningKind where
  | SkippedBuy
  | ReducedBuy
  deriving DecidableEq, Repr

/-- A fill the cash constraint had to interfere with, as facts. -/
structure ExecutionWarning where
  bar_index : ℕ
  kind : WarningKind
  requested_quantity : ℚ
  filled_quantity : ℚ
  fill_price : ℚ
  deriving DecidableEq, Repr

structure SimulationResult where
  equity_curve : List ℚ
  exposure : List ℚ
  orders : List OrderEvent
  fills : List FillEvent
  positions : List PositionEvent
  trades : List Trade
  warnings : List ExecutionWarning
  final_position : PositionState
  final_cash : ℚ
  final_quantity : ℚ
  realized_pnl : ℚ
  total_commission : ℚ
  total_slippage : ℚ
  total_traded_notional : ℚ
  deriving DecidableEq, Repr

/-! ## `simulator.cpp` -/

def kMinimumOrderQuantity : ℚ := 1 / 1000000000

def make_pending_order (decision_bar execution_bar : ℕ) (delta : ℚ) (reason : String) :
    Option OrderEvent :=
  if |delta| < kMinimumOrderQuantity then none
  else
    some
      { decision_bar := decision_bar
        bar_index := execution_bar
        side := if delta > 0 then .Buy else .Sell
        quantity := |delta|
        reason := reason }

def reference_price_of (market : MarketEvent) (field : PriceField) : ℚ :=
  match field with
  | .Open => market.open_
  | .Close => market.close

/-- `execute` past its check: the fill, if any, and the warnings issued. -/
def fill_order (order : OrderEvent) (market : MarketEvent) (price_field : PriceField)
    (portfolio : Portfolio) (config : SimulationConfig) :
    Option FillEvent × List ExecutionWarning :=
  let reference_price := reference_price_of market price_field
  let fill_price := config.costs.fill_price reference_price order.side
  let commission := config.costs.commission (order.quantity * fill_price)
  let fill : FillEvent :=
    { bar_index := market.bar_index
      side := order.side
      quantity := order.quantity
      reference_price := reference_price
      fill_price := fill_price
      commission := commission
      reason := order.reason }
  if order.side = .Buy ∧
      ¬ portfolio.can_afford order.side order.quantity fill_price commission then
    let affordable := portfolio.max_affordable_quantity fill_price
      (config.costs.commission_bps / 10000)
    if affordable ≤ 0 then
      (none, [⟨market.bar_index, .SkippedBuy, order.quantity, 0, fill_price⟩])
    else
      (some
        { fill with
          quantity := affordable
          commission := config.costs.commission (affordable * fill_price) },
        [⟨market.bar_index, .ReducedBuy, order.quantity, affordable, fill_price⟩])
  else (some fill, [])

def execute (order : OrderEvent) (market : MarketEvent) (price_field : PriceField)
    (portfolio : Portfolio) (config : SimulationConfig) :
    Except CppError (Option FillEvent × List ExecutionWarning) :=
  if order.bar_index ≠ market.bar_index then
    .error (.logic_error "order scheduled for one bar reached a different bar")
  else .ok (fill_order order market price_field portfolio config)

/-- The local variables of `simulate_targets`. -/
structure RunState where
  portfolio : Portfolio
  pending : Option OrderEvent := none
  equity_curve : List ℚ := []
  exposure : List ℚ := []
  orders : List OrderEvent := []
  fills : List FillEvent := []
  positions : List PositionEvent := []
  warnings : List ExecutionWarning := []
  deriving DecidableEq, Repr

/-- Apply a fill, if there is one. -/
def RunState.book (st : RunState) (i : ℕ) : Option FillEvent → RunState
  | none => st
  | some fill =>
    { st with portfolio := st.portfolio.apply_fill fill i, fills := st.fills ++ [fill] }

/-- Step 1: execute the order decided on the previous bar. -/
def execute_pending (config : SimulationConfig) (i : ℕ) (market : MarketEvent) (st : RunState) :
    Except CppError RunState :=
  match st.pending with
  | none => .ok st
  | some order => do
      let (fill, warnings) ← execute order market config.price_field st.portfolio config
      .ok { st.book i fill with pending := none, warnings := st.warnings ++ warnings }

/-- Step 2: mark to market at this bar's close. -/
def RunState.mark (st : RunState) (i : ℕ) (market : MarketEvent) : RunState :=
  let position := st.portfolio.position
  let market_value := position.market_value market.close
  let equity := st.portfolio.cash + market_value
  { st with
    equity_curve := st.equity_curve ++ [equity]
    exposure := st.exposure ++ [if equity ≠ 0 then market_value / equity else 0]
    positions := st.positions ++
      [{ bar_index := i
         quantity := position.quantity
         average_price := position.average_price
         cash := st.portfolio.cash
         market_value := market_value
         unrealized_pnl := position.unrealized_pnl market.close
         realized_pnl := position.realized_pnl }] }

/-- Step 3: the target decided at this bar's close. -/
def RunState.place (st : RunState) (i : ℕ) (target : ℚ) (reason : String) : RunState :=
  -- Bars are numbers here; `cpp_engine.py` puts the timestamps back.
  let order := make_pending_order i (i + 1) (target - st.portfolio.position.quantity) reason
  { st with orders := st.orders ++ order.toList, pending := order }

/-- One iteration of the loop over `n` bars. -/
def run_bar (n : ℕ) (targets : List ℚ) (reasons : List String) (config : SimulationConfig)
    (i : ℕ) (bar : Bar) (st : RunState) : Except CppError RunState := do
  let market : MarketEvent := ⟨i, bar.open_, bar.high, bar.low, bar.close, bar.volume⟩
  let executed ← execute_pending config i market st
  let marked := executed.mark i market
  -- No order is placed on the last bar.
  if i = n - 1 then .ok marked
  else
    .ok (marked.place i (targets.getD i 0) (if reasons.isEmpty then "" else reasons.getD i ""))

def liquidation_fill (last : Bar) (last_index : ℕ) (config : SimulationConfig)
    (position : PositionState) : FillEvent :=
  let side : OrderSide := if position.quantity > 0 then .Sell else .Buy
  let quantity := |position.quantity|
  let fill_price := config.costs.fill_price last.close side
  { bar_index := last_index
    side := side
    quantity := quantity
    reference_price := last.close
    fill_price := fill_price
    commission := config.costs.commission (quantity * fill_price)
    reason := "backtest ended — position closed at the final close" }

/-- `liquidate`, and the final equity point that must reflect it. -/
def liquidate (bar_count : ℕ) (last : Bar) (config : SimulationConfig) (st : RunState) :
    RunState :=
  let closed :=
    if st.portfolio.position.is_flat then st
    else st.book (bar_count - 1)
      (some (liquidation_fill last (bar_count - 1) config st.portfolio.position))
  { closed with
    equity_curve := closed.equity_curve.set (bar_count - 1) (closed.portfolio.equity last.close)
    exposure := closed.exposure.set (bar_count - 1) 0 }

/-- Step 4: close out. `bars` is not empty. -/
def close_out (bars : List Bar) (config : SimulationConfig) (st : RunState) : RunState :=
  if config.liquidate_at_end then
    match bars.getLast? with
    | none => st
    | some last => liquidate bars.length last config st
  else st

def RunState.result (st : RunState) : SimulationResult where
  equity_curve := st.equity_curve
  exposure := st.exposure
  orders := st.orders
  fills := st.fills
  positions := st.positions
  trades := st.portfolio.trades
  warnings := st.warnings
  final_position := st.portfolio.position
  final_cash := st.portfolio.cash
  final_quantity := st.portfolio.position.quantity
  realized_pnl := st.portfolio.position.realized_pnl
  total_commission := st.portfolio.total_commission
  total_slippage := st.portfolio.total_slippage
  total_traded_notional := st.portfolio.total_traded_notional

def simulate_targets (bars : List Bar) (targets : List ℚ) (reasons : List String)
    (config : SimulationConfig) : Except CppError SimulationResult :=
  if bars.isEmpty then
    .error (.invalid_argument "cannot simulate a backtest over an empty price series")
  else if targets.length ≠ bars.length then
    .error (.invalid_argument "targets must have exactly one entry per bar")
  else if ¬ reasons.isEmpty ∧ reasons.length ≠ bars.length then
    .error (.invalid_argument "reasons must be empty or have exactly one entry per bar")
  else if ¬ config.initial_cash > 0 then
    .error (.invalid_argument "initial_cash must be positive")
  else do
    let st ← Loop.runE (run_bar bars.length targets reasons config) 0 bars
      { portfolio := { initial_cash := config.initial_cash, cash := config.initial_cash } }
    .ok (close_out bars config st).result

end Cpp

/-! ## `cpp_engine.py` -/

namespace cpp_engine

/-- The extension's exceptions as Python sees them. -/
def translate : Cpp.CppError → PyError
  | .invalid_argument message => .ValueError message
  | .logic_error message => .RuntimeError message

def price_field (model : ExecutionModel) : Cpp.PriceField :=
  if model = .NEXT_BAR_OPEN then .Open else .Close

def side (extension_side : Cpp.OrderSide) : OrderSide :=
  if extension_side = .Buy then .BUY else .SELL

/-- `index[bar]`. -/
def at_bar (index : List Timestamp) (bar : ℕ) : Except PyError Timestamp :=
  match index[bar]? with
  | some timestamp => .ok timestamp
  | none => .error .IndexError

section Convert

variable (index : List Timestamp) (symbol : String)

def to_state (final : Cpp.PositionState) : Except PyError PositionState := do
  let entry_timestamp ←
    -- A flat position has no entry to look up.
    if final.quantity = 0 then .ok none else (at_bar index final.entry_bar_index).map some
  .ok
    { symbol := symbol
      quantity := final.quantity
      average_price := final.average_price
      realized_pnl := final.realized_pnl
      entry_timestamp := entry_timestamp
      entry_bar_index := final.entry_bar_index
      entry_reason := final.entry_reason
      open_costs := final.open_costs }

def to_trade (trade : Cpp.Trade) : Except PyError Trade := do
  let entry_timestamp ← at_bar index trade.entry_bar
  let exit_timestamp ← at_bar index trade.exit_bar
  .ok
    { symbol := symbol
      direction := if trade.direction > 0 then .long else .short
      quantity := trade.quantity
      entry_timestamp := entry_timestamp
      entry_price := trade.entry_price
      exit_timestamp := exit_timestamp
      exit_price := trade.exit_price
      gross_pnl := trade.gross_pnl
      costs := trade.costs
      pnl := trade.pnl
      return_pct := trade.return_pct
      bars_held := trade.bars_held.toNat
      entry_reason := trade.entry_reason
      exit_reason := trade.exit_reason }

def to_warning (warning : Cpp.ExecutionWarning) : Except PyError String := do
  let timestamp ← at_bar index warning.bar_index
  match warning.kind with
  | .SkippedBuy =>
    .ok (skipped_buy_warning timestamp symbol warning.requested_quantity warning.fill_price)
  | .ReducedBuy =>
    .ok (reduced_buy_warning timestamp symbol warning.requested_quantity warning.filled_quantity)

def to_position (event : Cpp.PositionEvent) : Except PyError PositionEvent := do
  let timestamp ← at_bar index event.bar_index
  .ok
    { timestamp := timestamp
      symbol := symbol
      quantity := event.quantity
      average_price := event.average_price
      cash := event.cash
      market_value := event.market_value
      unrealized_pnl := event.unrealized_pnl
      realized_pnl := event.realized_pnl }

def to_order (order : Cpp.OrderEvent) : Except PyError OrderEvent := do
  let decision_timestamp ← at_bar index order.decision_bar
  let timestamp ← at_bar index order.bar_index
  -- `OrderEvent.__post_init__`.
  if h : 0 < order.quantity then
    .ok
      { decision_timestamp := decision_timestamp
        timestamp := timestamp
        symbol := symbol
        side := side order.side
        quantity := order.quantity
        reason := order.reason
        quantity_pos := h }
  else .error (.ValueError ("order quantity must be positive, got " ++ Python.fmt_g order.quantity))

def to_fill (fill : Cpp.FillEvent) : Except PyError FillEvent := do
  let timestamp ← at_bar index fill.bar_index
  .ok
    { timestamp := timestamp
      symbol := symbol
      side := side fill.side
      quantity := fill.quantity
      reference_price := fill.reference_price
      fill_price := fill.fill_price
      commission := fill.commission
      reason := fill.reason }

end Convert

/-- `_to_simulation_output`: bar indices back onto the index of the frame. -/
def to_simulation_output (result : Cpp.SimulationResult) (index : List Timestamp)
    (symbol strategy : String) (config : BacktestConfig) : Except PyError SimulationOutput := do
  -- In the order in which the source converts them, so that the first failure is the same.
  let state ← to_state index symbol result.final_position
  let trades ← result.trades.mapM (to_trade index symbol)
  let warnings ← result.warnings.mapM (to_warning index symbol)
  let positions ← result.positions.mapM (to_position index symbol)
  let orders ← result.orders.mapM (to_order index symbol)
  let fills ← result.fills.mapM (to_fill index symbol)
  let fresh := Portfolio.new config.initial_cash
  .ok
    { symbol := symbol
      strategy := strategy
      equity_curve := index.zip result.equity_curve
      positions := positions
      orders := orders
      fills := fills
      portfolio :=
        { fresh with
          cash := result.final_cash
          total_commission := result.total_commission
          total_slippage := result.total_slippage
          total_traded_notional := result.total_traded_notional
          positions := fresh.positions.upsert state
          trades := trades }
      signals := none
      warnings := warnings
      exposure := index.zip result.exposure }

def extension_costs (model : CostModel) : Cpp.CostModel where
  commission_bps := model.commission_bps
  commission_min := model.commission_min
  slippage_bps := model.slippage_bps
  spread_bps := model.spread_bps

def extension_config (config : BacktestConfig) : Cpp.SimulationConfig where
  initial_cash := config.initial_cash
  costs := extension_costs config.cost_model
  price_field := price_field config.execution_model
  liquidate_at_end := config.liquidate_at_end

/-- The five columns the extension is given. -/
def extension_bar (bar : Bar) : Cpp.Bar := ⟨bar.open_, bar.high, bar.low, bar.close, bar.volume⟩

/-- `cpp_engine.simulate_targets`, with the extension available. -/
def simulate_targets (frame : List Bar) (targets : List ℚ) (symbol : String)
    (reasons : Option (List String)) (config : BacktestConfig) (strategy : String) :
    Except PyError SimulationOutput :=
  if frame.isEmpty then
    .error (.ValueError "cannot simulate a backtest over an empty price series")
  else if targets.length ≠ frame.length then
    .error (.ValueError (targets_length_message targets.length frame.length))
  else if ∃ r ∈ reasons, r.length ≠ frame.length then
    .error (.ValueError
      (reasons_length_message (reasons.elim 0 List.length) frame.length))
  else do
    let result ← (Cpp.simulate_targets (frame.map extension_bar) targets (reasons.getD [])
      (extension_config config)).mapError translate
    to_simulation_output result (frame.map Bar.timestamp) symbol strategy config

end cpp_engine

end Quantora
