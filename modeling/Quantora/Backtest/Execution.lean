import Quantora.Framework.Loop
import Quantora.Data.Types
import Quantora.Backtest.Portfolio

/-! # The execution loop

    The execution half of `engine.py`: targets in, portfolio state out.

    One iteration (`run_bar`) executes the order decided on the previous bar,
    marks the portfolio to market at this bar's close, and asks `decide` for the
    position to hold from the next bar on. The single `pending` slot is what
    enforces causality: nothing can be placed and filled within one bar.

    `decide` is a parameter. It may carry state from bar to bar (`σ`, the
    variables a Python closure declares `nonlocal`) and it may raise. -/

namespace Quantora

open Python (PyError)

def Bar.market (bar : Bar) (symbol : String) : MarketEvent where
  timestamp := bar.timestamp
  symbol := symbol
  open_ := bar.open_
  high := bar.high
  low := bar.low
  close := bar.close
  volume := bar.volume

@[simp] theorem Bar.timestamp_market (bar : Bar) (symbol : String) :
    (bar.market symbol).timestamp = bar.timestamp := rfl

@[simp] theorem Bar.close_market (bar : Bar) (symbol : String) :
    (bar.market symbol).close = bar.close := rfl

/-! ## Orders -/

/-- An order below this size is not worth placing. -/
def MINIMUM_ORDER : ℚ := 1 / 1000000000

def pending_order (decision_timestamp execution_timestamp : Timestamp) (symbol : String)
    (delta : ℚ) (reason : String) : Option OrderEvent :=
  if h : |delta| < MINIMUM_ORDER then none
  else
    some
      { decision_timestamp := decision_timestamp
        timestamp := execution_timestamp
        symbol := symbol
        side := if delta > 0 then .BUY else .SELL
        quantity := |delta|
        reason := reason
        quantity_pos := lt_of_lt_of_le (by norm_num [MINIMUM_ORDER]) (not_lt.mp h) }

def skipped_buy_warning (timestamp : Timestamp) (symbol : String) (quantity fill_price : ℚ) :
    String :=
  Python.date timestamp ++ ": skipped a buy of " ++ Python.fmt_g quantity ++ " " ++ symbol
    ++ " — insufficient cash at " ++ Python.fmt_2f fill_price ++ "."

def reduced_buy_warning (timestamp : Timestamp) (symbol : String) (quantity affordable : ℚ) :
    String :=
  Python.date timestamp ++ ": reduced a buy of " ++ Python.fmt_g quantity ++ " to "
    ++ Python.fmt_g affordable ++ " " ++ symbol ++ " — insufficient cash for the full size."

/-- The fill of `quantity` units of an order at a bar. -/
def fill_of (order : OrderEvent) (market : MarketEvent) (config : BacktestConfig)
    (quantity : ℚ) : FillEvent :=
  let reference_price := config.execution_model.price_of market
  let fill_price := config.cost_model.fill_price reference_price order.side
  { timestamp := market.timestamp
    symbol := order.symbol
    side := order.side
    quantity := quantity
    reference_price := reference_price
    fill_price := fill_price
    commission := config.cost_model.commission (quantity * fill_price)
    reason := order.reason }

/-- `_execute` past its assertion: the fill, if any, and the warnings issued. -/
def fill_order (order : OrderEvent) (market : MarketEvent) (portfolio : Portfolio)
    (config : BacktestConfig) : Option FillEvent × List String :=
  let full := fill_of order market config order.quantity
  match order.side with
  | .SELL => (some full, [])
  | .BUY =>
    if portfolio.can_afford order.side order.quantity full.fill_price full.commission then
      (some full, [])
    else
      -- The rate only: neither the minimum commission nor the order bounds it.
      let affordable := portfolio.max_affordable_quantity full.fill_price
        (config.cost_model.commission_bps / BPS)
      if affordable ≤ 0 then
        (none, [skipped_buy_warning market.timestamp order.symbol order.quantity full.fill_price])
      else
        (some (fill_of order market config affordable),
          [reduced_buy_warning market.timestamp order.symbol order.quantity affordable])

/-- `_execute`: turn an order into a fill, honouring costs and the cash
    constraint. -/
def execute (order : OrderEvent) (market : MarketEvent) (portfolio : Portfolio)
    (config : BacktestConfig) : Except PyError (Option FillEvent × List String) :=
  if order.timestamp ≠ market.timestamp then
    .error (.AssertionError ("order scheduled for " ++ Python.str_timestamp order.timestamp
      ++ " reached bar " ++ Python.str_timestamp market.timestamp))
  else .ok (fill_order order market portfolio config)

/-! ## The loop -/

/-- What a decision step returns: the position to hold from the next bar on,
    and the reason recorded on the resulting order. -/
abbrev TargetDecision := ℚ × String

/-- `decide(i, market, equity, position)`, with the portfolio and the `nonlocal`
    state that the closure reads, and the new `nonlocal` state it leaves. -/
abbrev DecisionFn (σ : Type) :=
  Portfolio → σ → ℕ → MarketEvent → ℚ → PositionState → Except PyError (TargetDecision × σ)

/-- The loop's local variables together with the output it appends to. -/
structure LoopState (σ : Type) where
  portfolio : Portfolio
  closure : σ
  pending : Option OrderEvent := none
  equity_values : List ℚ := []
  exposure_values : List ℚ := []
  positions : List PositionEvent := []
  orders : List OrderEvent := []
  fills : List FillEvent := []
  warnings : List String := []

namespace LoopState

variable {σ : Type}

/-- Apply a fill, if there is one. -/
def book (st : LoopState σ) (i : ℕ) : Option FillEvent → LoopState σ
  | none => st
  | some fill =>
    { st with
      portfolio := st.portfolio.apply_fill fill i
      fills := st.fills ++ [fill] }

/-- Step 2: mark to market at this bar's close. -/
def mark (st : LoopState σ) (symbol : String) (market : MarketEvent) : LoopState σ :=
  let equity := st.portfolio.equity (Prices.single symbol market.close)
  let position := st.portfolio.position symbol
  let market_value := position.market_value market.close
  { st with
    portfolio := st.portfolio.touch symbol
    equity_values := st.equity_values ++ [equity]
    exposure_values := st.exposure_values ++ [if equity = 0 then 0 else market_value / equity]
    positions := st.positions ++
      [{ timestamp := market.timestamp
         symbol := symbol
         quantity := position.quantity
         average_price := position.average_price
         cash := st.portfolio.cash
         market_value := market_value
         unrealized_pnl := position.unrealized_pnl market.close
         realized_pnl := position.realized_pnl }] }

/-- Step 3, after the decision: place the order that moves to the target. -/
def place (st : LoopState σ) (symbol : String) (market : MarketEvent)
    (execution_timestamp : Timestamp) (decision : TargetDecision × σ) : LoopState σ :=
  let order := pending_order market.timestamp execution_timestamp symbol
    (decision.1.1 - st.portfolio.quantity symbol) decision.1.2
  { st with
    closure := decision.2
    orders := st.orders ++ order.toList
    pending := order }

/-- The equity that step 3 passes to `decide`. -/
def equity (st : LoopState σ) (symbol : String) (market : MarketEvent) : ℚ :=
  st.portfolio.equity (Prices.single symbol market.close)

end LoopState

section Loop

variable {σ : Type}

/-- Step 1: execute the order decided on the previous bar. -/
def execute_pending (config : BacktestConfig) (i : ℕ) (market : MarketEvent)
    (st : LoopState σ) : Except PyError (LoopState σ) :=
  match st.pending with
  | none => .ok st
  | some order => do
      let (fill, warnings) ← execute order market st.portfolio config
      -- Filled, reduced or skipped, the order is spent.
      .ok { st.book i fill with pending := none, warnings := st.warnings ++ warnings }

/-- One iteration. The second component of `step` is `index[i + 1]`, or `none`
    at the last bar, where there is no bar left to execute on. -/
def run_bar (symbol : String) (config : BacktestConfig) (decide : DecisionFn σ) (i : ℕ)
    (step : Bar × Option Timestamp) (st : LoopState σ) : Except PyError (LoopState σ) := do
  let market := step.1.market symbol
  let executed ← execute_pending config i market st
  let marked := executed.mark symbol market
  match step.2 with
  -- `decide` is not called at the last bar.
  | none => .ok marked
  | some execution_timestamp => do
      let decision ← decide marked.portfolio marked.closure i market
        (executed.equity symbol market) (marked.portfolio.position symbol)
      .ok (marked.place symbol market execution_timestamp decision)

/-- The bar loop. -/
def run_bars (symbol : String) (config : BacktestConfig) (decide : DecisionFn σ)
    (frame : List Bar) (st : LoopState σ) : Except PyError (LoopState σ) :=
  Loop.runE (run_bar symbol config decide) 0 (Loop.withNext Bar.timestamp frame) st

def LIQUIDATION_REASON : String := "backtest ended — position closed at the final close"

/-- The fill that closes an open position at the final close. -/
def liquidation_fill (symbol : String) (last : Bar) (config : BacktestConfig)
    (position : PositionState) : FillEvent :=
  let side : OrderSide := if position.quantity > 0 then .SELL else .BUY
  let quantity := |position.quantity|
  let fill_price := config.cost_model.fill_price last.close side
  { timestamp := last.timestamp
    symbol := symbol
    side := side
    quantity := quantity
    reference_price := last.close
    fill_price := fill_price
    commission := config.cost_model.commission (quantity * fill_price)
    reason := LIQUIDATION_REASON }

/-- `_liquidate`, and the final equity point that must reflect it. -/
def liquidate (symbol : String) (last : Bar) (config : BacktestConfig) (bar_count : ℕ)
    (st : LoopState σ) : LoopState σ :=
  -- A flat run keeps its portfolio, but its last point is written again.
  let position := st.portfolio.position symbol
  let closed :=
    if position.is_flat then st
    else st.book (bar_count - 1) (some (liquidation_fill symbol last config position))
  { closed with
    equity_values := closed.equity_values.dropLast
      ++ [closed.portfolio.equity (Prices.single symbol last.close)]
    exposure_values := closed.exposure_values.dropLast ++ [0] }

/-- Step 4: close out, when the configuration asks for it. -/
def close_out (symbol : String) (frame : List Bar) (config : BacktestConfig)
    (st : LoopState σ) : Except PyError (LoopState σ) :=
  if config.liquidate_at_end then
    match frame.getLast? with
    | none => .error .IndexError
    | some last => .ok (liquidate symbol last config frame.length st)
  else .ok st

/-- `_run_execution`: the loop and the close-out. -/
def run_execution (symbol : String) (frame : List Bar) (config : BacktestConfig)
    (decide : DecisionFn σ) (closure : σ) : Except PyError (LoopState σ) := do
  let st ← run_bars symbol config decide frame
    { portfolio := Portfolio.new config.initial_cash, closure := closure }
  close_out symbol frame config st

end Loop

end Quantora
