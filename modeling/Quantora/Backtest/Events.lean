import Quantora.Python.Conversions

/-! # Events

    The event vocabulary shared by the Python simulator and the C++ one
    (`events.py`): a bar of market data, an order, a fill, and the portfolio
    state after a bar. Amounts are exact rationals. -/

namespace Quantora

/-- Which way an order trades. -/
inductive OrderSide where
  | BUY
  | SELL
  deriving DecidableEq, Repr

/-- `+1` to buy, `-1` to sell. -/
def OrderSide.sign : OrderSide → ℤ
  | .BUY => 1
  | .SELL => -1

@[simp] theorem OrderSide.sign_BUY : OrderSide.BUY.sign = 1 := rfl
@[simp] theorem OrderSide.sign_SELL : OrderSide.SELL.sign = -1 := rfl

theorem OrderSide.sign_mul_self (side : OrderSide) : (side.sign : ℚ) * side.sign = 1 := by
  cases side <;> norm_num

theorem OrderSide.abs_sign (side : OrderSide) : |(side.sign : ℚ)| = 1 := by
  cases side <;> norm_num

inductive OrderType where
  | MARKET
  deriving DecidableEq, Repr

/-- One bar of market data becoming available. -/
structure MarketEvent where
  timestamp : Timestamp
  symbol : String
  open_ : ℚ
  high : ℚ
  low : ℚ
  close : ℚ
  volume : ℚ
  deriving DecidableEq, Repr

def MarketEvent.as_bar (market : MarketEvent) : List (String × ℚ) :=
  [("open", market.open_), ("high", market.high), ("low", market.low),
    ("close", market.close), ("volume", market.volume)]

/-- An intent to trade, created at the close of `decision_timestamp` and
    eligible to execute at `timestamp`. -/
structure OrderEvent where
  decision_timestamp : Timestamp
  timestamp : Timestamp
  symbol : String
  side : OrderSide
  quantity : ℚ
  order_type : OrderType := .MARKET
  reason : String := ""
  /-- `__post_init__` rejects anything else. -/
  quantity_pos : 0 < quantity
  deriving Repr

/-- An order that executed, with the costs it actually incurred. -/
structure FillEvent where
  timestamp : Timestamp
  symbol : String
  side : OrderSide
  quantity : ℚ
  /-- The bar price the fill was benchmarked against, before costs. -/
  reference_price : ℚ
  /-- What was actually paid or received, after slippage and half-spread. -/
  fill_price : ℚ
  commission : ℚ
  reason : String := ""
  deriving DecidableEq, Repr

namespace FillEvent

def notional (fill : FillEvent) : ℚ := fill.quantity * fill.fill_price

/-- Cost of the gap between the reference price and the fill price. -/
def slippage_cost (fill : FillEvent) : ℚ :=
  |fill.fill_price - fill.reference_price| * fill.quantity

def total_cost (fill : FillEvent) : ℚ := fill.commission + fill.slippage_cost

/-- Change in cash: buying spends, selling receives; commission always costs. -/
def cash_delta (fill : FillEvent) : ℚ := -fill.side.sign * fill.notional - fill.commission

/-- The change in the position, signed by the side. -/
def signed_quantity (fill : FillEvent) : ℚ := fill.side.sign * fill.quantity

theorem abs_signed_quantity (fill : FillEvent) : |fill.signed_quantity| = |fill.quantity| := by
  rw [signed_quantity, abs_mul, fill.side.abs_sign, one_mul]

theorem cash_delta_eq (fill : FillEvent) :
    fill.cash_delta = -(fill.signed_quantity * fill.fill_price) - fill.commission := by
  unfold cash_delta notional signed_quantity
  ring

end FillEvent

/-- Portfolio state after a bar has been processed. -/
structure PositionEvent where
  timestamp : Timestamp
  symbol : String
  quantity : ℚ
  average_price : ℚ
  cash : ℚ
  market_value : ℚ
  unrealized_pnl : ℚ
  realized_pnl : ℚ
  deriving DecidableEq, Repr

def PositionEvent.equity (event : PositionEvent) : ℚ := event.cash + event.market_value

end Quantora
