import Mathlib.Tactic.FieldSimp
import Mathlib.Tactic.Ring
import Quantora.Framework.Keyed
import Quantora.Backtest.Config

/-! # Portfolio state

    `portfolio.py`: cash, positions, realized and unrealized PnL and closed
    trades. A portfolio holds one position per symbol and is updated by fills.

    `Portfolio.apply_fill` handles opening, adding, reducing and reversing
    separately because they account differently. Its position half is
    `PositionState.take_fill`; `apply_fill` adds the cash half and stores the
    position back. -/

namespace Quantora

/-- A residual position below this size counts as flat. -/
def RESIDUE : ℚ := 1 / 1000000000000

inductive TradeDirection where
  | long
  | short
  deriving DecidableEq, Repr

/-- One completed round trip, recorded when a position is reduced or closed. -/
structure Trade where
  symbol : String
  direction : TradeDirection
  quantity : ℚ
  entry_timestamp : Timestamp
  entry_price : ℚ
  exit_timestamp : Timestamp
  exit_price : ℚ
  gross_pnl : ℚ
  costs : ℚ
  pnl : ℚ
  return_pct : ℚ
  bars_held : ℕ
  entry_reason : String := ""
  exit_reason : String := ""
  deriving DecidableEq, Repr

def Trade.is_win (trade : Trade) : Bool := 0 < trade.pnl

/-! ## One symbol's position -/

structure PositionState where
  symbol : String
  quantity : ℚ := 0
  average_price : ℚ := 0
  realized_pnl : ℚ := 0
  entry_timestamp : Option Timestamp := none
  entry_bar_index : ℕ := 0
  entry_reason : String := ""
  /-- Entry-side costs still attached to the open position, released
      proportionally as the position is closed. -/
  open_costs : ℚ := 0
  deriving DecidableEq, Repr

namespace PositionState

def is_flat (position : PositionState) : Bool := position.quantity = 0

def sign (position : PositionState) : ℤ :=
  if position.quantity > 0 then 1 else if position.quantity < 0 then -1 else 0

def market_value (position : PositionState) (price : ℚ) : ℚ := position.quantity * price

def unrealized_pnl (position : PositionState) (price : ℚ) : ℚ :=
  (price - position.average_price) * position.quantity

/-- `_open`: take `signed_quantity` at the fill's price. -/
def open_ (position : PositionState) (fill : FillEvent) (signed_quantity cost : ℚ)
    (bar_index : ℕ) : PositionState :=
  { position with
    quantity := signed_quantity
    average_price := fill.fill_price
    entry_timestamp := some fill.timestamp
    entry_bar_index := bar_index
    entry_reason := fill.reason
    open_costs := cost }

/-- `_add`: the average price moves to the weighted mean. -/
def add (position : PositionState) (fill : FillEvent) (signed_quantity cost : ℚ) :
    PositionState :=
  let new_quantity := position.quantity + signed_quantity
  { position with
    average_price :=
      (position.average_price * position.quantity + fill.fill_price * signed_quantity)
        / new_quantity
    quantity := new_quantity
    open_costs := position.open_costs + cost }

/-- A quantity below `RESIDUE` is flat, and a flat position has no entry. -/
def clear_residue (position : PositionState) : PositionState :=
  if |position.quantity| < RESIDUE then
    { position with
      quantity := 0
      average_price := 0
      entry_timestamp := none
      entry_reason := ""
      open_costs := 0 }
  else position

/-- `_close`: realize PnL on `closing_quantity` and record the trade. -/
def close (position : PositionState) (fill : FillEvent) (closing_quantity exit_cost : ℚ)
    (bar_index : ℕ) : PositionState × Trade :=
  let direction_sign := position.sign
  let fraction := closing_quantity / |position.quantity|
  let entry_cost_share := position.open_costs * fraction
  let exit_cost_share :=
    if fill.quantity = 0 then 0 else exit_cost * (closing_quantity / fill.quantity)
  let gross := (fill.fill_price - position.average_price) * closing_quantity * direction_sign
  let costs := entry_cost_share + exit_cost_share
  let net := gross - costs
  let entry_notional := position.average_price * closing_quantity
  let trade : Trade :=
    { symbol := position.symbol
      direction := if direction_sign > 0 then .long else .short
      quantity := closing_quantity
      entry_timestamp := position.entry_timestamp.getD fill.timestamp
      entry_price := position.average_price
      exit_timestamp := fill.timestamp
      exit_price := fill.fill_price
      gross_pnl := gross
      costs := costs
      pnl := net
      return_pct := if entry_notional = 0 then 0 else net / entry_notional
      -- `max(0, bar_index - entry_bar_index)`: truncated subtraction.
      bars_held := bar_index - position.entry_bar_index
      entry_reason := position.entry_reason
      exit_reason := fill.reason }
  let reduced :=
    { position with
      realized_pnl := position.realized_pnl + net
      open_costs := position.open_costs - entry_cost_share
      quantity := position.quantity + direction_sign * -closing_quantity }
  (reduced.clear_residue, trade)

/-- What a fill does to its symbol's position, and the trade it closes. -/
def take_fill (position : PositionState) (fill : FillEvent) (bar_index : ℕ) :
    PositionState × List Trade :=
  let signed_quantity := fill.signed_quantity
  let cost := fill.total_cost
  if position.is_flat then
    (position.open_ fill signed_quantity cost bar_index, [])
  else if position.sign = fill.side.sign then
    (position.add fill signed_quantity cost, [])
  else
    let closing_quantity := min |signed_quantity| |position.quantity|
    let (closed, trade) := position.close fill closing_quantity cost bar_index
    let remaining := |signed_quantity| - closing_quantity
    if remaining > 0 then
      -- Reversal: the rest opens a new position on the other side, with the
      -- share of this fill's cost proportional to the reversing quantity.
      let opening_cost := cost * (remaining / |signed_quantity|)
      let reversal := { fill with quantity := remaining, commission := 0 }
      (closed.open_ reversal (fill.side.sign * remaining) opening_cost bar_index, [trade])
    else (closed, [trade])

end PositionState

/-! ## The portfolio -/

/-- Mark prices by symbol: a `dict[str, float]`. -/
abbrev Prices := String → Option ℚ

/-- `{symbol: price}`. -/
def Prices.single (symbol : String) (price : ℚ) : Prices :=
  fun s => if s = symbol then some price else none

/-- Cash plus positions, updated by fills and marked to market by bar. -/
structure Portfolio where
  initial_cash : ℚ
  cash : ℚ
  positions : Keyed PositionState.symbol
  trades : List Trade
  total_commission : ℚ
  total_slippage : ℚ
  /-- Absolute traded notional, used for turnover. -/
  total_traded_notional : ℚ
  deriving DecidableEq

namespace Portfolio

/-- A fresh portfolio. `__post_init__` requires positive cash, which
    `BacktestConfig` guarantees. -/
def new (initial_cash : ℚ) : Portfolio where
  initial_cash := initial_cash
  cash := initial_cash
  positions := ∅
  trades := []
  total_commission := 0
  total_slippage := 0
  total_traded_notional := 0

/-- The position held in `symbol`: a fresh one if there is no entry yet. -/
def position (p : Portfolio) (symbol : String) : PositionState :=
  (p.positions.get? symbol).getD { symbol := symbol }

/-- `positions.setdefault`: reading a position also creates its entry. -/
def touch (p : Portfolio) (symbol : String) : Portfolio :=
  { p with positions := p.positions.upsert (p.position symbol) }

def quantity (p : Portfolio) (symbol : String) : ℚ := (p.position symbol).quantity

def market_value (p : Portfolio) (prices : Prices) : ℚ :=
  p.positions.total fun q => ((prices q.symbol).map q.market_value).getD 0

def equity (p : Portfolio) (prices : Prices) : ℚ := p.cash + p.market_value prices

def unrealized_pnl (p : Portfolio) (prices : Prices) : ℚ :=
  p.positions.total fun q => ((prices q.symbol).map q.unrealized_pnl).getD 0

def realized_pnl (p : Portfolio) : ℚ := p.positions.total PositionState.realized_pnl

/-- Update cash, position and trade history from one fill. -/
def apply_fill (p : Portfolio) (fill : FillEvent) (bar_index : ℕ) : Portfolio :=
  let (position, closed) := (p.position fill.symbol).take_fill fill bar_index
  { p with
    cash := p.cash + fill.cash_delta
    total_commission := p.total_commission + fill.commission
    total_slippage := p.total_slippage + fill.slippage_cost
    total_traded_notional := p.total_traded_notional + |fill.notional|
    positions := p.positions.upsert position
    trades := p.trades ++ closed }

/-- Whether a buy is affordable with cash on hand. Sells always pass. -/
def can_afford (p : Portfolio) (side : OrderSide) (quantity fill_price commission : ℚ) : Bool :=
  match side with
  | .SELL => true
  | .BUY => p.cash ≥ quantity * fill_price + commission

/-- Largest whole quantity buyable with current cash, including the
    proportional commission. The quotient is exact here; the one that the machine
    truncates is in `Machine.max_affordable_quantity`. -/
def max_affordable_quantity (p : Portfolio) (fill_price commission_rate : ℚ) : ℚ :=
  if fill_price ≤ 0 then 0
  else
    let per_unit := fill_price * (1 + commission_rate)
    if per_unit > 0 then Python.truncate (p.cash / per_unit) else 0

end Portfolio

end Quantora
