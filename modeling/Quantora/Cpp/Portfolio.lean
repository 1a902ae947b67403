import Mathlib.Tactic.Ring
import Quantora.Python.Conversions

/-! # The C++ portfolio

    `services/execution-cpp`: `costs.hpp`, `events.hpp`, `portfolio.hpp` and
    `portfolio.cpp`. One run covers one instrument, so there is no symbol and
    one `PositionState`; bars are identified by their index. Doubles are exact
    rationals. -/

namespace Quantora.Cpp

/-! ## Costs and events -/

inductive OrderSide where
  | Buy
  | Sell
  deriving DecidableEq, Repr

/-- The enumerator values are the sign convention. -/
def side_sign : OrderSide → ℤ
  | .Buy => 1
  | .Sell => -1

def kBps : ℚ := 10000

structure CostModel where
  commission_bps : ℚ := 3
  commission_min : ℚ := 0
  slippage_bps : ℚ := 5
  spread_bps : ℚ := 2
  deriving DecidableEq, Repr

/-- The price actually paid or received. `side` is a sign by its type. -/
def CostModel.fill_price (m : CostModel) (reference_price : ℚ) (side : OrderSide) : ℚ :=
  let penalty := (m.slippage_bps + m.spread_bps / 2) / kBps
  reference_price * (1 + side_sign side * penalty)

def CostModel.commission (m : CostModel) (notional : ℚ) : ℚ :=
  let magnitude := if notional < 0 then -notional else notional
  let proportional := magnitude * m.commission_bps / kBps
  if m.commission_min > proportional then m.commission_min else proportional

structure MarketEvent where
  bar_index : ℕ
  open_ : ℚ
  high : ℚ
  low : ℚ
  close : ℚ
  volume : ℚ
  deriving DecidableEq, Repr

structure OrderEvent where
  decision_bar : ℕ
  bar_index : ℕ
  side : OrderSide
  quantity : ℚ
  reason : String
  deriving DecidableEq, Repr

structure FillEvent where
  bar_index : ℕ
  side : OrderSide
  quantity : ℚ
  reference_price : ℚ
  fill_price : ℚ
  commission : ℚ
  reason : String
  deriving DecidableEq, Repr

namespace FillEvent

def notional (fill : FillEvent) : ℚ := fill.quantity * fill.fill_price

def slippage_cost (fill : FillEvent) : ℚ :=
  let gap := fill.fill_price - fill.reference_price
  (if gap < 0 then -gap else gap) * fill.quantity

def total_cost (fill : FillEvent) : ℚ := fill.commission + fill.slippage_cost

def cash_delta (fill : FillEvent) : ℚ := -side_sign fill.side * fill.notional - fill.commission

end FillEvent

structure PositionEvent where
  bar_index : ℕ
  quantity : ℚ
  average_price : ℚ
  cash : ℚ
  market_value : ℚ
  unrealized_pnl : ℚ
  realized_pnl : ℚ
  deriving DecidableEq, Repr

/-! ## The position and the trades -/

structure Trade where
  direction : ℤ
  quantity : ℚ
  entry_bar : ℕ
  entry_price : ℚ
  exit_bar : ℕ
  exit_price : ℚ
  gross_pnl : ℚ
  costs : ℚ
  pnl : ℚ
  return_pct : ℚ
  bars_held : ℤ
  entry_reason : String
  exit_reason : String
  deriving DecidableEq, Repr

structure PositionState where
  quantity : ℚ := 0
  average_price : ℚ := 0
  realized_pnl : ℚ := 0
  entry_bar_index : ℕ := 0
  entry_reason : String := ""
  open_costs : ℚ := 0
  deriving DecidableEq, Repr

namespace PositionState

def is_flat (position : PositionState) : Bool := position.quantity = 0

def sign (position : PositionState) : ℤ :=
  if position.quantity > 0 then 1 else if position.quantity < 0 then -1 else 0

def market_value (position : PositionState) (price : ℚ) : ℚ := position.quantity * price

def unrealized_pnl (position : PositionState) (price : ℚ) : ℚ :=
  (price - position.average_price) * position.quantity

end PositionState

/-! ## The portfolio -/

structure Portfolio where
  initial_cash : ℚ
  cash : ℚ
  position : PositionState := {}
  trades : List Trade := []
  total_commission : ℚ := 0
  total_slippage : ℚ := 0
  total_traded_notional : ℚ := 0
  deriving DecidableEq, Repr

namespace Portfolio

/-- The magnitude, as the code writes it. -/
def magnitude (x : ℚ) : ℚ := if x < 0 then -x else x

def open_ (p : Portfolio) (fill : FillEvent) (signed_quantity cost : ℚ) (bar_index : ℕ) :
    Portfolio :=
  { p with
    position :=
      { p.position with
        quantity := signed_quantity
        average_price := fill.fill_price
        entry_bar_index := bar_index
        entry_reason := fill.reason
        open_costs := cost } }

def add (p : Portfolio) (fill : FillEvent) (signed_quantity cost : ℚ) : Portfolio :=
  let new_quantity := p.position.quantity + signed_quantity
  { p with
    position :=
      { p.position with
        average_price :=
          (p.position.average_price * p.position.quantity + fill.fill_price * signed_quantity)
            / new_quantity
        quantity := new_quantity
        open_costs := p.position.open_costs + cost } }

/-- The end of `close`: a residue is cleared. -/
def clear_residue (position : PositionState) : PositionState :=
  if magnitude position.quantity < 1 / 1000000000000 then
    { position with quantity := 0, average_price := 0, entry_reason := "", open_costs := 0 }
  else position

def close (p : Portfolio) (fill : FillEvent) (closing_quantity exit_cost : ℚ) (bar_index : ℕ) :
    Portfolio :=
  let direction_sign := p.position.sign
  let held := magnitude p.position.quantity
  let fraction := closing_quantity / held
  let entry_cost_share := p.position.open_costs * fraction
  let exit_cost_share :=
    if fill.quantity ≠ 0 then exit_cost * (closing_quantity / fill.quantity) else 0
  let gross := (fill.fill_price - p.position.average_price) * closing_quantity * direction_sign
  let costs := entry_cost_share + exit_cost_share
  let net := gross - costs
  let entry_notional := p.position.average_price * closing_quantity
  let span : ℤ := bar_index - p.position.entry_bar_index
  let trade : Trade :=
    { direction := direction_sign
      quantity := closing_quantity
      entry_bar := p.position.entry_bar_index
      entry_price := p.position.average_price
      exit_bar := fill.bar_index
      exit_price := fill.fill_price
      gross_pnl := gross
      costs := costs
      pnl := net
      return_pct := if entry_notional ≠ 0 then net / entry_notional else 0
      bars_held := if span > 0 then span else 0
      entry_reason := p.position.entry_reason
      exit_reason := fill.reason }
  { p with
    trades := p.trades ++ [trade]
    position := clear_residue
      { p.position with
        realized_pnl := p.position.realized_pnl + net
        open_costs := p.position.open_costs - entry_cost_share
        quantity := p.position.quantity + direction_sign * -closing_quantity } }

/-- The head of `apply_fill`: cash and the totals. -/
def pay (p : Portfolio) (fill : FillEvent) : Portfolio :=
  { p with
    cash := p.cash + fill.cash_delta
    total_commission := p.total_commission + fill.commission
    total_slippage := p.total_slippage + fill.slippage_cost
    total_traded_notional := p.total_traded_notional + magnitude fill.notional }

/-- The rest of `apply_fill`: the position and the trades, case by case. -/
def take_fill (p : Portfolio) (fill : FillEvent) (bar_index : ℕ) : Portfolio :=
  let signed_quantity := side_sign fill.side * fill.quantity
  let cost := fill.total_cost
  if p.position.is_flat then p.open_ fill signed_quantity cost bar_index
  else if p.position.sign = side_sign fill.side then p.add fill signed_quantity cost
  else
    let incoming := magnitude signed_quantity
    let held := magnitude p.position.quantity
    let closing_quantity := if incoming < held then incoming else held
    let closed := p.close fill closing_quantity cost bar_index
    let remaining := incoming - closing_quantity
    if remaining > 0 then
      let opening_cost := cost * (remaining / incoming)
      let reversal := { fill with quantity := remaining, commission := 0 }
      closed.open_ reversal (side_sign fill.side * remaining) opening_cost bar_index
    else closed

def apply_fill (p : Portfolio) (fill : FillEvent) (bar_index : ℕ) : Portfolio :=
  (p.pay fill).take_fill fill bar_index

def can_afford (p : Portfolio) (side : OrderSide) (quantity fill_price commission : ℚ) : Bool :=
  match side with
  | .Sell => true
  | .Buy => p.cash ≥ quantity * fill_price + commission

/-- `std::trunc` is truncation toward zero. -/
def max_affordable_quantity (p : Portfolio) (fill_price commission_rate : ℚ) : ℚ :=
  if fill_price ≤ 0 then 0
  else
    let per_unit := fill_price * (1 + commission_rate)
    if ¬ per_unit > 0 then 0 else Python.truncate (p.cash / per_unit)

def equity (p : Portfolio) (price : ℚ) : ℚ := p.cash + p.position.market_value price

end Portfolio

end Quantora.Cpp
