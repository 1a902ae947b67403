import Quantora.Backtest.Runner
import Quantora.Strategy.Units

/-! # The simulation in another currency

    All amounts multiplied by a rate: prices, starting cash and the minimum
    commission. The engine trades the same quantities at the same bars, and every
    amount of its output is multiplied.

    * `convert` — amounts in another currency, for each type of the engine.
    * One lemma for each function of the portfolio and of the execution.
    * `LoopState.Converted` — the two runs side by side, with a step lemma and a
      run lemma. Warnings quote amounts, so only their number is compared. -/

namespace Quantora

open Python (PyError)

/-! ## Amounts -/

def MarketEvent.convert (c : Rate) (market : MarketEvent) : MarketEvent :=
  { market with
    open_ := c * market.open_
    high := c * market.high
    low := c * market.low
    close := c * market.close }

/-- A minimum commission is an amount, the other parameters are rates. -/
def CostModel.convert (c : Rate) (m : CostModel) : CostModel :=
  { m with
    commission_min := c * m.commission_min
    commission_min_nonneg := mul_nonneg c.2.le m.commission_min_nonneg }

def BacktestConfig.convert (c : Rate) (config : BacktestConfig) : BacktestConfig :=
  { config with
    initial_cash := c * config.initial_cash
    cost_model := config.cost_model.convert c
    initial_cash_pos := mul_pos c.2 config.initial_cash_pos }

def FillEvent.convert (c : Rate) (fill : FillEvent) : FillEvent :=
  { fill with
    reference_price := c * fill.reference_price
    fill_price := c * fill.fill_price
    commission := c * fill.commission }

/-- The return is a ratio. -/
def Trade.convert (c : Rate) (trade : Trade) : Trade :=
  { trade with
    entry_price := c * trade.entry_price
    exit_price := c * trade.exit_price
    gross_pnl := c * trade.gross_pnl
    costs := c * trade.costs
    pnl := c * trade.pnl }

def PositionEvent.convert (c : Rate) (event : PositionEvent) : PositionEvent :=
  { event with
    average_price := c * event.average_price
    cash := c * event.cash
    market_value := c * event.market_value
    unrealized_pnl := c * event.unrealized_pnl
    realized_pnl := c * event.realized_pnl }

def PositionState.convert (c : Rate) (position : PositionState) : PositionState :=
  { position with
    average_price := c * position.average_price
    realized_pnl := c * position.realized_pnl
    open_costs := c * position.open_costs }

def Portfolio.convert (c : Rate) (p : Portfolio) : Portfolio where
  initial_cash := c * p.initial_cash
  cash := c * p.cash
  positions := p.positions.map (PositionState.convert c) fun _ => rfl
  trades := p.trades.map (Trade.convert c)
  total_commission := c * p.total_commission
  total_slippage := c * p.total_slippage
  total_traded_notional := c * p.total_traded_notional

/-! ## Costs and fills -/

section Costs

variable (c : Rate) (m : CostModel)

theorem CostModel.fill_price_convert (reference_price : ℚ) (side : OrderSide) :
    (m.convert c).fill_price (c * reference_price) side = c * m.fill_price reference_price side :=
  mul_assoc ..

theorem CostModel.commission_convert (notional : ℚ) :
    (m.convert c).commission (c * notional) = c * m.commission notional := by
  have hrate : |c.1 * notional| * m.commission_bps / BPS
      = c.1 * (|notional| * m.commission_bps / BPS) := by
    rw [abs_mul, abs_of_pos c.2]
    ring
  show max (c.1 * m.commission_min) (|c.1 * notional| * m.commission_bps / BPS) = _
  rw [hrate, ← mul_max_of_nonneg _ _ c.2.le]
  rfl

variable (fill : FillEvent)

@[simp] theorem FillEvent.symbol_convert : (fill.convert c).symbol = fill.symbol := rfl

@[simp] theorem FillEvent.signed_quantity_convert :
    (fill.convert c).signed_quantity = fill.signed_quantity := rfl

theorem FillEvent.notional_convert : (fill.convert c).notional = c * fill.notional :=
  mul_left_comm ..

theorem FillEvent.slippage_cost_convert :
    (fill.convert c).slippage_cost = c * fill.slippage_cost := by
  show |c.1 * fill.fill_price - c.1 * fill.reference_price| * fill.quantity = _
  rw [← mul_sub, abs_mul, abs_of_pos c.2, mul_assoc]
  rfl

theorem FillEvent.total_cost_convert : (fill.convert c).total_cost = c * fill.total_cost := by
  rw [total_cost, total_cost, slippage_cost_convert, mul_add]
  rfl

theorem FillEvent.cash_delta_convert : (fill.convert c).cash_delta = c * fill.cash_delta := by
  rw [cash_delta, cash_delta, notional_convert]
  show -(fill.side.sign : ℚ) * (c * fill.notional) - c * fill.commission = _
  ring

theorem fill_of_convert (order : OrderEvent) (market : MarketEvent) (config : BacktestConfig)
    (quantity : ℚ) :
    fill_of order (market.convert c) (config.convert c) quantity
      = (fill_of order market config quantity).convert c := by
  have hreference : (config.convert c).execution_model.price_of (market.convert c)
      = c * config.execution_model.price_of market := by
    show config.execution_model.price_of (market.convert c) = _
    cases config.execution_model <;> rfl
  have hprice := config.cost_model.fill_price_convert c
    (config.execution_model.price_of market) order.side
  have hcommission := config.cost_model.commission_convert c
    (quantity * config.cost_model.fill_price (config.execution_model.price_of market) order.side)
  rw [mul_left_comm] at hcommission
  simp only [fill_of, hreference, FillEvent.convert]
  show FillEvent.mk _ _ _ _ _ ((config.cost_model.convert c).fill_price _ _)
    ((config.cost_model.convert c).commission (quantity * (config.cost_model.convert c).fill_price
      _ _)) _ = _
  rw [hprice, hcommission]
  rfl

end Costs

/-! ## Positions -/

namespace PositionState

variable (c : Rate) (position : PositionState) (fill : FillEvent)

theorem market_value_convert (price : ℚ) :
    (position.convert c).market_value (c * price) = c * position.market_value price :=
  mul_left_comm ..

theorem unrealized_pnl_convert (price : ℚ) :
    (position.convert c).unrealized_pnl (c * price) = c * position.unrealized_pnl price := by
  show (c.1 * price - c.1 * position.average_price) * position.quantity = _
  rw [← mul_sub, mul_assoc]
  rfl

theorem add_convert (signed_quantity cost : ℚ) :
    (position.convert c).add (fill.convert c) signed_quantity (c * cost)
      = (position.add fill signed_quantity cost).convert c := by
  have hprice : (c.1 * position.average_price * position.quantity
        + c.1 * fill.fill_price * signed_quantity) / (position.quantity + signed_quantity)
      = c.1 * ((position.average_price * position.quantity + fill.fill_price * signed_quantity)
          / (position.quantity + signed_quantity)) := by
    rw [← mul_div_assoc]
    ring
  simp only [add, convert, FillEvent.convert, hprice, mul_add]

theorem clear_residue_convert :
    (position.convert c).clear_residue = position.clear_residue.convert c := by
  have hquantity : (position.convert c).quantity = position.quantity := rfl
  rw [clear_residue, clear_residue, hquantity]
  split_ifs
  · simp [convert]
  · rfl

/-- The trade of a close: profits and costs are amounts, the return is their
    ratio to an amount. -/
theorem close_convert (closing_quantity exit_cost : ℚ) (bar_index : ℕ) :
    (position.convert c).close (fill.convert c) closing_quantity (c * exit_cost) bar_index
      = ((position.close fill closing_quantity exit_cost bar_index).1.convert c,
          (position.close fill closing_quantity exit_cost bar_index).2.convert c) := by
  have hsign : (position.convert c).sign = position.sign := rfl
  have hentry : (position.convert c).open_costs
        * (closing_quantity / |(position.convert c).quantity|)
      = c.1 * (position.open_costs * (closing_quantity / |position.quantity|)) := mul_assoc ..
  have hexit : (if (fill.convert c).quantity = 0 then 0
        else c.1 * exit_cost * (closing_quantity / (fill.convert c).quantity))
      = c.1 * (if fill.quantity = 0 then 0
        else exit_cost * (closing_quantity / fill.quantity)) := by
    show (if fill.quantity = 0 then 0 else _) = _
    split_ifs
    · exact (mul_zero _).symm
    · exact mul_assoc ..
  have hgross : ((fill.convert c).fill_price - (position.convert c).average_price)
        * closing_quantity * position.sign
      = c.1 * ((fill.fill_price - position.average_price) * closing_quantity * position.sign) := by
    show (c.1 * fill.fill_price - c.1 * position.average_price) * closing_quantity * _ = _
    ring
  have hreturn : ∀ net, (if (position.convert c).average_price * closing_quantity = 0 then 0
        else c.1 * net / ((position.convert c).average_price * closing_quantity))
      = if position.average_price * closing_quantity = 0 then 0
        else net / (position.average_price * closing_quantity) := by
    intro net
    have hnotional : (position.convert c).average_price * closing_quantity
        = c.1 * (position.average_price * closing_quantity) := mul_assoc ..
    rw [hnotional, mul_div_mul_left _ _ c.2.ne']
    simp only [mul_eq_zero, c.2.ne', false_or]
  simp only [close, hsign, hentry, hexit, hgross, ← mul_add, ← mul_sub, hreturn]
  refine Prod.ext ?_ rfl
  simp only [← clear_residue_convert]
  simp only [convert, mul_add, mul_sub]

/-- What is left of a reversing fill opens with its share of the cost. -/
theorem open_reversal_convert (remaining : ℚ) (fraction cost : ℚ) (bar_index : ℕ) :
    (position.convert c).open_ { fill.convert c with quantity := remaining, commission := 0 }
        (fill.side.sign * remaining) (c * cost * fraction) bar_index
      = (position.open_ { fill with quantity := remaining, commission := 0 }
          (fill.side.sign * remaining) (cost * fraction) bar_index).convert c := by
  rw [mul_assoc]
  rfl

theorem take_fill_convert (bar_index : ℕ) :
    (position.convert c).take_fill (fill.convert c) bar_index
      = ((position.take_fill fill bar_index).1.convert c,
          (position.take_fill fill bar_index).2.map (Trade.convert c)) := by
  have hflat : (position.convert c).is_flat = position.is_flat := rfl
  have hsign : (position.convert c).sign = position.sign := rfl
  have hside : (fill.convert c).side = fill.side := rfl
  have hquantity : (position.convert c).quantity = position.quantity := rfl
  simp only [take_fill, hflat, hsign, hside, hquantity, FillEvent.signed_quantity_convert,
    FillEvent.total_cost_convert, add_convert, close_convert]
  split_ifs with hopen hsame hreverse
  · rfl
  · rfl
  · exact Prod.ext (open_reversal_convert c _ fill _ _ _ bar_index) rfl
  · rfl

end PositionState

/-! ## The portfolio -/

namespace Portfolio

variable (c : Rate) (p : Portfolio)

theorem new_convert (initial_cash : ℚ) : new (c * initial_cash) = (new initial_cash).convert c := by
  have hempty : (∅ : Keyed PositionState.symbol).map (PositionState.convert c) (fun _ => rfl) = ∅ :=
    rfl
  simp [new, convert, hempty]

theorem position_convert (symbol : String) :
    (p.convert c).position symbol = (p.position symbol).convert c := by
  have hget : (p.convert c).positions.get? symbol
      = (p.positions.get? symbol).map (PositionState.convert c) :=
    Keyed.get?_map (PositionState.convert c) (fun _ => rfl) _ _
  rw [position, position, hget]
  cases p.positions.get? symbol with
  | none => simp [PositionState.convert]
  | some state => rfl

theorem quantity_convert (symbol : String) :
    (p.convert c).quantity symbol = p.quantity symbol := by
  rw [quantity, position_convert]
  rfl

theorem touch_convert (symbol : String) :
    (p.convert c).touch symbol = (p.touch symbol).convert c := by
  have hpositions : (p.convert c).positions.upsert ((p.position symbol).convert c)
      = (p.positions.upsert (p.position symbol)).map (PositionState.convert c) fun _ => rfl :=
    Keyed.upsert_map _ _ _ _
  rw [touch, touch, position_convert, hpositions]
  rfl

theorem equity_convert (symbol : String) (price : ℚ) :
    (p.convert c).equity (Prices.single symbol (c * price))
      = c * p.equity (Prices.single symbol price) := by
  have hvalue : (p.convert c).market_value (Prices.single symbol (c * price))
      = c * p.market_value (Prices.single symbol price) := by
    rw [market_value, market_value, Keyed.total, Keyed.total, ← List.sum_map_mul_left]
    show ((p.positions.items.map (PositionState.convert c)).map _).sum = _
    rw [List.map_map]
    refine congrArg List.sum (List.map_congr_left fun state _ => ?_)
    show ((Prices.single symbol (c * price) state.symbol).map (state.convert c).market_value).getD 0
      = _
    unfold Prices.single
    split_ifs
    · exact state.market_value_convert c price
    · exact (mul_zero _).symm
  rw [equity, equity, hvalue, mul_add]
  rfl

theorem apply_fill_convert (fill : FillEvent) (bar_index : ℕ) :
    (p.convert c).apply_fill (fill.convert c) bar_index
      = (p.apply_fill fill bar_index).convert c := by
  have hpositions : ∀ state : PositionState, (p.convert c).positions.upsert (state.convert c)
      = (p.positions.upsert state).map (PositionState.convert c) fun _ => rfl :=
    fun state => Keyed.upsert_map _ _ _ _
  have hnotional : |(fill.convert c).notional| = c.1 * |fill.notional| := by
    rw [FillEvent.notional_convert, abs_mul, abs_of_pos c.2]
  simp only [apply_fill, FillEvent.symbol_convert, position_convert,
    PositionState.take_fill_convert, hpositions, hnotional, FillEvent.cash_delta_convert,
    FillEvent.slippage_cost_convert]
  simp only [convert, FillEvent.convert, List.map_append, mul_add]

theorem can_afford_convert (side : OrderSide) (quantity fill_price commission : ℚ) :
    (p.convert c).can_afford side quantity (c * fill_price) (c * commission)
      = p.can_afford side quantity fill_price commission := by
  cases side with
  | SELL => rfl
  | BUY =>
    have hcost : quantity * (c.1 * fill_price) + c.1 * commission
        = c.1 * (quantity * fill_price + commission) := by ring
    refine decide_eq_decide.mpr ?_
    show quantity * (c.1 * fill_price) + c.1 * commission ≤ c.1 * p.cash ↔ _
    rw [hcost]
    exact mul_le_mul_iff_of_pos_left c.2

theorem max_affordable_quantity_convert (fill_price commission_rate : ℚ) :
    (p.convert c).max_affordable_quantity (c * fill_price) commission_rate
      = p.max_affordable_quantity fill_price commission_rate := by
  have hunit : 0 < c.1 * (fill_price * (1 + commission_rate)) ↔
      0 < fill_price * (1 + commission_rate) := mul_pos_iff_of_pos_left c.2
  have hquotient : c.1 * p.cash / (c.1 * (fill_price * (1 + commission_rate)))
      = p.cash / (fill_price * (1 + commission_rate)) := mul_div_mul_left _ _ c.2.ne'
  simp only [max_affordable_quantity, c.mul_nonpos_iff, mul_assoc, gt_iff_lt, hunit]
  simp only [convert, hquotient]

end Portfolio

/-! ## The execution loop -/

/-- The order of a bar fills alike, in the other currency. -/
theorem fill_order_convert (c : Rate) (order : OrderEvent) (market : MarketEvent) (p : Portfolio)
    (config : BacktestConfig) :
    (fill_order order (market.convert c) (p.convert c) (config.convert c)).1
        = (fill_order order market p config).1.map (FillEvent.convert c) ∧
      (fill_order order (market.convert c) (p.convert c) (config.convert c)).2.length
        = (fill_order order market p config).2.length := by
  have hfill := fill_of_convert c order market config
  cases hside : order.side with
  | SELL => simp [fill_order, hside, hfill]
  | BUY =>
    have hprice : ((fill_of order market config order.quantity).convert c).fill_price
        = c * (fill_of order market config order.quantity).fill_price := rfl
    have hcommission : ((fill_of order market config order.quantity).convert c).commission
        = c * (fill_of order market config order.quantity).commission := rfl
    have hrate : (config.convert c).cost_model.commission_bps = config.cost_model.commission_bps :=
      rfl
    simp only [fill_order, hside, hfill, hprice, hcommission, hrate,
      Portfolio.can_afford_convert, Portfolio.max_affordable_quantity_convert]
    split_ifs
    · exact ⟨rfl, rfl⟩
    · -- The texts differ, since they quote the price.
      exact ⟨rfl, by simp only [List.length_cons, List.length_nil]⟩
    · exact ⟨rfl, rfl⟩

namespace LoopState

variable {σ : Type}

/-- The two runs, bar by bar. -/
structure Converted (c : Rate) (st st' : LoopState σ) : Prop where
  portfolio : st'.portfolio = st.portfolio.convert c
  closure : st'.closure = st.closure
  pending : st'.pending = st.pending
  equity_values : st'.equity_values = st.equity_values.map (c.1 * ·)
  exposure_values : st'.exposure_values = st.exposure_values
  positions : st'.positions = st.positions.map (PositionEvent.convert c)
  orders : st'.orders = st.orders
  fills : st'.fills = st.fills.map (FillEvent.convert c)
  warnings : st'.warnings.length = st.warnings.length

namespace Converted

variable {c : Rate} {st st' : LoopState σ} {symbol : String} {config : BacktestConfig}

theorem book (h : Converted c st st') (i : ℕ) (fill : Option FillEvent) :
    Converted c (st.book i fill) (st'.book i (fill.map (FillEvent.convert c))) := by
  cases fill with
  | none => exact h
  | some fill =>
    exact
      { h with
        portfolio := by
          show st'.portfolio.apply_fill (fill.convert c) i = _
          rw [h.portfolio, Portfolio.apply_fill_convert]
          rfl
        fills := by
          show st'.fills ++ [fill.convert c] = (st.fills ++ [fill]).map _
          rw [h.fills, List.map_append]
          rfl }

theorem mark (h : Converted c st st') (symbol : String) (market : MarketEvent) :
    Converted c (st.mark symbol market) (st'.mark symbol (market.convert c)) := by
  have hclose : (market.convert c).close = c * market.close := rfl
  have hequity : st'.portfolio.equity (Prices.single symbol (market.convert c).close)
      = c * st.portfolio.equity (Prices.single symbol market.close) := by
    rw [h.portfolio, hclose, Portfolio.equity_convert]
  have hposition : st'.portfolio.position symbol = (st.portfolio.position symbol).convert c := by
    rw [h.portfolio, Portfolio.position_convert]
  have hvalue : ((st.portfolio.position symbol).convert c).market_value (market.convert c).close
      = c * (st.portfolio.position symbol).market_value market.close :=
    PositionState.market_value_convert c _ _
  have hpnl : ((st.portfolio.position symbol).convert c).unrealized_pnl (market.convert c).close
      = c * (st.portfolio.position symbol).unrealized_pnl market.close :=
    PositionState.unrealized_pnl_convert c _ _
  exact
    { h with
      portfolio := by
        show st'.portfolio.touch symbol = (st.portfolio.touch symbol).convert c
        rw [h.portfolio, Portfolio.touch_convert]
      equity_values := by
        show st'.equity_values ++ [_] = (st.equity_values ++ [_]).map _
        rw [h.equity_values, hequity, List.map_append]
        rfl
      exposure_values := by
        show st'.exposure_values ++ [_] = st.exposure_values ++ [_]
        rw [h.exposure_values, hequity, hposition, hvalue, mul_div_mul_left _ _ c.2.ne']
        simp only [mul_eq_zero, c.2.ne', false_or]
      positions := by
        show st'.positions ++ [_] = (st.positions ++ [_]).map _
        rw [h.positions, List.map_append, hposition, hvalue, hpnl, h.portfolio]
        rfl }

theorem place (h : Converted c st st') (market : MarketEvent) (execution_timestamp : Timestamp)
    (decision : TargetDecision × σ) :
    Converted c (st.place symbol market execution_timestamp decision)
      (st'.place symbol (market.convert c) execution_timestamp decision) := by
  have hquantity : st'.portfolio.quantity symbol = st.portfolio.quantity symbol := by
    rw [h.portfolio, Portfolio.quantity_convert]
  have horder : pending_order (market.convert c).timestamp execution_timestamp symbol
        (decision.1.1 - st'.portfolio.quantity symbol) decision.1.2
      = pending_order market.timestamp execution_timestamp symbol
        (decision.1.1 - st.portfolio.quantity symbol) decision.1.2 := by
    rw [hquantity]
    rfl
  exact
    { h with
      closure := rfl
      pending := horder
      orders := by
        show st'.orders ++ _ = st.orders ++ _
        rw [h.orders, horder] }

theorem execute_pending (h : Converted c st st') (i : ℕ) (market : MarketEvent) :
    Outcome.Related (Converted c) (execute_pending config i market st)
      (Quantora.execute_pending (config.convert c) i (market.convert c) st') := by
  unfold Quantora.execute_pending
  rw [h.pending]
  cases st.pending with
  | none => exact .ok h
  | some order =>
    have htime : (market.convert c).timestamp = market.timestamp := rfl
    obtain ⟨hfill, hwarnings⟩ := fill_order_convert c order market st.portfolio config
    simp only [execute, htime]
    split_ifs
    · exact .error _
    · refine .ok ?_
      rw [h.portfolio, hfill]
      exact
        { h.book i (fill_order order market st.portfolio config).1 with
          pending := rfl
          warnings := by
            simp only [List.length_append, h.warnings]
            rw [hwarnings] }

end Converted

end LoopState

/-- Two decision functions that ask for the same positions. -/
def DecisionFn.Converted {σ : Type} (c : Rate) (decide decide' : DecisionFn σ) : Prop :=
  ∀ portfolio closure i market equity position,
    decide' (portfolio.convert c) closure i (market.convert c) (c * equity) (position.convert c)
      = decide portfolio closure i market equity position

section Loop

variable {σ : Type} {c : Rate} {symbol : String} {config : BacktestConfig}
  {decide decide' : DecisionFn σ}

/-- **Step lemma**: one bar in either currency. -/
theorem run_bar_convert (hdecide : decide.Converted c decide') (i : ℕ)
    (step : Bar × Option Timestamp) {st st' : LoopState σ} (h : st.Converted c st') :
    Outcome.Related (LoopState.Converted c) (run_bar symbol config decide i step st)
      (run_bar symbol (config.convert c) decide' i (step.1.convert c, step.2) st') := by
  have hmarket : (step.1.convert c).market symbol = (step.1.market symbol).convert c := rfl
  simp only [run_bar, hmarket]
  refine (h.execute_pending i (step.1.market symbol)).bind fun executed executed' hexecuted => ?_
  have hmarked := hexecuted.mark symbol (step.1.market symbol)
  cases step.2 with
  | none => exact .ok hmarked
  | some execution_timestamp =>
    have hequity : executed'.equity symbol ((step.1.market symbol).convert c)
        = c * executed.equity symbol (step.1.market symbol) := by
      rw [LoopState.equity, hexecuted.portfolio]
      exact Portfolio.equity_convert c _ _ _
    simp only [hmarked.portfolio, hmarked.closure, hequity, Portfolio.position_convert]
    rw [hdecide]
    cases decide (executed.mark symbol (step.1.market symbol)).portfolio
        (executed.mark symbol (step.1.market symbol)).closure i (step.1.market symbol)
        (executed.equity symbol (step.1.market symbol))
        ((executed.mark symbol (step.1.market symbol)).portfolio.position symbol) with
    | error e => exact .error e
    | ok decision => exact .ok (hmarked.place _ _ decision)

/-- **Run lemma**: all the bars. -/
theorem run_bars_convert (hdecide : decide.Converted c decide') (frame : List Bar)
    {st st' : LoopState σ} (h : st.Converted c st') :
    Outcome.Related (LoopState.Converted c) (run_bars symbol config decide frame st)
      (run_bars symbol (config.convert c) decide' (frame.map (Bar.convert c)) st') := by
  have hitems : Loop.withNext Bar.timestamp (frame.map (Bar.convert c))
      = (Loop.withNext Bar.timestamp frame).map (fun step => (step.1.convert c, step.2)) :=
    Loop.withNext_map Bar.timestamp (Bar.convert c) frame
  rw [run_bars, run_bars, hitems]
  exact Loop.runE_related _ _ (fun i step s t hst => run_bar_convert hdecide i step hst) _ 0 h

theorem liquidation_fill_convert (last : Bar) (position : PositionState) :
    liquidation_fill symbol (last.convert c) (config.convert c) (position.convert c)
      = (liquidation_fill symbol last config position).convert c := by
  have hprice : ∀ side, (config.convert c).cost_model.fill_price (last.convert c).close side
      = c * config.cost_model.fill_price last.close side :=
    fun side => config.cost_model.fill_price_convert c last.close side
  have hcommission : ∀ quantity price : ℚ,
      (config.convert c).cost_model.commission (quantity * (c * price))
        = c * config.cost_model.commission (quantity * price) := by
    intro quantity price
    rw [mul_left_comm]
    exact config.cost_model.commission_convert c _
  simp only [liquidation_fill, hprice]
  rw [hcommission]
  rfl

theorem liquidate_convert (last : Bar) (bar_count : ℕ) {st st' : LoopState σ}
    (h : st.Converted c st') :
    (liquidate symbol last config bar_count st).Converted c
      (liquidate symbol (last.convert c) (config.convert c) bar_count st') := by
  have hposition : st'.portfolio.position symbol = (st.portfolio.position symbol).convert c := by
    rw [h.portfolio, Portfolio.position_convert]
  -- The state with the position closed, if there is one.
  have hclosed : LoopState.Converted c
      (if (st.portfolio.position symbol).is_flat then st
        else st.book (bar_count - 1)
          (some (liquidation_fill symbol last config (st.portfolio.position symbol))))
      (if (st'.portfolio.position symbol).is_flat then st'
        else st'.book (bar_count - 1)
          (some (liquidation_fill symbol (last.convert c) (config.convert c)
            (st'.portfolio.position symbol)))) := by
    have hflat : ((st.portfolio.position symbol).convert c).is_flat
        = (st.portfolio.position symbol).is_flat := rfl
    rw [hposition, hflat, liquidation_fill_convert]
    split_ifs
    · exact h
    · exact h.book (bar_count - 1) (some _)
  exact
    { hclosed with
      equity_values := by
        show List.dropLast _ ++ [_] = (List.dropLast _ ++ [_]).map _
        rw [hclosed.equity_values, hclosed.portfolio, List.map_append, List.map_dropLast]
        refine congrArg (_ ++ [·]) ?_
        exact Portfolio.equity_convert c _ _ _
      exposure_values := by
        show List.dropLast _ ++ [0] = List.dropLast _ ++ [0]
        rw [hclosed.exposure_values] }

theorem run_execution_convert (hdecide : decide.Converted c decide') (frame : List Bar)
    (closure : σ) :
    Outcome.Related (LoopState.Converted c) (run_execution symbol frame config decide closure)
      (run_execution symbol (frame.map (Bar.convert c)) (config.convert c) decide' closure) := by
  have hbegin : LoopState.Converted c
      ({ portfolio := Portfolio.new config.initial_cash, closure := closure } : LoopState σ)
      { portfolio := Portfolio.new (config.convert c).initial_cash, closure := closure } :=
    { portfolio := Portfolio.new_convert c config.initial_cash
      closure := rfl
      pending := rfl
      equity_values := rfl
      exposure_values := rfl
      positions := rfl
      orders := rfl
      fills := rfl
      warnings := rfl }
  refine (run_bars_convert hdecide frame hbegin).bind fun st st' hst => ?_
  have hliquidate : (config.convert c).liquidate_at_end = config.liquidate_at_end := rfl
  simp only [close_out, hliquidate, List.getLast?_map, List.length_map]
  split_ifs
  · cases frame.getLast? with
    | none => exact .error _
    | some last => exact .ok (liquidate_convert last frame.length hst)
  · exact .ok hst

end Loop

/-! ## Decisions and outputs -/

/-- The default sizing rule asks for as many units in any currency. -/
theorem base_position_size_convert {c : Rate} {default_allocation : ℚ}
    {context context' : SizingContext} (hdirection : context'.direction = context.direction)
    (hstrength : context'.strength = context.strength)
    (hprice : context'.price = c * context.price) (hequity : context'.equity = c * context.equity) :
    base_position_size default_allocation context'
      = base_position_size default_allocation context := by
  have hunits : c.1 * context.equity * default_allocation * min (max context.strength 0) 1
        / (c.1 * context.price)
      = context.equity * default_allocation * min (max context.strength 0) 1 / context.price := by
    rw [mul_assoc, mul_assoc, mul_div_mul_left _ _ c.2.ne', ← mul_assoc]
  simp only [base_position_size, hdirection, hstrength, hprice, hequity, c.mul_nonpos_iff, hunits]

/-- A return is a ratio of amounts. -/
theorem unrealized_return_convert (c : Rate) (position : PositionState) (price : ℚ) :
    unrealized_return (position.convert c) (c * price) = unrealized_return position price := by
  have hnotional : |(position.convert c).average_price * position.quantity|
      = c.1 * |position.average_price * position.quantity| := by
    show |c.1 * position.average_price * position.quantity| = _
    rw [mul_assoc, abs_mul, abs_of_pos c.2]
  have hquantity : (position.convert c).quantity = position.quantity := rfl
  simp only [unrealized_return, hnotional, PositionState.unrealized_pnl_convert, hquantity,
    mul_div_mul_left _ _ c.2.ne', mul_eq_zero, c.2.ne', false_or]

section Simulate

variable {c : Rate} {strategy : Strategy} {config : BacktestConfig} {symbol : String}
  {signals signals' : SignalSet}

/-- A strategy that never exits on its own looks at nothing. -/
theorem exit_reason_convert (signals signals' : SignalSet)
    (hhold : strategy.exit_signal = fun _ => .hold) (portfolio : Portfolio) (i : ℕ)
    (market : MarketEvent) (position : PositionState) :
    exit_reason strategy symbol signals' (portfolio.convert c) i (market.convert c)
        (position.convert c)
      = exit_reason strategy symbol signals portfolio i market position := by
  have hflat : (position.convert c).is_flat = position.is_flat := rfl
  have hclose : (market.convert c).close = c * market.close := rfl
  simp only [exit_reason, hflat, hhold, hclose, unrealized_return_convert]

/-- The decisions of a strategy with the default sizing rule, from the same rows. -/
theorem simulate_decide_convert (hsized : strategy.BaseSized)
    (hhold : strategy.exit_signal = fun _ => .hold) (hframe : signals'.frame = signals.frame) :
    (simulate_decide strategy config symbol signals).Converted c
      (simulate_decide strategy (config.convert c) symbol signals') := by
  intro portfolio suppressed i market equity position
  have htarget : ∀ row, target_direction (config.convert c) suppressed row
      = target_direction config suppressed row := fun _ => rfl
  have hkeeps : ∀ direction, keeps_position strategy direction (position.convert c)
      = keeps_position strategy direction position := fun _ => rfl
  have hquantity : (position.convert c).quantity = position.quantity := rfl
  have hsize : ∀ row direction,
      strategy.position_size (sizing_context symbol signals' (portfolio.convert c) i
          (market.convert c) (c * equity) row direction)
        = strategy.position_size (sizing_context symbol signals portfolio i market equity row
          direction) := by
    intro row direction
    rw [hsized]
    exact base_position_size_convert rfl rfl rfl rfl
  simp only [simulate_decide, exit_reason_convert signals signals' hhold, hframe, htarget,
    hkeeps, hquantity, hsize]

/-- A simulation in either currency. -/
structure SimulationOutput.Converted (c : Rate) (out out' : SimulationOutput) : Prop where
  equity_curve : out'.equity_curve = out.equity_curve.map (Prod.map id (c.1 * ·))
  exposure : out'.exposure = out.exposure
  positions : out'.positions = out.positions.map (PositionEvent.convert c)
  orders : out'.orders = out.orders
  fills : out'.fills = out.fills.map (FillEvent.convert c)
  portfolio : out'.portfolio = out.portfolio.convert c
  warnings : out'.warnings.length = out.warnings.length

theorem simulate_convert (hsized : strategy.BaseSized)
    (hhold : strategy.exit_signal = fun _ => .hold) (hframe : signals'.frame = signals.frame)
    (series : PriceSeries) :
    Outcome.Related (SimulationOutput.Converted c) (simulate series strategy signals config)
      (simulate (series.convert c) strategy signals' (config.convert c)) := by
  have hindex : (series.convert c).frame.index = series.frame.index :=
    PriceFrame.index_convert c series.frame
  have hbars : (series.convert c).frame.bars = series.frame.bars.map (Bar.convert c) := rfl
  simp only [simulate, hbars, List.isEmpty_map, hindex, hframe]
  split_ifs
  · exact .error _
  · exact .error _
  · refine (run_execution_convert (simulate_decide_convert hsized hhold hframe) _ none).bind
      fun st st' hst => .ok ?_
    have htimes : (series.frame.bars.map (Bar.convert c)).map Bar.timestamp
        = series.frame.bars.map Bar.timestamp := by
      rw [List.map_map]
      rfl
    exact
      { equity_curve := by
          show (List.map _ _).zip st'.equity_values = ((List.map _ _).zip st.equity_values).map _
          rw [htimes, hst.equity_values, List.zip_map_right]
        exposure := by
          show (List.map _ _).zip st'.exposure_values = (List.map _ _).zip st.exposure_values
          rw [htimes, hst.exposure_values]
        positions := hst.positions
        orders := hst.orders
        fills := hst.fills
        portfolio := hst.portfolio
        warnings := hst.warnings }

end Simulate

end Quantora
