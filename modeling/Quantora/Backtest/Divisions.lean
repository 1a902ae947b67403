import Quantora.Backtest.Interleaving
import Quantora.Backtest.LongOnly

/-! # No division by zero

    Division over the rationals is total, so a run of the model does not show
    whether Python would have raised. `Checked` is the same code with a division
    that raises (`divide`), wherever the denominator is not a constant.

    * `take_fill_eq_ok` and its neighbours — each function, checked, is the
      function: its denominators are guarded, or positive by the size of a fill.
    * `PricedState` — what an open position was paid for at a positive price,
      which is what the return of the exit context needs. `PricedState.observe`
      and `PricedState.place` are its step lemmas.
    * `simulate_never_divides_by_zero` — a whole run. -/

namespace Quantora

open Python (PyError)

namespace Checked

/-- `x / y`, as Python divides. -/
def divide (x y : ℚ) : Except PyError ℚ :=
  if y = 0 then .error .ZeroDivisionError else .ok (x / y)

theorem divide_eq_ok {x y : ℚ} (h : y ≠ 0) : divide x y = .ok (x / y) := if_neg h

/-! ## The portfolio, with its divisions checked

    What has no part in a division is taken from the model. -/

/-- `_add` divides by the new quantity. -/
def add (position : PositionState) (fill : FillEvent) (signed_quantity cost : ℚ) :
    Except PyError PositionState := do
  let new_quantity := position.quantity + signed_quantity
  let average_price ← divide
    (position.average_price * position.quantity + fill.fill_price * signed_quantity) new_quantity
  .ok
    { position with
      average_price := average_price
      quantity := new_quantity
      open_costs := position.open_costs + cost }

/-- `_close` divides by what is held, by the fill and by the entry notional. -/
def close (position : PositionState) (fill : FillEvent) (closing_quantity exit_cost : ℚ)
    (bar_index : ℕ) : Except PyError (PositionState × Trade) := do
  let direction_sign := position.sign
  let fraction ← divide closing_quantity |position.quantity|
  let entry_cost_share := position.open_costs * fraction
  let exit_cost_share ←
    if fill.quantity = 0 then .ok 0
    else do
      let exit_fraction ← divide closing_quantity fill.quantity
      .ok (exit_cost * exit_fraction)
  let gross := (fill.fill_price - position.average_price) * closing_quantity * direction_sign
  let costs := entry_cost_share + exit_cost_share
  let net := gross - costs
  let entry_notional := position.average_price * closing_quantity
  let return_pct ← if entry_notional = 0 then .ok 0 else divide net entry_notional
  let reduced :=
    { position with
      realized_pnl := position.realized_pnl + net
      open_costs := position.open_costs - entry_cost_share
      quantity := position.quantity + direction_sign * -closing_quantity }
  .ok (reduced.clear_residue,
    { (position.close fill closing_quantity exit_cost bar_index).2 with
      gross_pnl := gross
      costs := costs
      pnl := net
      return_pct := return_pct })

/-- A reversal divides by the fill once more. -/
def take_fill (position : PositionState) (fill : FillEvent) (bar_index : ℕ) :
    Except PyError (PositionState × List Trade) :=
  let signed_quantity := fill.signed_quantity
  let cost := fill.total_cost
  if position.is_flat then
    .ok (position.open_ fill signed_quantity cost bar_index, [])
  else if position.sign = fill.side.sign then do
    let added ← add position fill signed_quantity cost
    .ok (added, [])
  else do
    let closing_quantity := min |signed_quantity| |position.quantity|
    let (closed, trade) ← close position fill closing_quantity cost bar_index
    let remaining := |signed_quantity| - closing_quantity
    if remaining > 0 then do
      let share ← divide remaining |signed_quantity|
      let opening_cost := cost * share
      let reversal := { fill with quantity := remaining, commission := 0 }
      .ok (closed.open_ reversal (fill.side.sign * remaining) opening_cost bar_index, [trade])
    else .ok (closed, [trade])

def apply_fill (p : Portfolio) (fill : FillEvent) (bar_index : ℕ) : Except PyError Portfolio := do
  let (position, closed) ← take_fill (p.position fill.symbol) fill bar_index
  .ok
    { p.apply_fill fill bar_index with
      positions := p.positions.upsert position
      trades := p.trades ++ closed }

/-- Divides by the price of a unit with its commission. -/
def max_affordable_quantity (p : Portfolio) (fill_price commission_rate : ℚ) : Except PyError ℚ :=
  if fill_price ≤ 0 then .ok 0
  else
    let per_unit := fill_price * (1 + commission_rate)
    if per_unit > 0 then do
      let units ← divide p.cash per_unit
      .ok (Python.truncate units)
    else .ok 0

/-! ## The loop, with its divisions checked -/

/-- `_execute`, with the affordable quantity checked. -/
def execute (order : OrderEvent) (market : MarketEvent) (portfolio : Portfolio)
    (config : BacktestConfig) : Except PyError (Option FillEvent × List String) :=
  if order.timestamp ≠ market.timestamp then
    .error (.AssertionError ("order scheduled for " ++ Python.str_timestamp order.timestamp
      ++ " reached bar " ++ Python.str_timestamp market.timestamp))
  else
    let full := fill_of order market config order.quantity
    match order.side with
    | .SELL => .ok (some full, [])
    | .BUY =>
      if portfolio.can_afford order.side order.quantity full.fill_price full.commission then
        .ok (some full, [])
      else do
        let affordable ← max_affordable_quantity portfolio full.fill_price
          (config.cost_model.commission_bps / BPS)
        if affordable ≤ 0 then
          .ok (none,
            [skipped_buy_warning market.timestamp order.symbol order.quantity full.fill_price])
        else
          .ok (some (fill_of order market config affordable),
            [reduced_buy_warning market.timestamp order.symbol order.quantity affordable])

section Loop

variable {σ : Type}

def book (st : LoopState σ) (i : ℕ) : Option FillEvent → Except PyError (LoopState σ)
  | none => .ok st
  | some fill => do
    let portfolio ← apply_fill st.portfolio fill i
    .ok { st with portfolio := portfolio, fills := st.fills ++ [fill] }

/-- The exposure divides by the equity. -/
def mark (st : LoopState σ) (symbol : String) (market : MarketEvent) :
    Except PyError (LoopState σ) := do
  let equity := st.portfolio.equity (Prices.single symbol market.close)
  let position := st.portfolio.position symbol
  let market_value := position.market_value market.close
  let exposure ← if equity = 0 then .ok 0 else divide market_value equity
  .ok
    { st.mark symbol market with
      exposure_values := st.exposure_values ++ [exposure] }

def execute_pending (config : BacktestConfig) (i : ℕ) (market : MarketEvent) (st : LoopState σ) :
    Except PyError (LoopState σ) :=
  match st.pending with
  | none => .ok st
  | some order => do
      let (fill, warnings) ← execute order market st.portfolio config
      let booked ← book st i fill
      .ok { booked with pending := none, warnings := st.warnings ++ warnings }

def run_bar (symbol : String) (config : BacktestConfig) (decide : DecisionFn σ) (i : ℕ)
    (step : Bar × Option Timestamp) (st : LoopState σ) : Except PyError (LoopState σ) := do
  let market := step.1.market symbol
  let executed ← execute_pending config i market st
  let marked ← mark executed symbol market
  match step.2 with
  | none => .ok marked
  | some execution_timestamp => do
      let decision ← decide marked.portfolio marked.closure i market
        (executed.equity symbol market) (marked.portfolio.position symbol)
      .ok (marked.place symbol market execution_timestamp decision)

def liquidate (symbol : String) (last : Bar) (config : BacktestConfig) (bar_count : ℕ)
    (st : LoopState σ) : Except PyError (LoopState σ) := do
  let position := st.portfolio.position symbol
  let closed ←
    if position.is_flat then .ok st
    else book st (bar_count - 1) (some (liquidation_fill symbol last config position))
  .ok
    { closed with
      equity_values := closed.equity_values.dropLast
        ++ [closed.portfolio.equity (Prices.single symbol last.close)]
      exposure_values := closed.exposure_values.dropLast ++ [0] }

def close_out (symbol : String) (frame : List Bar) (config : BacktestConfig) (st : LoopState σ) :
    Except PyError (LoopState σ) :=
  if config.liquidate_at_end then
    match frame.getLast? with
    | none => .error .IndexError
    | some last => liquidate symbol last config frame.length st
  else .ok st

def run_execution (symbol : String) (frame : List Bar) (config : BacktestConfig)
    (decide : DecisionFn σ) (closure : σ) : Except PyError (LoopState σ) := do
  let st ← Loop.runE (run_bar symbol config decide) 0 (Loop.withNext Bar.timestamp frame)
    { portfolio := Portfolio.new config.initial_cash, closure := closure }
  close_out symbol frame config st

end Loop

/-! ## Decisions, with their divisions checked -/

/-- The base rule divides by the price. -/
def base_position_size (default_allocation : ℚ) (context : SizingContext) : Except PyError ℚ :=
  if context.direction = .FLAT ∨ context.price ≤ 0 then .ok 0
  else do
    let strength := min (max context.strength 0) 1
    let notional := context.equity * default_allocation * strength
    let units ← divide notional context.price
    .ok (Python.truncate units * context.direction.value)

/-- `strategy.position_size(context)`: the base rule, unless it is overridden. -/
def position_size (strategy : Strategy) (overridden : Bool) (context : SizingContext) :
    Except PyError ℚ :=
  if overridden then .ok (strategy.position_size context)
  else base_position_size strategy.default_allocation context

/-- The return of the exit context is checked as it is (`unrealized_return`). -/
def simulate_decide (strategy : Strategy) (overridden : Bool) (config : BacktestConfig)
    (symbol : String) (signals : SignalSet) : DecisionFn (Option SignalDirection) :=
  fun portfolio suppressed i market equity position => do
    match ← exit_reason strategy symbol signals portfolio i market position with
    | some reason => .ok ((0, reason), some (direction_of position.quantity))
    | none =>
      match signals.frame[i]? with
      | none => .error .IndexError
      | some row =>
        let (direction, suppressed) := target_direction config suppressed row
        if keeps_position strategy direction position then
          .ok ((position.quantity, ""), suppressed)
        else do
          let reason := if row.reason = "" then "target " ++ direction.label else row.reason
          let size ← position_size strategy overridden
            (sizing_context symbol signals portfolio i market equity row direction)
          .ok ((size, reason), suppressed)

/-- `simulate`, with every division checked. -/
def simulate (series : PriceSeries) (strategy : Strategy) (overridden : Bool)
    (signals : SignalSet) (config : BacktestConfig) : Except PyError SimulationOutput :=
  if series.frame.bars.isEmpty then
    .error (.ValueError "cannot simulate a backtest over an empty price series")
  else if series.frame.index ≠ signals.frame.map SignalRow.timestamp then
    .error (.ValueError
      "signal index does not match the price index; the strategy must emit one row per bar")
  else do
    let st ← run_execution series.symbol series.frame.bars config
      (simulate_decide strategy overridden config series.symbol signals) none
    .ok (st.output series.symbol strategy.name (some signals) series.frame.bars)

/-! ## The portfolio divides as the model does -/

section Portfolio

variable {position : PositionState} {fill : FillEvent}

/-- Adding on the position's own side. -/
theorem add_eq_ok (hopen : position.quantity ≠ 0) (hside : position.sign = fill.side.sign)
    (hpos : 0 < fill.quantity) (cost : ℚ) :
    add position fill fill.signed_quantity cost
      = .ok (position.add fill fill.signed_quantity cost) := by
  have hne := PositionState.add_quantity_ne_zero hopen hside hpos
  simp only [add, divide_eq_ok hne, bind, Except.bind]
  rfl

theorem close_eq_ok (hopen : position.quantity ≠ 0) (fill : FillEvent)
    (closing_quantity exit_cost : ℚ) (bar_index : ℕ) :
    close position fill closing_quantity exit_cost bar_index
      = .ok (position.close fill closing_quantity exit_cost bar_index) := by
  have hheld : |position.quantity| ≠ 0 := abs_ne_zero.mpr hopen
  -- The other two denominators are compared with zero first.
  by_cases hfill : fill.quantity = 0 <;>
    by_cases hnotional : position.average_price * closing_quantity = 0 <;>
    simp only [close, PositionState.close, divide, hheld, hfill, hnotional, if_true, if_false, bind,
      Except.bind]

/-- A fill of something divides by nothing that is zero. -/
theorem take_fill_eq_ok (position : PositionState) (hpos : 0 < fill.quantity) (bar_index : ℕ) :
    take_fill position fill bar_index = .ok (position.take_fill fill bar_index) := by
  unfold take_fill PositionState.take_fill
  by_cases hflat : position.is_flat = true
  · simp only [if_pos hflat]
  have hopen : position.quantity ≠ 0 := fun h => hflat (PositionState.is_flat_iff.mpr h)
  by_cases hside : position.sign = fill.side.sign
  · simp only [if_neg hflat, if_pos hside, add_eq_ok hopen hside hpos, bind, Except.bind]
  simp only [if_neg hflat, if_neg hside, close_eq_ok hopen, bind, Except.bind]
  have hunits : |fill.signed_quantity| ≠ 0 :=
    abs_ne_zero.mpr (PositionState.signed_quantity_ne_zero hpos)
  split_ifs
  · simp only [divide_eq_ok hunits]
  · rfl

theorem apply_fill_eq_ok (p : Portfolio) (hpos : 0 < fill.quantity) (bar_index : ℕ) :
    apply_fill p fill bar_index = .ok (p.apply_fill fill bar_index) := by
  simp only [apply_fill, take_fill_eq_ok _ hpos, bind, Except.bind]
  rfl

theorem max_affordable_quantity_eq_ok (p : Portfolio) (fill_price commission_rate : ℚ) :
    max_affordable_quantity p fill_price commission_rate
      = .ok (p.max_affordable_quantity fill_price commission_rate) := by
  unfold max_affordable_quantity Portfolio.max_affordable_quantity
  by_cases hprice : fill_price ≤ 0
  · rw [if_pos hprice, if_pos hprice]
  rw [if_neg hprice, if_neg hprice]
  by_cases hunit : fill_price * (1 + commission_rate) > 0
  · simp only [if_pos hunit, divide_eq_ok (ne_of_gt hunit), bind, Except.bind]
  · simp only [if_neg hunit]

end Portfolio

/-! ## The loop divides as the model does -/

theorem execute_eq (order : OrderEvent) (market : MarketEvent) (portfolio : Portfolio)
    (config : BacktestConfig) :
    execute order market portfolio config = Quantora.execute order market portfolio config := by
  unfold execute Quantora.execute fill_order
  by_cases htime : order.timestamp ≠ market.timestamp
  · rw [if_pos htime, if_pos htime]
  rw [if_neg htime, if_neg htime]
  cases hside : order.side with
  | SELL => rfl
  | BUY =>
    simp only [max_affordable_quantity_eq_ok, bind, Except.bind]
    split_ifs <;> rfl

section Loop

variable {σ : Type}

theorem book_eq_ok (st : LoopState σ) (i : ℕ) {fill : Option FillEvent}
    (hpos : ∀ f ∈ fill, 0 < f.quantity) : book st i fill = .ok (st.book i fill) := by
  cases fill with
  | none => rfl
  | some f =>
    simp only [book, apply_fill_eq_ok _ (hpos f rfl), bind, Except.bind]
    rfl

/-- The equity is compared with zero before it divides. -/
theorem mark_eq_ok (st : LoopState σ) (symbol : String) (market : MarketEvent) :
    mark st symbol market = .ok (st.mark symbol market) := by
  by_cases hzero : st.portfolio.equity (Prices.single symbol market.close) = 0 <;>
    simp only [mark, LoopState.mark, divide, hzero, if_true, if_false, bind, Except.bind]

/-- What `_execute` fills is never nothing. -/
theorem execute_pending_eq (config : BacktestConfig) (i : ℕ) (market : MarketEvent)
    (st : LoopState σ) :
    execute_pending config i market st = Quantora.execute_pending config i market st := by
  unfold execute_pending Quantora.execute_pending
  cases st.pending with
  | none => rfl
  | some order =>
    simp only [execute_eq]
    -- A rejected order books nothing on either side.
    cases hexecute : Quantora.execute order market st.portfolio config with
    | error e => rfl
    | ok outcome =>
      have hpos : ∀ f ∈ outcome.1, 0 < f.quantity := by
        intro f hf
        obtain ⟨-, hfill⟩ := execute_eq_ok.mp hexecute
        rw [← hfill] at hf
        obtain ⟨quantity, rfl, hpos, -⟩ := fill_order_eq_some hf
        exact hpos
      simp only [bind, Except.bind, book_eq_ok _ _ hpos]

theorem run_bar_eq (symbol : String) (config : BacktestConfig) (decide : DecisionFn σ) (i : ℕ)
    (step : Bar × Option Timestamp) (st : LoopState σ) :
    run_bar symbol config decide i step st = Quantora.run_bar symbol config decide i step st := by
  unfold run_bar Quantora.run_bar
  simp only [execute_pending_eq, mark_eq_ok]
  rfl

theorem liquidate_eq_ok (symbol : String) (last : Bar) (config : BacktestConfig) (bar_count : ℕ)
    (st : LoopState σ) :
    liquidate symbol last config bar_count st
      = .ok (Quantora.liquidate symbol last config bar_count st) := by
  unfold liquidate Quantora.liquidate
  by_cases hflat : (st.portfolio.position symbol).is_flat = true
  · simp only [if_pos hflat, bind, Except.bind]
  · -- The closing fill has the size of what is open.
    have hpos : ∀ f ∈ some (liquidation_fill symbol last config (st.portfolio.position symbol)),
        0 < f.quantity := by
      intro f hf
      obtain rfl := Option.mem_some.mp hf
      exact abs_pos.mpr fun h => hflat (PositionState.is_flat_iff.mpr h)
    simp only [if_neg hflat, book_eq_ok _ _ hpos, bind, Except.bind]

theorem run_execution_eq (symbol : String) (frame : List Bar) (config : BacktestConfig)
    (decide : DecisionFn σ) (closure : σ) :
    run_execution symbol frame config decide closure
      = Quantora.run_execution symbol frame config decide closure := by
  have hbar : run_bar symbol config decide = Quantora.run_bar symbol config decide := by
    funext i step st
    exact run_bar_eq symbol config decide i step st
  have hclose : ∀ st : LoopState σ,
      close_out symbol frame config st = Quantora.close_out symbol frame config st := by
    intro st
    unfold close_out Quantora.close_out
    split_ifs
    · cases frame.getLast? with
      | none => rfl
      | some last => exact liquidate_eq_ok symbol last config frame.length st
    · rfl
  simp only [run_execution, Quantora.run_execution, run_bars, hbar, hclose]

end Loop

/-! ## Decisions divide as the model does -/

/-- The price is compared with zero before it divides. -/
theorem base_position_size_eq_ok (default_allocation : ℚ) (context : SizingContext) :
    base_position_size default_allocation context
      = .ok (Quantora.base_position_size default_allocation context) := by
  unfold base_position_size Quantora.base_position_size
  by_cases hzero : context.direction = .FLAT ∨ context.price ≤ 0
  · rw [if_pos hzero, if_pos hzero]
  · have hprice : context.price ≠ 0 := (not_le.mp (not_or.mp hzero).2).ne'
    simp only [if_neg hzero, divide_eq_ok hprice, bind, Except.bind]

theorem position_size_eq_ok {strategy : Strategy} {overridden : Bool}
    (hbase : overridden = false → strategy.BaseSized) (context : SizingContext) :
    position_size strategy overridden context = .ok (strategy.position_size context) := by
  unfold position_size
  cases overridden with
  | true => rfl
  | false =>
    rw [if_neg Bool.false_ne_true, base_position_size_eq_ok, hbase rfl]

theorem simulate_decide_eq {strategy : Strategy} {overridden : Bool}
    (hbase : overridden = false → strategy.BaseSized) (config : BacktestConfig) (symbol : String)
    (signals : SignalSet) :
    simulate_decide strategy overridden config symbol signals
      = Quantora.simulate_decide strategy config symbol signals := by
  funext portfolio suppressed i market equity position
  simp only [simulate_decide, Quantora.simulate_decide, position_size_eq_ok hbase]
  rfl

/-- **The checked run is the run**, on any input. -/
theorem simulate_eq {strategy : Strategy} {overridden : Bool}
    (hbase : overridden = false → strategy.BaseSized) (series : PriceSeries)
    (signals : SignalSet) (config : BacktestConfig) :
    simulate series strategy overridden signals config
      = Quantora.simulate series strategy signals config := by
  unfold simulate Quantora.simulate
  rw [simulate_decide_eq hbase, run_execution_eq]

end Checked

/-! ## Open positions have a positive price -/

/-- What is open was paid for at a positive price. -/
def PositionState.Priced (position : PositionState) : Prop :=
  position.quantity ≠ 0 → 0 < position.average_price

/-- The mean of two positive prices is positive, on either side. -/
theorem add_average_pos {position : PositionState} {fill : FillEvent}
    (hopen : position.quantity ≠ 0) (hside : position.sign = fill.side.sign)
    (hpos : 0 < fill.quantity) (haverage : 0 < position.average_price)
    (hprice : 0 < fill.fill_price) :
    0 < (position.average_price * position.quantity + fill.fill_price * fill.signed_quantity)
      / (position.quantity + fill.signed_quantity) := by
  have hheld : 0 < |position.quantity| := abs_pos.mpr hopen
  have hsigned := position.sign_mul_abs
  rw [hside] at hsigned
  have hne : (fill.side.sign : ℚ) ≠ 0 := by cases fill.side <;> norm_num
  -- Both quantities have the sign of the side, which cancels.
  have hmean : (position.average_price * position.quantity
        + fill.fill_price * fill.signed_quantity) / (position.quantity + fill.signed_quantity)
      = (position.average_price * |position.quantity| + fill.fill_price * fill.quantity)
        / (|position.quantity| + fill.quantity) := by
    rw [← mul_div_mul_left _ (|position.quantity| + fill.quantity) hne]
    congr 1
    · rw [FillEvent.signed_quantity]
      linear_combination -position.average_price * hsigned
    · rw [FillEvent.signed_quantity]
      linear_combination -hsigned
  rw [hmean]
  positivity

/-- Opened, added to and reversed at the price of a fill; reduced, it keeps its own. -/
theorem PositionState.Priced.take_fill {position : PositionState} {fill : FillEvent}
    (h : position.Priced) (bar_index : ℕ) (hpos : 0 < fill.quantity)
    (hprice : 0 < fill.fill_price) : (position.take_fill fill bar_index).1.Priced := by
  unfold PositionState.take_fill
  by_cases hflat : position.is_flat = true
  · simp only [if_pos hflat]
    exact fun _ => hprice
  have hopen : position.quantity ≠ 0 := fun h => hflat (is_flat_iff.mpr h)
  by_cases hside : position.sign = fill.side.sign
  · simp only [if_neg hflat, if_pos hside]
    exact fun _ => add_average_pos hopen hside hpos (h hopen) hprice
  simp only [if_neg hflat, if_neg hside]
  split_ifs
  · exact fun _ => hprice
  · -- Reduced: what is left is either snapped to zero or keeps its price.
    intro hleft
    by_cases hresidue : |position.quantity + position.sign
        * -(min |fill.signed_quantity| |position.quantity|)| < RESIDUE
    · exact absurd (close_of_residue fill fill.total_cost bar_index hresidue).1 hleft
    · rw [(close_of_remaining fill fill.total_cost bar_index (not_lt.mp hresidue)).2.1]
      exact h hopen

/-- Every open position has a positive price. -/
def PricedState {σ : Type} (st : LoopState σ) : Prop :=
  ∀ symbol, (st.portfolio.position symbol).Priced

section Steps

variable {σ : Type} {st : LoopState σ} {config : BacktestConfig} {bar : Bar}

theorem pricedState_start (initial_cash : ℚ) (closure : σ) :
    PricedState { portfolio := Portfolio.new initial_cash, closure := closure } := by
  intro symbol hopen
  exact absurd rfl hopen

/-- A fill is priced off the bar, with a penalty below one. -/
theorem PricedState.settle (h : PricedState st) (symbol : String) (hbar : bar.Positive)
    (hpenalty : config.cost_model.penalty < 1) (i : ℕ) :
    PricedState (st.settle config i (bar.market symbol)) := by
  intro symbol'
  simp only [LoopState.settle, LoopState.portfolio_book]
  cases hfill : (st.settlement config (bar.market symbol)).1 with
  | none => exact h symbol'
  | some fill =>
    rw [Option.elim_some]
    unfold LoopState.settlement at hfill
    cases hpending : st.pending with
    | none => rw [hpending] at hfill; cases hfill
    | some order =>
      rw [hpending] at hfill
      obtain ⟨quantity, rfl, hpos, -⟩ := fill_order_eq_some hfill
      -- The fill moves one position, and it is priced off a positive bar.
      by_cases hsymbol : order.symbol = symbol'
      · subst hsymbol
        have hposition := st.portfolio.position_apply_fill_self
          (fill_of order (bar.market symbol) config quantity) i
        have hself : (fill_of order (bar.market symbol) config quantity).symbol
            = order.symbol := rfl
        rw [hself] at hposition
        rw [hposition]
        exact (h order.symbol).take_fill i hpos (config.cost_model.fill_price_pos
          (hbar.price_pos config.execution_model symbol) hpenalty order.side)
      · rw [Portfolio.position_apply_fill_of_ne _ _ _ hsymbol]
        exact h symbol'

/-- **Step lemma**: the bar's fill keeps every open position priced. -/
theorem PricedState.observe (h : PricedState st) (symbol : String) (hbar : bar.Positive)
    (hpenalty : config.cost_model.penalty < 1) (i : ℕ) :
    PricedState (st.observe symbol config i (bar.market symbol)) := by
  intro symbol'
  simp only [LoopState.observe, LoopState.mark, Portfolio.position_touch]
  exact h.settle symbol hbar hpenalty i symbol'

/-- **Step lemma**: whatever is decided, an iteration keeps them priced. -/
theorem PricedState.run_bar {symbol : String} {decide : DecisionFn σ} {i : ℕ}
    {next : Option Timestamp} {st' : LoopState σ} (h : PricedState st) (hbar : bar.Positive)
    (hpenalty : config.cost_model.penalty < 1)
    (hrun : run_bar symbol config decide i (bar, next) st = .ok st') : PricedState st' := by
  have hobserved := h.observe symbol hbar hpenalty i
  cases next with
  | none =>
    rw [run_bar_last hrun]
    exact hobserved
  | some execution_timestamp =>
    obtain ⟨decision, -, rfl⟩ := run_bar_mid hrun
    exact hobserved

end Steps

/-! ## The exit context -/

/-- The return is taken on a notional that is not zero. -/
theorem exists_unrealized_return {position : PositionState} (h : position.Priced) (price : ℚ) :
    ∃ r, unrealized_return position price = .ok r := by
  unfold unrealized_return
  by_cases hflat : position.quantity = 0
  · exact ⟨0, if_pos hflat⟩
  · have hnotional : |position.average_price * position.quantity| ≠ 0 :=
      abs_ne_zero.mpr (mul_ne_zero (h hflat).ne' hflat)
    exact ⟨_, by rw [if_neg hflat, if_neg hnotional]⟩

/-- So the exit context of an open position is complete. -/
theorem exists_exit_reason {position : PositionState} (h : position.Priced) (strategy : Strategy)
    (symbol : String) (signals : SignalSet) (portfolio : Portfolio) (i : ℕ)
    (market : MarketEvent) :
    ∃ leaves, exit_reason strategy symbol signals portfolio i market position = .ok leaves := by
  unfold exit_reason
  by_cases hflat : position.is_flat = true
  · exact ⟨none, if_pos hflat⟩
  · obtain ⟨r, hr⟩ := exists_unrealized_return h market.close
    simp only [if_neg hflat, hr, bind, Except.bind]
    split_ifs <;> exact ⟨_, rfl⟩

/-- A decision divides by nothing else. -/
theorem simulate_decide_ne_error {strategy : Strategy} {config : BacktestConfig} {symbol : String}
    {signals : SignalSet} {portfolio : Portfolio} {suppressed : Option SignalDirection} {i : ℕ}
    {market : MarketEvent} {equity : ℚ} {position : PositionState} (h : position.Priced) :
    simulate_decide strategy config symbol signals portfolio suppressed i market equity position
      ≠ .error .ZeroDivisionError := by
  obtain ⟨leaves, hleaves⟩ := exists_exit_reason h strategy symbol signals portfolio i market
  unfold simulate_decide
  simp only [hleaves, bind, Except.bind]
  cases leaves with
  | some reason => simp
  | none =>
    cases hrow : signals.frame[i]? with
    | none => simp
    | some row =>
      simp only
      split_ifs <;> simp

/-! ## Any run -/

/-- The schema's bounds leave the seller at least 85 % of the price. -/
theorem CostModel.AdmittedByApi.penalty_lt_one {m : CostModel} (h : m.AdmittedByApi) :
    m.penalty < 1 := by
  have hslippage := h.slippage_bps
  have hspread := h.spread_bps
  unfold CostModel.penalty BPS
  rw [div_lt_one (by norm_num)]
  linarith

/-- **Main result**: with positive prices and the costs that the API admits, no
    division that `simulate` reaches has a zero denominator; the base sizing rule
    included, where the strategy keeps it. A checked run is the run. -/
theorem simulate_never_divides_by_zero {series : PriceSeries} {strategy : Strategy}
    {overridden : Bool} (signals : SignalSet) {config : BacktestConfig}
    (hprices : ∀ bar ∈ series.frame.bars, bar.Positive)
    (hcosts : config.cost_model.AdmittedByApi)
    (hbase : overridden = false → strategy.BaseSized) :
    Checked.simulate series strategy overridden signals config
        ≠ .error .ZeroDivisionError ∧
      Checked.simulate series strategy overridden signals config
        = simulate series strategy signals config := by
  have hsame := Checked.simulate_eq hbase series signals config
  refine ⟨fun hraise => ?_, hsame⟩
  rw [hsame] at hraise
  unfold simulate at hraise
  split_ifs at hraise with hempty hindex
  · cases hraise
  · cases hraise
  rcases Outcome.bind_eq_error.mp hraise with hexecution | ⟨st, -, hout⟩
  swap
  · cases hout
  rcases Outcome.bind_eq_error.mp hexecution with hrun | ⟨st, -, hclose⟩
  · have hpenalty := hcosts.penalty_lt_one
    -- The iteration that raised started from a priced state, with its order scheduled.
    obtain ⟨j, step, st, hstep, ⟨hscheduled, hpriced⟩, hfailed⟩ := Loop.exists_of_runE_eq_error
      (fun j st => ScheduledAt series.frame.bars j st ∧ PricedState st)
      (fun j step st st' hstep hinv hstepped => by
        rw [Nat.zero_add] at hinv hstepped ⊢
        refine ⟨run_bar_scheduled hstep hinv.1 hstepped, ?_⟩
        rw [Loop.withNext_getElem?] at hstep
        obtain ⟨bar, hbar, rfl⟩ := Option.map_eq_some_iff.mp hstep
        exact hinv.2.run_bar (hprices bar (List.mem_of_getElem? hbar)) hpenalty hstepped)
      ⟨fun _ _ _ horder => (by cases horder), pricedState_start _ _⟩ hrun
    rw [Nat.zero_add] at hscheduled hfailed
    rw [Loop.withNext_getElem?] at hstep
    obtain ⟨bar, hbar, rfl⟩ := Option.map_eq_some_iff.mp hstep
    rw [run_bar_eq (hscheduled bar hbar)] at hfailed
    have hsettled := hpriced.settle series.symbol (hprices bar (List.mem_of_getElem? hbar))
      hpenalty j
    cases hnext : series.frame.bars[j + 1]? with
    | none =>
      rw [hnext] at hfailed
      cases hfailed
    | some next =>
      rw [hnext] at hfailed
      exact simulate_decide_ne_error (hsettled series.symbol) (Outcome.map_eq_error.mp hfailed)
  · -- Closing out divides by nothing.
    unfold close_out at hclose
    split_ifs at hclose
    cases hlast : series.frame.bars.getLast? with
    | none => rw [hlast] at hclose; cases hclose
    | some last => rw [hlast] at hclose; cases hclose

/-- The run in which a long-only account is sold short, and everything loses. -/
theorem no_division_by_zero_in_a_collapse :
    Checked.simulate collapsing_bars { name := "demo" } false reentry_signals small_account
        ≠ .error .ZeroDivisionError ∧
      Checked.simulate collapsing_bars { name := "demo" } false reentry_signals small_account
        = simulate collapsing_bars { name := "demo" } reentry_signals small_account :=
  simulate_never_divides_by_zero reentry_signals collapsing_bars_positive small_account_admitted
    fun _ => rfl

end Quantora
