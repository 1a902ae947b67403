import Quantora.Backtest.Reconciliation
import Quantora.Backtest.Simulate

/-! # What one bar does

    One spec lemma for each part of the loop body, so that no later proof
    unfolds it:

    * `execute_pending_eq_ok` — an order that is scheduled for the bar it
      reaches never trips the assertion of `_execute`; `settle` is what happens
      then.
    * `run_bar_eq` — one iteration is `settle`, `mark`, and `place` on what
      `decide` returns. `run_bar_mid` and `run_bar_last` read it backwards.
    * `Scheduled` — the order placed at bar `i` is scheduled for bar `i + 1`,
      so every iteration meets the premise of the first lemma.
-/

namespace Quantora

open Python (PyError)

/-! ## Positions and marks of one symbol -/

namespace PositionState

theorem take_fill_symbol (position : PositionState) (fill : FillEvent) (bar_index : ℕ) :
    (position.take_fill fill bar_index).1.symbol = position.symbol := by
  simp only [take_fill]
  split_ifs
  · rfl
  · rfl
  · exact close_symbol bar_index
  · exact close_symbol bar_index

/-- The quantity a close leaves behind depends on quantities only. -/
theorem close_quantity_congr {position position' : PositionState} {fill fill' : FillEvent}
    (hq : position.quantity = position'.quantity) (closing_quantity cost cost' : ℚ)
    (bar_index bar_index' : ℕ) :
    (position.close fill closing_quantity cost bar_index).1.quantity
      = (position'.close fill' closing_quantity cost' bar_index').1.quantity := by
  have hsign : position.sign = position'.sign := by simp only [sign, hq]
  simp only [close, clear_residue, hq, hsign]
  split_ifs <;> rfl

/-- Prices, costs and the bar have no say in how a fill moves the quantity. -/
theorem take_fill_quantity_congr {position position' : PositionState} {fill fill' : FillEvent}
    (hq : position.quantity = position'.quantity) (hside : fill.side = fill'.side)
    (hquantity : fill.quantity = fill'.quantity) (bar_index bar_index' : ℕ) :
    (position.take_fill fill bar_index).1.quantity
      = (position'.take_fill fill' bar_index').1.quantity := by
  have hsign : position.sign = position'.sign := by simp only [sign, hq]
  have hflat : position.is_flat = position'.is_flat := by simp only [is_flat, hq]
  have hsigned : fill.signed_quantity = fill'.signed_quantity := by
    simp only [FillEvent.signed_quantity, hside, hquantity]
  simp only [take_fill, hsign, hflat, hsigned, hq, hside]
  split_ifs
  · rfl
  · simp only [add, hq]
  · rfl
  · exact close_quantity_congr hq _ _ _ bar_index bar_index'

/-- A fill against a position, of at most its size, leaves the position on its
    side, or flat. -/
theorem take_fill_toward_flat {position : PositionState} {fill : FillEvent} (bar_index : ℕ)
    (hside : position.sign = -fill.side.sign) (hopen : position.quantity ≠ 0)
    (hpos : 0 < fill.quantity) (hle : fill.quantity ≤ |position.quantity|) :
    0 ≤ (position.sign : ℚ) * (position.take_fill fill bar_index).1.quantity := by
  have hnf : ¬ (position.is_flat = true) := fun h => hopen (is_flat_iff.mp h)
  have hother : ¬ position.sign = fill.side.sign := by
    rw [hside]
    cases fill.side <;> decide
  have habs : |fill.signed_quantity| = fill.quantity := by
    rw [fill.abs_signed_quantity, abs_of_pos hpos]
  simp only [take_fill, if_neg hnf, if_neg hother, habs, min_eq_left hle]
  rw [if_neg (by simp)]
  by_cases hresidue : |position.quantity + position.sign * -fill.quantity| < RESIDUE
  · rw [(close_of_residue fill fill.total_cost bar_index hresidue).1, mul_zero]
  · rw [(close_of_remaining fill fill.total_cost bar_index (not_lt.mp hresidue)).1]
    have hunit : (position.sign : ℚ) * position.sign = 1 := by
      have hsquare := fill.side.sign_mul_self
      rw [hside]
      push_cast
      linarith
    have hquantity := position.sign_mul_quantity
    calc (0 : ℚ) ≤ |position.quantity| - fill.quantity := by linarith
      _ = position.sign * position.quantity
            + (position.sign * position.sign) * -fill.quantity := by rw [hquantity, hunit]; ring
      _ = position.sign * (position.quantity + position.sign * -fill.quantity) := by ring

end PositionState

namespace Portfolio

@[simp] theorem position_touch (p : Portfolio) (symbol symbol' : String) :
    (p.touch symbol).position symbol' = p.position symbol' := by
  by_cases h : symbol' = symbol
  · subst h
    have hget := p.positions.get?_upsert_self (p.position symbol')
    rw [position_symbol] at hget
    simp only [position, touch] at hget ⊢
    rw [hget]
    rfl
  · have hne : symbol' ≠ (p.position symbol).symbol := by rwa [position_symbol]
    have hget := p.positions.get?_upsert_of_ne hne
    simp only [position, touch] at hget ⊢
    rw [hget]

@[simp] theorem cash_touch (p : Portfolio) (symbol : String) : (p.touch symbol).cash = p.cash := rfl

theorem position_apply_fill_self (p : Portfolio) (fill : FillEvent) (bar_index : ℕ) :
    (p.apply_fill fill bar_index).position fill.symbol
      = ((p.position fill.symbol).take_fill fill bar_index).1 := by
  have hsym : ((p.position fill.symbol).take_fill fill bar_index).1.symbol = fill.symbol := by
    rw [PositionState.take_fill_symbol, position_symbol]
  have hget := p.positions.get?_upsert_self ((p.position fill.symbol).take_fill fill bar_index).1
  rw [hsym] at hget
  rw [position, apply_fill]
  simp only
  rw [hget]
  rfl

@[simp] theorem position_new (initial_cash : ℚ) (symbol : String) :
    (new initial_cash).position symbol = { symbol := symbol } := rfl

@[simp] theorem cash_new (initial_cash : ℚ) : (new initial_cash).cash = initial_cash := rfl

/-- A single mark values a single position. -/
theorem market_value_single (p : Portfolio) (symbol : String) (price : ℚ) :
    p.market_value (Prices.single symbol price) = (p.position symbol).quantity * price := by
  unfold market_value
  rw [p.positions.total_eq_get? symbol _ (fun q hq => by simp [Prices.single, hq])]
  unfold position
  cases h : p.positions.get? symbol with
  | none => simp
  | some q => simp [Prices.single, Keyed.key_of_get? h, PositionState.market_value]

theorem equity_single (p : Portfolio) (symbol : String) (price : ℚ) :
    p.equity (Prices.single symbol price) = p.cash + (p.position symbol).quantity * price := by
  rw [equity, market_value_single]

end Portfolio

/-! ## Orders and fills -/

theorem Bar.Positive.price_pos {bar : Bar} (h : bar.Positive) (model : ExecutionModel)
    (symbol : String) : 0 < model.price_of (bar.market symbol) := by
  cases model
  · exact h.open_
  · exact h.close

theorem pending_order_eq_some {decision_timestamp execution_timestamp : Timestamp}
    {symbol : String} {delta : ℚ} {reason : String} {order : OrderEvent}
    (h : pending_order decision_timestamp execution_timestamp symbol delta reason = some order) :
    order.decision_timestamp = decision_timestamp ∧ order.timestamp = execution_timestamp ∧
      order.symbol = symbol ∧ order.quantity = |delta| ∧ order.reason = reason ∧
      order.side = (if delta > 0 then .BUY else .SELL) := by
  unfold pending_order at h
  split at h
  · cases h
  · obtain rfl := Option.some.inj h
    exact ⟨rfl, rfl, rfl, rfl, rfl, rfl⟩

/-- A delta that is large enough becomes an order. -/
theorem exists_pending_order {delta : ℚ} (h : MINIMUM_ORDER ≤ |delta|)
    (decision_timestamp execution_timestamp : Timestamp) (symbol reason : String) :
    ∃ order, pending_order decision_timestamp execution_timestamp symbol delta reason
      = some order := by
  unfold pending_order
  rw [dif_neg (not_lt.mpr h)]
  exact ⟨_, rfl⟩

/-- A fill keeps the order's symbol and side and is stamped with the bar. -/
theorem fill_order_eq_some {order : OrderEvent} {market : MarketEvent} {portfolio : Portfolio}
    {config : BacktestConfig} {fill : FillEvent}
    (h : (fill_order order market portfolio config).1 = some fill) :
    ∃ quantity, fill = fill_of order market config quantity ∧ 0 < quantity ∧
      (quantity = order.quantity ∨
        quantity = portfolio.max_affordable_quantity
          (config.cost_model.fill_price (config.execution_model.price_of market) order.side)
          (config.cost_model.commission_bps / BPS)) := by
  unfold fill_order at h
  cases hside : order.side with
  | SELL =>
    simp only [hside] at h
    exact ⟨order.quantity, (Option.some.inj h).symm, order.quantity_pos, Or.inl rfl⟩
  | BUY =>
    simp only [hside] at h
    split_ifs at h with hafford hnone
    · exact ⟨order.quantity, (Option.some.inj h).symm, order.quantity_pos, Or.inl rfl⟩
    · refine ⟨_, (Option.some.inj h).symm, not_le.mp hnone, Or.inr ?_⟩
      simp [fill_of, hside]

/-- An order that draws no warning is filled in full; a buy was affordable. -/
theorem fill_order_quiet {order : OrderEvent} {market : MarketEvent} {portfolio : Portfolio}
    {config : BacktestConfig} (h : (fill_order order market portfolio config).2 = []) :
    (fill_order order market portfolio config).1
        = some (fill_of order market config order.quantity) ∧
      (order.side = .BUY →
        -(fill_of order market config order.quantity).cash_delta ≤ portfolio.cash) := by
  cases hside : order.side with
  | SELL =>
    simp only [fill_order, hside]
    exact ⟨trivial, fun h => by cases h⟩
  | BUY =>
    simp only [fill_order, hside] at h ⊢
    split_ifs at h ⊢ with hafford
    refine ⟨rfl, fun _ => ?_⟩
    simp only [Portfolio.can_afford, ge_iff_le, decide_eq_true_eq] at hafford
    simp only [FillEvent.cash_delta, FillEvent.notional, fill_of, hside, OrderSide.sign_BUY]
      at hafford ⊢
    push_cast
    linarith

/-- What `_execute` returns is what `fill_order` decides, on the order's own bar. -/
theorem execute_eq_ok {order : OrderEvent} {market : MarketEvent} {portfolio : Portfolio}
    {config : BacktestConfig} {outcome : Option FillEvent × List String} :
    execute order market portfolio config = .ok outcome ↔
      order.timestamp = market.timestamp ∧ fill_order order market portfolio config = outcome := by
  unfold execute
  by_cases htime : order.timestamp = market.timestamp
  · rw [if_neg (not_not.mpr htime)]
    simp [htime]
  · rw [if_pos htime]
    simp [htime]

/-! ## One iteration -/

namespace LoopState

variable {σ : Type}

/-- Every order that waits is scheduled for the instant `timestamp`. -/
def Scheduled (st : LoopState σ) (timestamp : Timestamp) : Prop :=
  ∀ order ∈ st.pending, order.timestamp = timestamp

/-- The fill of the waiting order at this bar, and the warnings issued. -/
def settlement (st : LoopState σ) (config : BacktestConfig) (market : MarketEvent) :
    Option FillEvent × List String :=
  match st.pending with
  | none => (none, [])
  | some order => fill_order order market st.portfolio config

/-- Step 1 for a scheduled order. -/
def settle (st : LoopState σ) (config : BacktestConfig) (i : ℕ) (market : MarketEvent) :
    LoopState σ :=
  { st.book i (st.settlement config market).1 with
    pending := none
    warnings := st.warnings ++ (st.settlement config market).2 }

/-- Steps 1 and 2: the state in which the bar's decision is made. -/
def observe (st : LoopState σ) (symbol : String) (config : BacktestConfig) (i : ℕ)
    (market : MarketEvent) : LoopState σ :=
  (st.settle config i market).mark symbol market

section Frame

variable (st : LoopState σ) (config : BacktestConfig) (symbol : String) (i : ℕ)
  (market : MarketEvent)

@[simp] theorem portfolio_book (fill : Option FillEvent) :
    (st.book i fill).portfolio = fill.elim st.portfolio (st.portfolio.apply_fill · i) := by
  cases fill <;> rfl

@[simp] theorem fills_book (fill : Option FillEvent) :
    (st.book i fill).fills = st.fills ++ fill.toList := by
  cases fill <;> simp [book]

@[simp] theorem closure_book (fill : Option FillEvent) : (st.book i fill).closure = st.closure := by
  cases fill <;> rfl

@[simp] theorem orders_book (fill : Option FillEvent) : (st.book i fill).orders = st.orders := by
  cases fill <;> rfl

@[simp] theorem positions_book (fill : Option FillEvent) :
    (st.book i fill).positions = st.positions := by
  cases fill <;> rfl

@[simp] theorem warnings_book (fill : Option FillEvent) :
    (st.book i fill).warnings = st.warnings := by
  cases fill <;> rfl

@[simp] theorem equity_values_book (fill : Option FillEvent) :
    (st.book i fill).equity_values = st.equity_values := by
  cases fill <;> rfl

@[simp] theorem exposure_values_book (fill : Option FillEvent) :
    (st.book i fill).exposure_values = st.exposure_values := by
  cases fill <;> rfl

@[simp] theorem position_mark : (st.mark symbol market).portfolio.position symbol
    = st.portfolio.position symbol := by
  simp [mark]

@[simp] theorem quantity_mark : (st.mark symbol market).portfolio.quantity symbol
    = st.portfolio.quantity symbol := by
  simp [mark, Portfolio.quantity]

@[simp] theorem fills_mark : (st.mark symbol market).fills = st.fills := rfl

@[simp] theorem cash_mark : (st.mark symbol market).portfolio.cash = st.portfolio.cash := rfl

end Frame

end LoopState

open LoopState

section Loop

variable {σ : Type}

theorem execute_pending_eq_ok {config : BacktestConfig} {i : ℕ} {market : MarketEvent}
    {st : LoopState σ} (h : st.Scheduled market.timestamp) :
    execute_pending config i market st = .ok (st.settle config i market) := by
  obtain ⟨portfolio, closure, pending, _⟩ := st
  cases pending with
  | none => simp [execute_pending, settle, settlement, book]
  | some order =>
    have hts : order.timestamp = market.timestamp := h order rfl
    simp only [execute_pending, settle, settlement, execute, hts, ne_eq, not_true, if_false,
      bind, Except.bind]

/-- The last recorded position is the one the decision is made in. -/
theorem positions_observe (st : LoopState σ) (symbol : String) (config : BacktestConfig)
    (i : ℕ) (market : MarketEvent) :
    ∃ event, (st.observe symbol config i market).positions = st.positions ++ [event] ∧
      event.quantity = (st.observe symbol config i market).portfolio.quantity symbol ∧
      event.cash = (st.observe symbol config i market).portfolio.cash := by
  refine ⟨_, by simp [LoopState.observe, LoopState.settle, LoopState.mark]; rfl, ?_⟩
  simp [LoopState.observe, LoopState.settle, LoopState.mark, Portfolio.quantity]

/-- **One iteration**, when the waiting order is scheduled for this bar. -/
theorem run_bar_eq {symbol : String} {config : BacktestConfig} {decide : DecisionFn σ} {i : ℕ}
    {bar : Bar} {next : Option Timestamp} {st : LoopState σ} (h : st.Scheduled bar.timestamp) :
    run_bar symbol config decide i (bar, next) st =
      match next with
      | none => .ok (st.observe symbol config i (bar.market symbol))
      | some execution_timestamp =>
        (decide (st.observe symbol config i (bar.market symbol)).portfolio st.closure i
          (bar.market symbol)
          ((st.settle config i (bar.market symbol)).equity symbol (bar.market symbol))
          ((st.settle config i (bar.market symbol)).portfolio.position symbol)).map
          ((st.observe symbol config i (bar.market symbol)).place symbol (bar.market symbol)
            execution_timestamp) := by
  have hsched : st.Scheduled (bar.market symbol).timestamp := h
  have hclosure : ((st.settle config i (bar.market symbol)).mark symbol
      (bar.market symbol)).closure = st.closure := by
    simp [settle, mark]
  cases next with
  | none =>
    simp only [run_bar, execute_pending_eq_ok hsched, bind, Except.bind]
    rfl
  | some execution_timestamp =>
    simp only [run_bar, execute_pending_eq_ok hsched, bind, Except.bind, position_mark, hclosure]
    simp only [observe]
    cases decide _ _ _ _ _ _ <;> rfl

/-- An iteration that does not raise found its order scheduled for this bar. -/
theorem scheduled_of_run_bar {symbol : String} {config : BacktestConfig} {decide : DecisionFn σ}
    {i : ℕ} {bar : Bar} {next : Option Timestamp} {st st' : LoopState σ}
    (h : run_bar symbol config decide i (bar, next) st = .ok st') :
    st.Scheduled bar.timestamp := by
  intro order horder
  by_contra hne
  have hpending : st.pending = some order := horder
  have hraise : execute_pending config i (bar.market symbol) st = .error (.AssertionError
      ("order scheduled for " ++ Python.str_timestamp order.timestamp ++ " reached bar "
        ++ Python.str_timestamp bar.timestamp)) := by
    simp only [execute_pending, hpending, execute]
    rw [if_pos (show order.timestamp ≠ (bar.market symbol).timestamp from hne)]
    rfl
  simp only [run_bar, hraise, bind, Except.bind] at h
  cases h

/-- One iteration before the last bar: the decision, and the order placed on it. -/
theorem run_bar_mid {symbol : String} {config : BacktestConfig} {decide : DecisionFn σ} {i : ℕ}
    {bar : Bar} {execution_timestamp : Timestamp} {st st' : LoopState σ}
    (h : run_bar symbol config decide i (bar, some execution_timestamp) st = .ok st') :
    ∃ decision,
      decide (st.observe symbol config i (bar.market symbol)).portfolio st.closure i
        (bar.market symbol) ((st.settle config i (bar.market symbol)).equity symbol
          (bar.market symbol)) ((st.settle config i (bar.market symbol)).portfolio.position symbol)
        = .ok decision ∧
      st' = (st.observe symbol config i (bar.market symbol)).place symbol (bar.market symbol)
        execution_timestamp decision := by
  rw [run_bar_eq (scheduled_of_run_bar h)] at h
  simp only at h
  cases hdecide : decide (st.observe symbol config i (bar.market symbol)).portfolio st.closure i
      (bar.market symbol)
      ((st.settle config i (bar.market symbol)).equity symbol (bar.market symbol))
      ((st.settle config i (bar.market symbol)).portfolio.position symbol) with
  | error e => rw [hdecide] at h; cases h
  | ok decision =>
    rw [hdecide] at h
    exact ⟨decision, rfl, (Except.ok.inj h).symm⟩

/-- The last iteration only observes. -/
theorem run_bar_last {symbol : String} {config : BacktestConfig} {decide : DecisionFn σ} {i : ℕ}
    {bar : Bar} {st st' : LoopState σ}
    (h : run_bar symbol config decide i (bar, none) st = .ok st') :
    st' = st.observe symbol config i (bar.market symbol) := by
  rw [run_bar_eq (scheduled_of_run_bar h)] at h
  exact (Except.ok.inj h).symm

/-- The order placed at a bar is scheduled for the next one. -/
theorem scheduled_place (st : LoopState σ) (symbol : String) (market : MarketEvent)
    (execution_timestamp : Timestamp) (decision : TargetDecision × σ) :
    (st.place symbol market execution_timestamp decision).Scheduled execution_timestamp := by
  intro order horder
  exact (pending_order_eq_some horder).2.1

/-- What is scheduled when iteration `j` over `frame` starts. -/
def ScheduledAt (frame : List Bar) (j : ℕ) (st : LoopState σ) : Prop :=
  ∀ bar, frame[j]? = some bar → st.Scheduled bar.timestamp

/-- **Step lemma**: an iteration that does not raise leaves its order scheduled
    for the bar of the next iteration. -/
theorem run_bar_scheduled {symbol : String} {config : BacktestConfig} {decide : DecisionFn σ}
    {frame : List Bar} {j : ℕ} {step : Bar × Option Timestamp} {st st' : LoopState σ}
    (hstep : (Loop.withNext Bar.timestamp frame)[j]? = some step) (hst : ScheduledAt frame j st)
    (hrun : run_bar symbol config decide j step st = .ok st') : ScheduledAt frame (j + 1) st' := by
  rw [Loop.withNext_getElem?] at hstep
  obtain ⟨bar, hbar, rfl⟩ := Option.map_eq_some_iff.mp hstep
  rw [run_bar_eq (hst bar hbar)] at hrun
  intro bar' hbar'
  simp only [hbar', Option.map_some] at hrun
  cases hdecide : decide _ _ _ _ _ _ with
  | error e => rw [hdecide] at hrun; cases hrun
  | ok decision =>
    rw [hdecide] at hrun
    obtain rfl := Except.ok.inj hrun
    exact scheduled_place _ _ _ _ _

end Loop

end Quantora
