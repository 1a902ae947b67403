import Quantora.Backtest.Targets

/-! # What costs do to a run

    A run with costs and its frictionless twin, over the same bars and targets.
    As long as the run with costs has cash for every order, the twin fills the
    same sides and quantities at the same bars, and the two equity curves differ
    by exactly what the fills have been charged so far.

    * `Drag` — the simulation relation. Quantities never depend on prices
      (`take_fill_quantity_congr`), so only the cash differs, and it differs by
      the charges.
    * `Drag.observe`, `Drag.place`, `Drag.finish` — the step lemmas.
    * `cost_drag_exact` — the run lemma, on the outputs of `simulate_targets`. -/

namespace Quantora

open Python (PyError)

/-- The same configuration under the zero cost model. -/
def BacktestConfig.frictionless (config : BacktestConfig) : BacktestConfig :=
  { config with cost_model := .zero }

/-! ## Two fills that differ in costs only -/

/-- The same order, filled with costs and without. -/
structure TwinFills (fill twin : FillEvent) : Prop where
  timestamp : twin.timestamp = fill.timestamp
  symbol : twin.symbol = fill.symbol
  side : twin.side = fill.side
  quantity : twin.quantity = fill.quantity
  cash_delta : twin.cash_delta = fill.cash_delta + fill.total_cost
  cost_nonneg : 0 ≤ fill.total_cost
  free : twin.total_cost = 0

/-- A fill at a reference price, priced by a cost model. -/
def priced_fill (model : CostModel) (timestamp : Timestamp) (symbol : String) (side : OrderSide)
    (quantity reference_price : ℚ) (reason : String) : FillEvent where
  timestamp := timestamp
  symbol := symbol
  side := side
  quantity := quantity
  reference_price := reference_price
  fill_price := model.fill_price reference_price side
  commission := model.commission (quantity * model.fill_price reference_price side)
  reason := reason

theorem twinFills_priced_fill (model : CostModel) (timestamp : Timestamp) (symbol : String)
    (side : OrderSide) {quantity reference_price : ℚ} (reason : String) (hq : 0 ≤ quantity)
    (hprice : 0 ≤ reference_price) :
    TwinFills (priced_fill model timestamp symbol side quantity reference_price reason)
      (priced_fill .zero timestamp symbol side quantity reference_price reason) := by
  have hslip : (priced_fill model timestamp symbol side quantity reference_price
      reason).slippage_cost = reference_price * model.penalty * quantity := by
    simp only [FillEvent.slippage_cost, priced_fill, model.abs_fill_price_sub hprice]
  constructor
  · rfl
  · rfl
  · rfl
  · rfl
  · rw [FillEvent.total_cost, hslip]
    simp only [FillEvent.cash_delta, FillEvent.notional, priced_fill, CostModel.zero_fill_price,
      CostModel.zero_commission, model.fill_price_eq]
    have hs := side.sign_mul_self
    linear_combination (quantity * reference_price * model.penalty) * hs
  · rw [FillEvent.total_cost, hslip]
    have h₁ := model.commission_nonneg (quantity * model.fill_price reference_price side)
    have h₂ := mul_nonneg (mul_nonneg hprice model.penalty_nonneg) hq
    exact add_nonneg h₁ h₂
  · simp [FillEvent.total_cost, FillEvent.slippage_cost, priced_fill]

/-- What the fills with costs of some pairs have been charged. -/
def charges (pairs : List (FillEvent × FillEvent)) : ℚ :=
  (pairs.map fun pair => pair.1.commission + pair.1.slippage_cost).sum

theorem charges_append (pairs pairs' : List (FillEvent × FillEvent)) :
    charges (pairs ++ pairs') = charges pairs + charges pairs' := by
  simp [charges]

/-! ## The cash constraint -/

/-- A buy that its cash covers is filled in full, without a warning. -/
theorem fill_order_affordable {order : OrderEvent} {market : MarketEvent} {portfolio : Portfolio}
    {config : BacktestConfig}
    (h : order.side = .BUY →
      -(fill_of order market config order.quantity).cash_delta ≤ portfolio.cash) :
    fill_order order market portfolio config
      = (some (fill_of order market config order.quantity), []) := by
  cases hside : order.side with
  | SELL => simp only [fill_order, hside]
  | BUY =>
    have hcash := h hside
    have hafford : portfolio.can_afford .BUY order.quantity
        (fill_of order market config order.quantity).fill_price
        (fill_of order market config order.quantity).commission = true := by
      simp only [Portfolio.can_afford, ge_iff_le, decide_eq_true_eq]
      simp only [FillEvent.cash_delta, FillEvent.notional, fill_of, hside, OrderSide.sign_BUY]
        at hcash ⊢
      push_cast at hcash
      linarith
    simp only [fill_order, hside, hafford, if_true]

/-! ## The simulation relation -/

/-- Two portfolios that hold the same quantity and differ in cash by the costs
    charged so far. -/
structure SameHoldings (symbol : String) (p twin : Portfolio) : Prop where
  quantity : twin.quantity symbol = p.quantity symbol
  cash : twin.cash = p.cash + (p.total_commission + p.total_slippage)
  costs_nonneg : 0 ≤ p.total_commission + p.total_slippage

theorem SameHoldings.apply_fill {symbol : String} {p twin : Portfolio} {fill fill' : FillEvent}
    (h : SameHoldings symbol p twin) (hfill : TwinFills fill fill') (hsym : fill.symbol = symbol)
    (i : ℕ) : SameHoldings symbol (p.apply_fill fill i) (twin.apply_fill fill' i) := by
  subst hsym
  constructor
  · have h₁ := p.position_apply_fill_self fill i
    have h₂ := twin.position_apply_fill_self fill' i
    rw [hfill.symbol] at h₂
    simp only [Portfolio.quantity, h₁, h₂]
    exact PositionState.take_fill_quantity_congr h.quantity hfill.side hfill.quantity i i
  · have hcash := h.cash
    have hdelta := hfill.cash_delta
    simp only [FillEvent.total_cost] at hdelta
    simp only [Portfolio.apply_fill]
    linarith
  · have h₁ := h.costs_nonneg
    have h₂ := hfill.cost_nonneg
    simp only [FillEvent.total_cost] at h₂
    simp only [Portfolio.apply_fill]
    linarith

/-- The equity of twins differs by the costs charged so far. -/
theorem SameHoldings.equity {symbol : String} {p twin : Portfolio}
    (h : SameHoldings symbol p twin) (price : ℚ) :
    twin.equity (Prices.single symbol price)
      = p.equity (Prices.single symbol price) + (p.total_commission + p.total_slippage) := by
  have hq := h.quantity
  simp only [Portfolio.quantity] at hq
  rw [Portfolio.equity_single, Portfolio.equity_single, hq, h.cash]
  ring

/-- The fills of both runs, bar by bar. -/
abbrev Ledger := List (List (FillEvent × FillEvent))

/-- How the states of the two runs correspond. -/
structure Drag (symbol : String) (frame : List Bar) (st twin : LoopState Unit) (ledger : Ledger) :
    Prop where
  holdings : SameHoldings symbol st.portfolio twin.portfolio
  charged : st.portfolio.total_commission + st.portfolio.total_slippage = charges ledger.flatten
  pending : twin.pending = st.pending
  pending_symbol : ∀ order ∈ st.pending, order.symbol = symbol
  orders : twin.orders = st.orders
  fills : st.fills = ledger.flatten.map Prod.fst
  twin_fills : twin.fills = ledger.flatten.map Prod.snd
  paired : ∀ (i : ℕ) (bar : Bar) (pairs : List (FillEvent × FillEvent)),
    frame[i]? = some bar → ledger[i]? = some pairs →
    ∀ pair ∈ pairs, TwinFills pair.1 pair.2 ∧ pair.1.timestamp = bar.timestamp
  quiet : twin.warnings = []

/-- How the equity curves of the two runs correspond. -/
structure DragCurve (values twin_values : List ℚ) (ledger : Ledger) : Prop where
  length : values.length = ledger.length
  drag : ∀ k : ℕ, twin_values[k]?
    = values[k]?.map (· + charges (ledger.take (k + 1)).flatten)

theorem drag_start (symbol : String) (frame : List Bar) (config : BacktestConfig) :
    Drag symbol frame (LoopState.start config ()) (LoopState.start config.frictionless ()) [] := by
  have hholdings : SameHoldings symbol (LoopState.start config ()).portfolio
      (LoopState.start config.frictionless ()).portfolio := by
    constructor <;> simp [LoopState.start, BacktestConfig.frictionless, Portfolio.new,
      Portfolio.quantity, Portfolio.position]
  constructor
  · exact hholdings
  all_goals simp [LoopState.start, Portfolio.new, charges]

/-! ### The equity curves -/

theorem dragCurve_nil : DragCurve [] [] [] := ⟨rfl, fun k => by simp⟩

theorem DragCurve.twin_length {values twin_values : List ℚ} {ledger : Ledger}
    (h : DragCurve values twin_values ledger) : twin_values.length = ledger.length := by
  have hiff : ∀ k, twin_values.length ≤ k ↔ values.length ≤ k := by
    intro k
    rw [← List.getElem?_eq_none_iff, ← List.getElem?_eq_none_iff, h.drag k]
    simp
  rw [← h.length]
  exact le_antisymm ((hiff _).mpr (le_refl _)) ((hiff _).mp (le_refl _))

theorem DragCurve.append {values twin_values : List ℚ} {ledger : Ledger}
    (h : DragCurve values twin_values ledger) {pairs : List (FillEvent × FillEvent)} {x y : ℚ}
    (hxy : y = x + charges (ledger ++ [pairs]).flatten) :
    DragCurve (values ++ [x]) (twin_values ++ [y]) (ledger ++ [pairs]) := by
  have hlen : twin_values.length = values.length := h.twin_length.trans h.length.symm
  refine ⟨by simp [h.length], fun k => ?_⟩
  rcases lt_trichotomy k values.length with hlt | heq | hgt
  · rw [List.getElem?_append_left (hlen ▸ hlt), List.getElem?_append_left hlt, h.drag k,
      List.take_append_of_le_length (h.length ▸ hlt)]
  · have htake : (ledger ++ [pairs]).take (k + 1) = ledger ++ [pairs] :=
      List.take_of_length_le (by simp [heq, h.length])
    rw [List.getElem?_append_right (by omega), List.getElem?_append_right (by omega), htake]
    simp [heq, hlen, hxy]
  · rw [List.getElem?_eq_none (by simp; omega), List.getElem?_eq_none (by simp; omega)]
    rfl

theorem DragCurve.dropLast {values twin_values : List ℚ} {ledger : Ledger}
    {pairs : List (FillEvent × FillEvent)}
    (h : DragCurve values twin_values (ledger ++ [pairs])) :
    DragCurve values.dropLast twin_values.dropLast ledger := by
  have hlen := h.length
  have htwin := h.twin_length
  rw [List.length_append, List.length_singleton] at hlen htwin
  refine ⟨by simp [hlen], fun k => ?_⟩
  rw [List.getElem?_dropLast, List.getElem?_dropLast, htwin, hlen, h.drag k]
  split_ifs with hk
  · rw [List.take_append_of_le_length (by omega)]
  · rfl

/-! ### The step lemmas -/

section Step

variable {symbol : String} {frame : List Bar} {config : BacktestConfig} {bar : Bar}
  {st twin : LoopState Unit} {ledger : Ledger}

/-- Both runs settle the waiting order alike, as long as the run with costs
    draws no warning. -/
theorem Drag.settlement (h : Drag symbol frame st twin ledger) (hbar : bar.Positive)
    (hquiet : (st.settlement config (bar.market symbol)).2 = []) :
    (twin.settlement config.frictionless (bar.market symbol)).2 = [] ∧
      (((st.settlement config (bar.market symbol)).1 = none ∧
          (twin.settlement config.frictionless (bar.market symbol)).1 = none) ∨
        ∃ fill twin_fill, (st.settlement config (bar.market symbol)).1 = some fill ∧
          (twin.settlement config.frictionless (bar.market symbol)).1 = some twin_fill ∧
          TwinFills fill twin_fill ∧ fill.symbol = symbol ∧ fill.timestamp = bar.timestamp) := by
  unfold LoopState.settlement at hquiet ⊢
  rw [h.pending]
  cases hpending : st.pending with
  | none => exact ⟨rfl, Or.inl ⟨rfl, rfl⟩⟩
  | some order =>
    simp only [hpending] at hquiet ⊢
    obtain ⟨hfull, hafford⟩ := fill_order_quiet hquiet
    have hprice := (hbar.price_pos config.execution_model symbol).le
    have htwin : TwinFills (fill_of order (bar.market symbol) config order.quantity)
        (fill_of order (bar.market symbol) config.frictionless order.quantity) :=
      twinFills_priced_fill config.cost_model _ _ order.side order.reason order.quantity_pos.le
        hprice
    have hfull' : fill_order order (bar.market symbol) twin.portfolio config.frictionless
        = (some (fill_of order (bar.market symbol) config.frictionless order.quantity), []) := by
      apply fill_order_affordable
      intro hside
      -- The twin has at least as much cash, and the order costs it less.
      have h₁ := hafford hside
      have h₂ := htwin.cash_delta
      have h₃ := htwin.cost_nonneg
      have h₄ := h.holdings.cash
      have h₅ := h.holdings.costs_nonneg
      linarith
    rw [hfull, hfull']
    exact ⟨rfl, Or.inr ⟨_, _, rfl, rfl, htwin, h.pending_symbol order hpending, rfl⟩⟩

/-- A new bar has no fills yet. -/
theorem Drag.open_row (h : Drag symbol frame st twin ledger) :
    Drag symbol frame st twin (ledger ++ [[]]) := by
  have hflat : (ledger ++ [[]]).flatten = ledger.flatten := by simp
  refine { h with charged := ?_, fills := ?_, twin_fills := ?_, paired := ?_ }
  · rw [hflat, h.charged]
  · rw [hflat, h.fills]
  · rw [hflat, h.twin_fills]
  · intro i bar' pairs hbar' hpairs
    rcases Nat.lt_or_ge i ledger.length with hlt | hge
    · rw [List.getElem?_append_left hlt] at hpairs
      exact h.paired i bar' pairs hbar' hpairs
    · rw [List.getElem?_append_right hge] at hpairs
      have hmem := List.mem_of_getElem? hpairs
      rw [List.mem_singleton] at hmem
      subst hmem
      intro pair hpair
      cases hpair

/-- Twin fills booked at the current bar. -/
theorem Drag.book {row : List (FillEvent × FillEvent)} {fill twin_fill : FillEvent}
    (h : Drag symbol frame st twin (ledger ++ [row])) (hbar : frame[ledger.length]? = some bar)
    (htwin : TwinFills fill twin_fill) (hsym : fill.symbol = symbol)
    (hts : fill.timestamp = bar.timestamp) (i : ℕ) :
    Drag symbol frame (st.book i (some fill)) (twin.book i (some twin_fill))
      (ledger ++ [row ++ [(fill, twin_fill)]]) := by
  have hflat : (ledger ++ [row ++ [(fill, twin_fill)]]).flatten
      = (ledger ++ [row]).flatten ++ [(fill, twin_fill)] := by simp
  constructor
  · exact h.holdings.apply_fill htwin hsym i
  · have hcharged := h.charged
    rw [hflat, charges_append]
    simp only [LoopState.book, Portfolio.apply_fill, charges, List.map_cons, List.map_nil,
      List.sum_cons, List.sum_nil] at hcharged ⊢
    linarith
  · exact h.pending
  · exact h.pending_symbol
  · exact h.orders
  · simp [LoopState.book, h.fills]
  · simp [LoopState.book, h.twin_fills]
  · intro j bar' pairs hbar' hpairs pair hpair
    have hrow := h.paired j bar'
    rcases lt_trichotomy j ledger.length with hlt | rfl | hgt
    · rw [List.getElem?_append_left hlt] at hpairs hrow
      exact hrow pairs hbar' hpairs pair hpair
    · rw [List.getElem?_append_right (le_refl _), Nat.sub_self] at hpairs hrow
      obtain rfl : row ++ [(fill, twin_fill)] = pairs := by simpa using hpairs
      obtain rfl : bar = bar' := by rw [hbar] at hbar'; exact Option.some.inj hbar'
      rcases List.mem_append.mp hpair with hmem | hmem
      · exact hrow row hbar' rfl pair hmem
      · obtain rfl := List.mem_singleton.mp hmem
        exact ⟨htwin, hts⟩
    · rw [List.getElem?_eq_none (by simp; omega)] at hpairs
      cases hpairs
  · exact h.quiet

/-- **Step lemma**: both runs observe a bar. -/
theorem Drag.observe (h : Drag symbol frame st twin ledger)
    (hcurve : DragCurve st.equity_values twin.equity_values ledger)
    (hbar : frame[ledger.length]? = some bar) (hpos : bar.Positive) (i : ℕ)
    (hquiet : (st.settlement config (bar.market symbol)).2 = []) :
    ∃ row,
      Drag symbol frame (st.observe symbol config i (bar.market symbol))
        (twin.observe symbol config.frictionless i (bar.market symbol)) (ledger ++ [row]) ∧
      DragCurve (st.observe symbol config i (bar.market symbol)).equity_values
        (twin.observe symbol config.frictionless i (bar.market symbol)).equity_values
        (ledger ++ [row]) := by
  obtain ⟨hquiet', hfills⟩ := h.settlement hpos hquiet
  -- The row of this bar, and the states after the waiting order is booked.
  have hbooked : ∃ row, Drag symbol frame
      (st.book i (st.settlement config (bar.market symbol)).1)
      (twin.book i (twin.settlement config.frictionless (bar.market symbol)).1)
      (ledger ++ [row]) := by
    rcases hfills with ⟨hnone, hnone'⟩ | ⟨fill, twin_fill, hsome, hsome', htwin, hsym, hts⟩
    · rw [hnone, hnone']
      exact ⟨[], h.open_row⟩
    · rw [hsome, hsome']
      exact ⟨_, h.open_row.book hbar htwin hsym hts i⟩
  obtain ⟨row, hrow⟩ := hbooked
  refine ⟨row, ?_, ?_⟩
  · constructor
    · have hold := hrow.holdings
      refine ⟨?_, hold.cash, hold.costs_nonneg⟩
      have hq := hold.quantity
      simp only [Portfolio.quantity] at hq
      simpa [LoopState.observe, LoopState.settle, Portfolio.quantity] using hq
    · exact hrow.charged
    · rfl
    · intro order horder
      cases horder
    · exact hrow.orders
    · exact hrow.fills
    · exact hrow.twin_fills
    · exact hrow.paired
    · simp [LoopState.observe, LoopState.settle, LoopState.mark, hquiet', h.quiet]
  · have heq := hrow.holdings.equity bar.close
    rw [hrow.charged] at heq
    have hst : (st.observe symbol config i (bar.market symbol)).equity_values
        = st.equity_values ++ [(st.book i (st.settlement config
            (bar.market symbol)).1).portfolio.equity (Prices.single symbol bar.close)] := by
      simp [LoopState.observe, LoopState.settle, LoopState.mark, Bar.market]
    have htwin : (twin.observe symbol config.frictionless i (bar.market symbol)).equity_values
        = twin.equity_values ++ [(twin.book i (twin.settlement config.frictionless
            (bar.market symbol)).1).portfolio.equity (Prices.single symbol bar.close)] := by
      simp [LoopState.observe, LoopState.settle, LoopState.mark, Bar.market]
    rw [hst, htwin]
    exact hcurve.append heq

/-- **Step lemma**: both runs place the same order. -/
theorem Drag.place (h : Drag symbol frame st twin ledger) (market : MarketEvent)
    (execution_timestamp : Timestamp) (decision : TargetDecision × Unit) :
    Drag symbol frame (st.place symbol market execution_timestamp decision)
      (twin.place symbol market execution_timestamp decision) ledger := by
  have hq := h.holdings.quantity
  refine { h with pending := ?_, pending_symbol := ?_, orders := ?_ }
  · simp only [LoopState.place, hq]
  · intro order horder
    exact (pending_order_eq_some horder).2.2.1
  · simp only [LoopState.place, hq, h.orders]

/-- **Step lemma**: both runs close out alike. -/
theorem Drag.finish {row : List (FillEvent × FillEvent)} {last : Bar}
    (h : Drag symbol frame st twin (ledger ++ [row]))
    (hcurve : DragCurve st.equity_values twin.equity_values (ledger ++ [row]))
    (hlast : frame[ledger.length]? = some last) (hpos : last.Positive) (bar_count : ℕ) :
    ∃ row',
      Drag symbol frame (finish symbol config last bar_count st)
        (finish symbol config.frictionless last bar_count twin) (ledger ++ [row']) ∧
      DragCurve (finish symbol config last bar_count st).equity_values
        (finish symbol config.frictionless last bar_count twin).equity_values
        (ledger ++ [row']) := by
  by_cases hliq : config.liquidate_at_end = true
  swap
  · have hliq' : ¬ config.frictionless.liquidate_at_end = true := hliq
    refine ⟨row, ?_⟩
    simp only [Quantora.finish, if_neg hliq, if_neg hliq']
    exact ⟨h, hcurve⟩
  have hliq' : config.frictionless.liquidate_at_end = true := hliq
  simp only [Quantora.finish, if_pos hliq, if_pos hliq']
  -- The positions have the same quantity, so both runs close it or neither does.
  have hq : (twin.portfolio.position symbol).quantity = (st.portfolio.position symbol).quantity :=
    h.holdings.quantity
  by_cases hflat : (st.portfolio.position symbol).quantity = 0
  · have hst : (st.portfolio.position symbol).is_flat = true := by simpa using hflat
    have htwin : (twin.portfolio.position symbol).is_flat = true := by simpa [hq] using hflat
    refine ⟨row, ?_, ?_⟩
    · simp only [liquidate, hst, htwin, if_true]
      exact { h with }
    · simp only [liquidate, hst, htwin, if_true]
      refine hcurve.dropLast.append ?_
      rw [h.holdings.equity, h.charged]
  · have hst : ¬ (st.portfolio.position symbol).is_flat = true := by simpa using hflat
    have htwin : ¬ (twin.portfolio.position symbol).is_flat = true := by simpa [hq] using hflat
    have hfills : TwinFills (liquidation_fill symbol last config (st.portfolio.position symbol))
        (liquidation_fill symbol last config.frictionless (twin.portfolio.position symbol)) := by
      unfold liquidation_fill
      rw [hq]
      exact twinFills_priced_fill config.cost_model _ _ _ _ (abs_nonneg _) hpos.close.le
    have hbook := h.book hlast hfills rfl rfl (bar_count - 1)
    refine ⟨row ++ [(liquidation_fill symbol last config (st.portfolio.position symbol),
      liquidation_fill symbol last config.frictionless (twin.portfolio.position symbol))], ?_, ?_⟩
    · simp only [liquidate, if_neg hst, if_neg htwin]
      exact { hbook with }
    · simp only [liquidate, if_neg hst, if_neg htwin]
      refine DragCurve.append (by simpa using hcurve.dropLast) ?_
      have heq := hbook.holdings.equity last.close
      rw [hbook.charged] at heq
      exact heq

end Step

/-! ## The run -/

@[simp] theorem warnings_given_bar (symbol : String) (config : BacktestConfig) (targets : List ℚ)
    (reasons : Option (List String)) (i : ℕ) (step : Bar × Option Timestamp)
    (st : LoopState Unit) :
    (given_bar symbol config targets reasons i step st).warnings
      = st.warnings ++ (st.settlement config (step.1.market symbol)).2 := by
  obtain ⟨bar, next⟩ := step
  cases next <;> simp [given_bar, LoopState.observe, LoopState.settle, LoopState.mark,
    LoopState.place]

theorem warnings_finish {σ : Type} (symbol : String) (config : BacktestConfig) (last : Bar)
    (bar_count : ℕ) (st : LoopState σ) :
    (finish symbol config last bar_count st).warnings = st.warnings := by
  simp only [finish, liquidate]
  split_ifs
  · rfl
  · simp
  · rfl

/-- The two loops correspond at every bar, as long as the one with costs has
    drawn no warning. -/
theorem drag_given_run (symbol : String) (config : BacktestConfig) (frame : List Bar)
    (targets : List ℚ) (reasons : Option (List String)) (hpos : ∀ bar ∈ frame, bar.Positive)
    (hquiet : (given_run symbol config frame targets reasons).warnings = []) :
    ∃ ledger : Ledger, ledger.length = frame.length ∧
      Drag symbol frame (given_run symbol config frame targets reasons)
        (given_run symbol config.frictionless frame targets reasons) ledger ∧
      DragCurve (given_run symbol config frame targets reasons).equity_values
        (given_run symbol config.frictionless frame targets reasons).equity_values ledger := by
  have hsim := Loop.run_simulates (given_bar symbol config targets reasons)
    (given_bar symbol config.frictionless targets reasons) id
    (Loop.withNext Bar.timestamp frame) 0
    (s := LoopState.start config ()) (t := LoopState.start config.frictionless ())
    (fun i st twin => st.warnings = [] → ∃ ledger : Ledger, ledger.length = i ∧
      Drag symbol frame st twin ledger ∧ DragCurve st.equity_values twin.equity_values ledger)
    ?_ (fun _ => ⟨[], rfl, drag_start symbol frame config, dragCurve_nil⟩)
  · simp only [Loop.withNext_length, Nat.zero_add, List.map_id] at hsim
    exact hsim hquiet
  intro j step st twin hstep hrel hwarn
  rw [Nat.zero_add] at hrel hwarn ⊢
  rw [Loop.withNext_getElem?] at hstep
  obtain ⟨bar, hbar, rfl⟩ := Option.map_eq_some_iff.mp hstep
  rw [warnings_given_bar, List.append_eq_nil_iff] at hwarn
  obtain ⟨ledger, hlen, hdrag, hcurve⟩ := hrel hwarn.1
  subst hlen
  obtain ⟨row, hdrag', hcurve'⟩ := hdrag.observe hcurve hbar
    (hpos bar (List.mem_of_getElem? hbar)) ledger.length hwarn.2
  refine ⟨ledger ++ [row], by simp, ?_⟩
  cases frame[ledger.length + 1]?.map Bar.timestamp with
  | none => exact ⟨hdrag', hcurve'⟩
  | some execution_timestamp =>
    exact ⟨hdrag'.place (bar.market symbol) execution_timestamp
      (given_decision targets reasons ledger.length, ()), hcurve'⟩

/-- How the output of a run with costs corresponds to the output of its twin.
    Row `k` of the ledger holds the fills of bar `k`, the liquidation included. -/
structure CostDrag (frame : List Bar) (out twin : SimulationOutput) (ledger : Ledger) : Prop where
  quiet : twin.warnings = []
  bars : ledger.length = frame.length
  fills : out.fills = ledger.flatten.map Prod.fst
  twin_fills : twin.fills = ledger.flatten.map Prod.snd
  paired : ∀ (k : ℕ) (bar : Bar) (pairs : List (FillEvent × FillEvent)),
    frame[k]? = some bar → ledger[k]? = some pairs → ∀ pair ∈ pairs,
      pair.2.side = pair.1.side ∧ pair.2.quantity = pair.1.quantity ∧
      pair.1.timestamp = bar.timestamp ∧ pair.2.timestamp = bar.timestamp
  curve : out.equity_curve.length = frame.length
  drag : ∀ k : ℕ, twin.equity_curve[k]? = out.equity_curve[k]?.map
    fun point => (point.1, point.2 + charges (ledger.take (k + 1)).flatten)
  total : twin.equity_curve.getLast? = out.equity_curve.getLast?.map fun point =>
    (point.1, point.2 + (out.portfolio.total_commission + out.portfolio.total_slippage))

/-- A pointwise shift of the values is a pointwise shift of the curve. -/
theorem zip_getElem?_shift (index : List Timestamp) {values twin_values : List ℚ} {c : ℕ → ℚ}
    (h : ∀ k : ℕ, twin_values[k]? = values[k]?.map (· + c k)) (k : ℕ) :
    (index.zip twin_values)[k]? = (index.zip values)[k]?.map fun p => (p.1, p.2 + c k) := by
  simp only [List.zip, List.getElem?_zipWith, h k]
  cases index[k]? <;> cases values[k]? <;> rfl

theorem zip_index_length (frame : List Bar) {values : List ℚ} (h : values.length = frame.length) :
    ((frame.map Bar.timestamp).zip values).length = frame.length := by
  simp [h]

/-- **Exact cost drag.** A run that draws no warning under its cost model has a
    frictionless twin with the same fills; at every bar the twin's equity is
    higher by exactly what the fills up to that bar have been charged, and at
    the end by the total costs that the run reports. -/
theorem cost_drag_exact (frame : List Bar) (targets : List ℚ) (symbol : String)
    (reasons : Option (List String)) (config : BacktestConfig) (strategy : String)
    (out : SimulationOutput) (hpos : ∀ bar ∈ frame, bar.Positive)
    (hrun : simulate_targets frame targets symbol reasons config strategy = .ok out)
    (hquiet : out.warnings = []) :
    ∃ twin ledger,
      simulate_targets frame targets symbol reasons config.frictionless strategy = .ok twin ∧
        CostDrag frame out twin ledger := by
  have hfit := targetsFit_of_eq_ok hrun
  obtain ⟨init, last, rfl⟩ := (List.eq_nil_or_concat' frame).resolve_left hfit.bars
  have hlast : (init ++ [last]).getLast? = some last := by simp
  rw [simulate_targets_eq hfit symbol config strategy hlast] at hrun
  obtain rfl := Except.ok.inj hrun
  have hquiet' : (given_run symbol config (init ++ [last]) targets reasons).warnings = [] := by
    rw [← warnings_finish symbol config last (init ++ [last]).length]
    exact hquiet
  obtain ⟨ledger, hlen, hdrag, hcurve⟩ :=
    drag_given_run symbol config (init ++ [last]) targets reasons hpos hquiet'
  obtain ⟨done, row, rfl⟩ : ∃ done row, ledger = done ++ [row] := by
    rcases List.eq_nil_or_concat' ledger with rfl | ⟨done, row, h⟩
    · simp at hlen
    · exact ⟨done, row, h⟩
  have hdone : done.length = init.length := by simpa using hlen
  have hbar : (init ++ [last])[done.length]? = some last := by simp [hdone]
  obtain ⟨row', hfin, hfincurve⟩ := hdrag.finish hcurve hbar
    (hpos last (by simp)) (init ++ [last]).length
  refine ⟨_, done ++ [row'], simulate_targets_eq hfit symbol config.frictionless strategy hlast, ?_⟩
  have hcurves := zip_getElem?_shift ((init ++ [last]).map Bar.timestamp) hfincurve.drag
  have hlength := (zip_index_length (init ++ [last]) (hfincurve.length.trans (by simp [hdone])))
  have htwin_length :=
    (zip_index_length (init ++ [last]) (hfincurve.twin_length.trans (by simp [hdone])))
  constructor
  · exact hfin.quiet
  · simp [hdone]
  · exact hfin.fills
  · exact hfin.twin_fills
  · intro k bar pairs hk hpairs pair hpair
    obtain ⟨htwin, hts⟩ := hfin.paired k bar pairs hk hpairs pair hpair
    exact ⟨htwin.side, htwin.quantity, hts, htwin.timestamp.trans hts⟩
  · exact hlength
  · exact hcurves
  · -- The last point is point `n - 1`, where the whole ledger has been charged.
    have hwhole : (done ++ [row']).take ((init ++ [last]).length - 1 + 1) = done ++ [row'] :=
      List.take_of_length_le (by simp [hdone])
    have hk := hcurves ((init ++ [last]).length - 1)
    rw [hwhole, ← hfin.charged] at hk
    simp only [LoopState.output, List.getLast?_eq_getElem?, hlength, htwin_length]
    exact hk

theorem three_bars_fit : TargetsFit three_bars [10, 10, 0] none :=
  ⟨by simp [three_bars], rfl, by simp⟩

/-- The drag of one round trip under the default costs. -/
theorem cost_drag_of_three_bars :
    ∃ out twin ledger,
      simulate_targets three_bars [10, 10, 0] "SYNTHETIC" none default "targets" = .ok out ∧
      simulate_targets three_bars [10, 10, 0] "SYNTHETIC" none
        (BacktestConfig.frictionless default) "targets" = .ok twin ∧
      CostDrag three_bars out twin ledger := by
  have hrun := simulate_targets_eq three_bars_fit "SYNTHETIC" default "targets" rfl
  obtain ⟨twin, ledger, htwin, hdrag⟩ := cost_drag_exact three_bars [10, 10, 0] "SYNTHETIC" none
    default "targets" _ three_bars_positive hrun (by decide +kernel)
  exact ⟨_, twin, ledger, hrun, htwin, hdrag⟩

end Quantora
