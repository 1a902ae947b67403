import Quantora.Backtest.Targets
import Quantora.Framework.Outcome
import Quantora.Cpp.Simulator

/-! # Python / C++ parity

    The C++ executor and the Python one are two implementations of one loop.
    The simulation relation says that the wrapper's conversions carry the state
    of one into the state of the other:

    * `SamePosition`, `SamePortfolio` — the accounting; `same_take_fill` is the
      step lemma, one case per case of `apply_fill`.
    * `SameState` — the loop variables; `SameState.observe`, `SameState.place`
      and `SameState.finish` are the step lemmas, `same_given_run` the run lemma.
    * `cpp_simulate_targets_eq` — the two functions are equal. -/

namespace Quantora

open Python (PyError)
open Outcome (mapM_append_singleton mapM_append_ok mapM_singleton)
open cpp_engine (at_bar to_state to_trade to_warning to_position to_order to_fill side
  extension_costs extension_config extension_bar price_field)

/-! ## Conversions -/

theorem at_bar_eq_ok {index : List Timestamp} {bar : ℕ} {t : Timestamp}
    (h : index[bar]? = some t) : at_bar index bar = .ok t := by
  simp only [at_bar, h]

/-! ## Costs and fills -/

theorem magnitude_eq_abs (x : ℚ) : Cpp.Portfolio.magnitude x = |x| := by
  unfold Cpp.Portfolio.magnitude
  split_ifs with h
  · exact (abs_of_neg h).symm
  · exact (abs_of_nonneg (not_lt.mp h)).symm

@[simp] theorem sign_side (s : Cpp.OrderSide) : (side s).sign = Cpp.side_sign s := by
  cases s <;> rfl

@[simp] theorem extension_fill_price (m : CostModel) (reference_price : ℚ) (s : Cpp.OrderSide) :
    (extension_costs m).fill_price reference_price s = m.fill_price reference_price (side s) := by
  simp [Cpp.CostModel.fill_price, CostModel.fill_price, CostModel.penalty, extension_costs,
    Cpp.kBps, BPS]

@[simp] theorem extension_commission (m : CostModel) (notional : ℚ) :
    (extension_costs m).commission notional = m.commission notional := by
  have habs : (if notional < 0 then -notional else notional) = |notional| :=
    magnitude_eq_abs notional
  simp only [Cpp.CostModel.commission, CostModel.commission, extension_costs, habs, Cpp.kBps, BPS]
  split_ifs with h
  · exact (max_eq_left h.le).symm
  · exact (max_eq_right (not_lt.mp h)).symm

/-- The Python fill that a C++ fill stands for. -/
def fill_at (symbol : String) (timestamp : Timestamp) (fill : Cpp.FillEvent) : FillEvent where
  timestamp := timestamp
  symbol := symbol
  side := side fill.side
  quantity := fill.quantity
  reference_price := fill.reference_price
  fill_price := fill.fill_price
  commission := fill.commission
  reason := fill.reason

theorem to_fill_eq_ok {index : List Timestamp} {symbol : String} {fill : Cpp.FillEvent}
    {t : Timestamp} (h : index[fill.bar_index]? = some t) :
    to_fill index symbol fill = .ok (fill_at symbol t fill) := by
  simp only [to_fill, at_bar_eq_ok h, bind, Except.bind]
  rfl

section FillAt

variable (symbol : String) (t : Timestamp) (fill : Cpp.FillEvent)

theorem notional_fill_at : (fill_at symbol t fill).notional = fill.notional := rfl

theorem slippage_cost_fill_at : (fill_at symbol t fill).slippage_cost = fill.slippage_cost := by
  simp only [FillEvent.slippage_cost, Cpp.FillEvent.slippage_cost, fill_at]
  rw [show (if fill.fill_price - fill.reference_price < 0
      then -(fill.fill_price - fill.reference_price) else fill.fill_price - fill.reference_price)
      = |fill.fill_price - fill.reference_price| from magnitude_eq_abs _]

theorem total_cost_fill_at : (fill_at symbol t fill).total_cost = fill.total_cost := by
  rw [FillEvent.total_cost, slippage_cost_fill_at]
  rfl

theorem cash_delta_fill_at : (fill_at symbol t fill).cash_delta = fill.cash_delta := by
  rw [FillEvent.cash_delta, notional_fill_at]
  simp only [fill_at, sign_side]
  rfl

theorem signed_quantity_fill_at :
    (fill_at symbol t fill).signed_quantity = Cpp.side_sign fill.side * fill.quantity := by
  simp [FillEvent.signed_quantity, fill_at]

end FillAt

/-! ## Positions -/

/-- The two positions agree in what they both record. -/
structure SameFields (symbol : String) (s : Cpp.PositionState) (p : PositionState) : Prop where
  symbol : p.symbol = symbol
  quantity : p.quantity = s.quantity
  average_price : p.average_price = s.average_price
  realized_pnl : p.realized_pnl = s.realized_pnl
  entry_bar_index : p.entry_bar_index = s.entry_bar_index
  entry_reason : p.entry_reason = s.entry_reason
  open_costs : p.open_costs = s.open_costs

/-- `p` is what the wrapper would make of the C++ position `s`: only an open
    position has an entry, at the bar that `s` names. -/
structure SamePosition (index : List Timestamp) (symbol : String) (s : Cpp.PositionState)
    (p : PositionState) : Prop extends SameFields symbol s p where
  entry_of_flat : s.quantity = 0 → p.entry_timestamp = none
  entry_of_open : s.quantity ≠ 0 →
    ∃ t, p.entry_timestamp = some t ∧ index[s.entry_bar_index]? = some t

theorem SamePosition.to_state_eq_ok {index : List Timestamp} {symbol : String}
    {s : Cpp.PositionState} {p : PositionState} (h : SamePosition index symbol s p) :
    to_state index symbol s = .ok p := by
  obtain ⟨psymbol, quantity, average_price, realized_pnl, entry_timestamp, entry_bar_index,
    entry_reason, open_costs⟩ := p
  obtain ⟨⟨rfl, rfl, rfl, rfl, rfl, rfl, rfl⟩, hflat, hopen⟩ := h
  unfold to_state
  by_cases hq : s.quantity = 0
  · obtain rfl := hflat hq
    simp only [if_pos hq, bind, Except.bind]
  · obtain ⟨t, rfl, ht⟩ := hopen hq
    simp only [if_neg hq, at_bar_eq_ok ht, bind, Except.bind, Except.map]

theorem samePosition_fresh (index : List Timestamp) (symbol : String) :
    SamePosition index symbol {} { symbol := symbol } := by
  refine ⟨?_, fun _ => rfl, fun hne => absurd rfl hne⟩
  constructor <;> rfl

section Accounting

variable {index : List Timestamp} {symbol : String} {c : Cpp.Portfolio} {p : PositionState}
  {fill : Cpp.FillEvent} {t : Timestamp} {i : ℕ}

theorem SameFields.is_flat {s : Cpp.PositionState} (h : SameFields symbol s p) :
    p.is_flat = s.is_flat := by
  simp only [PositionState.is_flat, Cpp.PositionState.is_flat, h.quantity]

theorem SameFields.sign {s : Cpp.PositionState} (h : SameFields symbol s p) :
    p.sign = s.sign := by
  simp only [PositionState.sign, Cpp.PositionState.sign, h.quantity]

theorem SameFields.open_ (h : SameFields symbol c.position p) (signed_quantity cost : ℚ) :
    SameFields symbol (c.open_ fill signed_quantity cost i).position
      (p.open_ (fill_at symbol t fill) signed_quantity cost i) := by
  constructor
  · exact h.symbol
  · rfl
  · rfl
  · exact h.realized_pnl
  · rfl
  · rfl
  · rfl

theorem SameFields.add (h : SameFields symbol c.position p) (signed_quantity cost : ℚ) :
    SameFields symbol (c.add fill signed_quantity cost).position
      (p.add (fill_at symbol t fill) signed_quantity cost) := by
  constructor
  · exact h.symbol
  · simp only [Cpp.Portfolio.add, PositionState.add, h.quantity]
  · simp only [Cpp.Portfolio.add, PositionState.add, h.quantity, h.average_price, fill_at]
  · exact h.realized_pnl
  · exact h.entry_bar_index
  · exact h.entry_reason
  · simp only [Cpp.Portfolio.add, PositionState.add, h.open_costs]

/-- Both residue rules clear the same positions. -/
theorem SameFields.clear_residue {s : Cpp.PositionState} (h : SameFields symbol s p) :
    SameFields symbol (Cpp.Portfolio.clear_residue s) p.clear_residue := by
  unfold Cpp.Portfolio.clear_residue PositionState.clear_residue
  rw [magnitude_eq_abs, h.quantity, RESIDUE]
  split_ifs with hsmall
  · exact { h with quantity := rfl, average_price := rfl, entry_reason := rfl, open_costs := rfl }
  · exact h

/-- Before its residue rule, a close leaves the same fields and the same entry. -/
theorem SameFields.reduce (h : SameFields symbol c.position p) (fill : Cpp.FillEvent)
    (t : Timestamp) (closing_quantity exit_cost : ℚ) (i : ℕ) :
    ∃ s' p', SameFields symbol s' p' ∧
      s'.entry_bar_index = c.position.entry_bar_index ∧ p'.entry_timestamp = p.entry_timestamp ∧
      (c.close fill closing_quantity exit_cost i).position
        = Cpp.Portfolio.clear_residue s' ∧
      (p.close (fill_at symbol t fill) closing_quantity exit_cost i).1 = p'.clear_residue := by
  unfold Cpp.Portfolio.close PositionState.close
  -- The two positions before the rule are read off the goals that `rfl` closes.
  refine ⟨_, _, ?_, ?_, ?_, rfl, rfl⟩
  rotate_left
  · rfl
  · rfl
  constructor
  · exact h.symbol
  · simp only [h.quantity, h.sign]
  · exact h.average_price
  · simp only [h.realized_pnl, h.average_price, h.open_costs, h.quantity, h.sign, fill_at,
      magnitude_eq_abs, ne_eq, ite_not]
    rfl
  · exact h.entry_bar_index
  · exact h.entry_reason
  · simp only [h.open_costs, h.quantity, magnitude_eq_abs]

theorem SameFields.close (h : SameFields symbol c.position p) (closing_quantity exit_cost : ℚ) :
    SameFields symbol (c.close fill closing_quantity exit_cost i).position
      (p.close (fill_at symbol t fill) closing_quantity exit_cost i).1 := by
  obtain ⟨s', p', hsame, -, -, hs', hp'⟩ := h.reduce fill t closing_quantity exit_cost i
  rw [hs', hp']
  exact hsame.clear_residue

/-- The C++ minimum, as the code writes it. -/
theorem smaller_eq_min (x y : ℚ) : (if x < y then x else y) = min x y := by
  split_ifs with hlt
  · exact (min_eq_left hlt.le).symm
  · exact (min_eq_right (not_lt.mp hlt)).symm

/-- The fields after a fill, whatever the timestamps. -/
theorem SameFields.take_fill (h : SameFields symbol c.position p) (fill : Cpp.FillEvent)
    (t : Timestamp) (i : ℕ) :
    SameFields symbol (c.take_fill fill i).position
      (p.take_fill (fill_at symbol t fill) i).1 := by
  have hside : (fill_at symbol t fill).side.sign = Cpp.side_sign fill.side := sign_side fill.side
  -- Opened, added to, reversed, reduced.
  simp only [Cpp.Portfolio.take_fill, PositionState.take_fill, signed_quantity_fill_at, hside,
    total_cost_fill_at, h.is_flat, h.sign, h.quantity, magnitude_eq_abs, smaller_eq_min]
  split_ifs
  · exact h.open_ _ _
  · exact h.add _ _
  · exact (h.close _ _).open_ _ _
  · exact h.close _ _

theorem SamePosition.open_ (h : SamePosition index symbol c.position p) {signed_quantity : ℚ}
    (hne : signed_quantity ≠ 0) (cost : ℚ) (ht : index[i]? = some t) :
    SamePosition index symbol (c.open_ fill signed_quantity cost i).position
      (p.open_ (fill_at symbol t fill) signed_quantity cost i) :=
  ⟨h.toSameFields.open_ _ _, fun hz => absurd hz hne, fun _ => ⟨t, rfl, ht⟩⟩

theorem SamePosition.add (h : SamePosition index symbol c.position p) {signed_quantity : ℚ}
    (hopen : c.position.quantity ≠ 0) (hne : c.position.quantity + signed_quantity ≠ 0) (cost : ℚ) :
    SamePosition index symbol (c.add fill signed_quantity cost).position
      (p.add (fill_at symbol t fill) signed_quantity cost) :=
  ⟨h.toSameFields.add _ _, fun hz => absurd hz hne, fun _ => h.entry_of_open hopen⟩

/-- Clearing a residue forgets the entry, and only then. -/
theorem clear_residue_entry {s : Cpp.PositionState} (h : SameFields symbol s p)
    (hentry : ∃ t, p.entry_timestamp = some t ∧ index[s.entry_bar_index]? = some t) :
    SamePosition index symbol (Cpp.Portfolio.clear_residue s) p.clear_residue := by
  have hsame := h.clear_residue
  unfold Cpp.Portfolio.clear_residue PositionState.clear_residue at hsame ⊢
  rw [magnitude_eq_abs, h.quantity, RESIDUE] at hsame ⊢
  -- What is left over has no entry; anything else keeps its own.
  split_ifs at hsame ⊢ with hsmall
  · exact ⟨hsame, fun _ => rfl, fun hz => absurd rfl hz⟩
  · refine ⟨hsame, fun hz => absurd ?_ hsmall, fun _ => hentry⟩
    rw [hz]
    norm_num

/-- What a close records and leaves behind. -/
theorem SamePosition.close (h : SamePosition index symbol c.position p)
    (hopen : c.position.quantity ≠ 0) (ht : index[fill.bar_index]? = some t)
    (closing_quantity exit_cost : ℚ) :
    SamePosition index symbol (c.close fill closing_quantity exit_cost i).position
        (p.close (fill_at symbol t fill) closing_quantity exit_cost i).1 ∧
      ∃ trade, (c.close fill closing_quantity exit_cost i).trades = c.trades ++ [trade] ∧
        to_trade index symbol trade
          = .ok (p.close (fill_at symbol t fill) closing_quantity exit_cost i).2 := by
  obtain ⟨t₀, hentry, ht₀⟩ := h.entry_of_open hopen
  constructor
  · obtain ⟨s', p', hsame, hbar, htime, hs', hp'⟩ :=
      h.toSameFields.reduce fill t closing_quantity exit_cost i
    rw [hs', hp']
    exact clear_residue_entry hsame ⟨t₀, htime.trans hentry, hbar ▸ ht₀⟩
  · refine ⟨_, rfl, ?_⟩
    -- The bars held are clipped at zero in C++ and truncated subtraction here.
    have hspan : (if (i : ℤ) - c.position.entry_bar_index > 0
        then (i : ℤ) - c.position.entry_bar_index else 0).toNat
        = i - c.position.entry_bar_index := by
      split_ifs <;> omega
    simp only [to_trade, at_bar_eq_ok ht₀, at_bar_eq_ok ht, bind, Except.bind]
    simp only [PositionState.close, fill_at, hentry, h.symbol, h.quantity, h.sign, h.average_price,
      h.open_costs, h.entry_reason, h.entry_bar_index, magnitude_eq_abs, hspan,
      Option.getD_some, ne_eq, ite_not]
    rfl

/-- Taking a fill leaves the cash and the totals alone. -/
theorem take_fill_totals (c : Cpp.Portfolio) (fill : Cpp.FillEvent) (i : ℕ) :
    (c.take_fill fill i).initial_cash = c.initial_cash ∧
      (c.take_fill fill i).cash = c.cash ∧
      (c.take_fill fill i).total_commission = c.total_commission ∧
      (c.take_fill fill i).total_slippage = c.total_slippage ∧
      (c.take_fill fill i).total_traded_notional = c.total_traded_notional := by
  simp only [Cpp.Portfolio.take_fill]
  split_ifs <;> exact ⟨rfl, rfl, rfl, rfl, rfl⟩

/-- **Step lemma**: both engines account for a fill alike, in each of the four
    cases. -/
theorem same_take_fill (h : SamePosition index symbol c.position p)
    (ht : index[fill.bar_index]? = some t) (hi : fill.bar_index = i) (hpos : 0 < fill.quantity) :
    SamePosition index symbol (c.take_fill fill i).position
        (p.take_fill (fill_at symbol t fill) i).1 ∧
      ∃ new, (c.take_fill fill i).trades = c.trades ++ new ∧
        new.mapM (to_trade index symbol) = .ok (p.take_fill (fill_at symbol t fill) i).2 := by
  have hti : index[i]? = some t := hi ▸ ht
  have hsigned := signed_quantity_fill_at symbol t fill
  have hside : (fill_at symbol t fill).side.sign = Cpp.side_sign fill.side := sign_side fill.side
  have hsign_ne : (Cpp.side_sign fill.side : ℚ) ≠ 0 := by
    cases fill.side <;> norm_num [Cpp.side_sign]
  simp only [Cpp.Portfolio.take_fill, PositionState.take_fill, hsigned, hside, total_cost_fill_at,
    h.is_flat, h.sign, h.quantity, magnitude_eq_abs]
  by_cases hflat : c.position.is_flat = true
  · simp only [if_pos hflat]
    exact ⟨h.open_ (mul_ne_zero hsign_ne hpos.ne') _ hti, [], (List.append_nil _).symm, rfl⟩
  have hopen : c.position.quantity ≠ 0 := by simpa [Cpp.PositionState.is_flat] using hflat
  by_cases hsame : c.position.sign = Cpp.side_sign fill.side
  · simp only [if_neg hflat, if_pos hsame]
    refine ⟨h.add hopen ?_ _, [], (List.append_nil _).symm, rfl⟩
    have hsign : p.sign = (fill_at symbol t fill).side.sign := by
      rw [h.sign, hside]
      exact hsame
    have hne := PositionState.add_quantity_ne_zero (h.quantity ▸ hopen) hsign hpos
    rwa [h.quantity, hsigned] at hne
  simp only [if_neg hflat, if_neg hsame]
  rw [smaller_eq_min]
  obtain ⟨hclosed, trade, hnew, htrade⟩ := h.close (i := i) hopen ht
    (min |(Cpp.side_sign fill.side : ℚ) * fill.quantity| |c.position.quantity|) fill.total_cost
  -- On the other side: closed first, and what remains opens afresh.
  by_cases hrest : |(Cpp.side_sign fill.side : ℚ) * fill.quantity|
      - min |(Cpp.side_sign fill.side : ℚ) * fill.quantity| |c.position.quantity| > 0
  · simp only [if_pos hrest]
    exact ⟨hclosed.open_ (mul_ne_zero hsign_ne hrest.ne') _ hti, [trade], hnew,
      mapM_singleton htrade⟩
  · simp only [if_neg hrest]
    exact ⟨hclosed, [trade], hnew, mapM_singleton htrade⟩

end Accounting

/-! ## Portfolios -/

/-- `p` is what the wrapper would make of the C++ portfolio `c`. -/
structure SamePortfolio (index : List Timestamp) (symbol : String) (c : Cpp.Portfolio)
    (p : Portfolio) : Prop where
  position : SamePosition index symbol c.position (p.position symbol)
  only : p.positions.items = [] ∨ p.positions.items = [p.position symbol]
  initial_cash : p.initial_cash = c.initial_cash
  cash : p.cash = c.cash
  total_commission : p.total_commission = c.total_commission
  total_slippage : p.total_slippage = c.total_slippage
  total_traded_notional : p.total_traded_notional = c.total_traded_notional
  trades : c.trades.mapM (to_trade index symbol) = .ok p.trades

section Portfolios

variable {index : List Timestamp} {symbol : String} {c : Cpp.Portfolio} {p : Portfolio}
  {fill : Cpp.FillEvent} {t : Timestamp} {i : ℕ}

/-- Storing a position of the only symbol leaves just that position. -/
theorem items_upsert_only
    (honly : p.positions.items = [] ∨ p.positions.items = [p.position symbol])
    {q : PositionState} (hq : q.symbol = symbol) : (p.positions.upsert q).items = [q] := by
  rcases honly with hitems | hitems
  · simp [Keyed.upsert, hitems, Keyed.upsertList]
  · simp [Keyed.upsert, hitems, Keyed.upsertList, hq]

theorem items_touch (h : SamePortfolio index symbol c p) :
    (p.touch symbol).positions.items = [(p.touch symbol).position symbol] := by
  rw [Portfolio.position_touch]
  exact items_upsert_only h.only (p.position_symbol symbol)

theorem SamePortfolio.touch (h : SamePortfolio index symbol c p) :
    SamePortfolio index symbol c (p.touch symbol) := by
  refine { h with position := ?_, only := Or.inr (items_touch h) }
  rw [Portfolio.position_touch]
  exact h.position

theorem items_apply_fill (h : SamePortfolio index symbol c p) (g : FillEvent)
    (hg : g.symbol = symbol) :
    (p.apply_fill g i).positions.items = [(p.apply_fill g i).position symbol] := by
  subst hg
  have hsymbol : ((p.position g.symbol).take_fill g i).1.symbol = g.symbol := by
    rw [PositionState.take_fill_symbol, Portfolio.position_symbol]
  rw [p.position_apply_fill_self]
  exact items_upsert_only h.only hsymbol

/-- **Step lemma**: both portfolios apply a fill alike. -/
theorem SamePortfolio.apply_fill (h : SamePortfolio index symbol c p)
    (ht : index[fill.bar_index]? = some t) (hi : fill.bar_index = i) (hpos : 0 < fill.quantity) :
    SamePortfolio index symbol (c.apply_fill fill i) (p.apply_fill (fill_at symbol t fill) i) := by
  have hpaid : SamePosition index symbol (c.pay fill).position (p.position symbol) := h.position
  obtain ⟨hposition, new, hnew, htrades⟩ := same_take_fill hpaid ht hi hpos
  obtain ⟨hinitial, hcash, hcommission, hslippage, hnotional⟩ :=
    take_fill_totals (c.pay fill) fill i
  -- One goal for each field: the position and its trades, then cash and totals.
  rw [Cpp.Portfolio.apply_fill]
  constructor
  · have hself := p.position_apply_fill_self (fill_at symbol t fill) i
    simp only [fill_at] at hself
    rw [show (p.apply_fill (fill_at symbol t fill) i).position symbol = _ from hself]
    exact hposition
  · exact Or.inr (items_apply_fill h _ rfl)
  · rw [hinitial]
    exact h.initial_cash
  · rw [hcash, Cpp.Portfolio.pay, ← h.cash, ← cash_delta_fill_at symbol t fill]
    rfl
  · rw [hcommission, Cpp.Portfolio.pay, ← h.total_commission]
    rfl
  · rw [hslippage, Cpp.Portfolio.pay, ← h.total_slippage, ← slippage_cost_fill_at symbol t fill]
    rfl
  · rw [hnotional, Cpp.Portfolio.pay, ← h.total_traded_notional, magnitude_eq_abs]
    rfl
  · rw [hnew]
    exact mapM_append_ok h.trades htrades

theorem samePortfolio_new (index : List Timestamp) (symbol : String) (initial_cash : ℚ) :
    SamePortfolio index symbol { initial_cash := initial_cash, cash := initial_cash }
      (Portfolio.new initial_cash) := by
  constructor
  · exact samePosition_fresh index symbol
  · exact Or.inl rfl
  all_goals rfl

/-- Both check a buy against the same cash, and reduce it to the same size. -/
theorem SamePortfolio.can_afford (h : SamePortfolio index symbol c p) (s : Cpp.OrderSide)
    (quantity fill_price commission : ℚ) :
    p.can_afford (side s) quantity fill_price commission
      = c.can_afford s quantity fill_price commission := by
  cases s <;> simp [Portfolio.can_afford, Cpp.Portfolio.can_afford, side, h.cash]

theorem SamePortfolio.max_affordable_quantity (h : SamePortfolio index symbol c p)
    (fill_price commission_rate : ℚ) :
    p.max_affordable_quantity fill_price commission_rate
      = c.max_affordable_quantity fill_price commission_rate := by
  simp only [Portfolio.max_affordable_quantity, Cpp.Portfolio.max_affordable_quantity, h.cash,
    ite_not]

end Portfolios

/-! ## The loop variables -/

/-- `market` as the C++ loop builds it. -/
def market_at (i : ℕ) (bar : Cpp.Bar) : Cpp.MarketEvent :=
  ⟨i, bar.open_, bar.high, bar.low, bar.close, bar.volume⟩

@[simp] theorem close_market_at (i : ℕ) (bar : Bar) :
    (market_at i (extension_bar bar)).close = bar.close := rfl

namespace Cpp.RunState

/-- The fill of the waiting order at this bar, and the warnings issued. -/
def settlement (st : RunState) (config : SimulationConfig) (market : MarketEvent) :
    Option FillEvent × List ExecutionWarning :=
  match st.pending with
  | none => (none, [])
  | some order => fill_order order market config.price_field st.portfolio config

/-- Step 1 for an order that is scheduled for this bar. -/
def settle (st : RunState) (config : SimulationConfig) (i : ℕ) (market : MarketEvent) : RunState :=
  { st.book i (st.settlement config market).1 with
    pending := none
    warnings := st.warnings ++ (st.settlement config market).2 }

/-- Steps 1 and 2. -/
def observe (st : RunState) (config : SimulationConfig) (i : ℕ) (bar : Bar) : RunState :=
  (st.settle config i (market_at i bar)).mark i (market_at i bar)

/-- Booking touches the portfolio and the fills only. -/
theorem book_frame (st : RunState) (i : ℕ) (fill : Option FillEvent) :
    (st.book i fill).equity_curve = st.equity_curve ∧ (st.book i fill).exposure = st.exposure ∧
      (st.book i fill).orders = st.orders ∧ (st.book i fill).positions = st.positions ∧
      (st.book i fill).warnings = st.warnings := by
  cases fill <;> exact ⟨rfl, rfl, rfl, rfl, rfl⟩

theorem execute_pending_eq_ok {config : SimulationConfig} {i : ℕ} {market : MarketEvent}
    {st : RunState} (h : ∀ order ∈ st.pending, order.bar_index = market.bar_index) :
    execute_pending config i market st = .ok (st.settle config i market) := by
  obtain ⟨portfolio, pending, _⟩ := st
  cases pending with
  | none => simp [execute_pending, settle, settlement, book]
  | some order =>
    simp only [execute_pending, settle, settlement, execute, h order rfl, ne_eq, not_true, if_false,
      bind, Except.bind]

/-- The loop body, when the waiting order is scheduled for this bar. -/
def given_bar (n : ℕ) (targets : List ℚ) (reasons : List String) (config : SimulationConfig)
    (i : ℕ) (bar : Bar) (st : RunState) : RunState :=
  if i = n - 1 then st.observe config i bar
  else
    (st.observe config i bar).place i (targets.getD i 0)
      (if reasons.isEmpty then "" else reasons.getD i "")

theorem make_pending_order_bar {decision_bar execution_bar : ℕ} {delta : ℚ} {reason : String} :
    ∀ order ∈ make_pending_order decision_bar execution_bar delta reason,
      order.bar_index = execution_bar := by
  intro order horder
  unfold make_pending_order at horder
  by_cases hsmall : |delta| < kMinimumOrderQuantity
  · rw [if_pos hsmall] at horder
    cases horder
  · rw [if_neg hsmall] at horder
    obtain rfl := Option.some.inj horder
    rfl

theorem pending_given_bar {n : ℕ} {targets : List ℚ} {reasons : List String}
    {config : SimulationConfig} {i : ℕ} {bar : Bar} {st : RunState} :
    ∀ order ∈ (st.given_bar n targets reasons config i bar).pending, order.bar_index = i + 1 := by
  intro order horder
  unfold given_bar at horder
  by_cases hlast : i = n - 1
  · rw [if_pos hlast] at horder
    cases horder
  · rw [if_neg hlast] at horder
    exact make_pending_order_bar order horder

/-- The C++ loop never throws. -/
theorem run_bars_eq_ok (n : ℕ) (targets : List ℚ) (reasons : List String)
    (config : SimulationConfig) (bars : List Bar) (st : RunState) (hst : st.pending = none) :
    Loop.runE (run_bar n targets reasons config) 0 bars st
      = .ok (Loop.run (fun i bar st => st.given_bar n targets reasons config i bar) 0 bars st) := by
  refine Loop.runE_eq_ok (fun j st => ∀ order ∈ st.pending, order.bar_index = j) ?_
    (fun order horder => by rw [hst] at horder; cases horder)
  intro j bar st _ hsched
  rw [Nat.zero_add] at hsched ⊢
  refine ⟨?_, pending_given_bar⟩
  have hpending : execute_pending config j (market_at j bar) st
      = .ok (st.settle config j (market_at j bar)) := execute_pending_eq_ok hsched
  simp only [market_at] at hpending
  simp only [run_bar, hpending, bind, Except.bind, given_bar, observe, market_at]
  split_ifs <;> rfl

/-- Booking a fill pays for it out of the cash, not out of the initial cash. -/
theorem initial_cash_book (st : RunState) (i : ℕ) (fill : Option FillEvent) :
    (st.book i fill).portfolio.initial_cash = st.portfolio.initial_cash := by
  cases fill with
  | none => rfl
  | some fill => exact (take_fill_totals (st.portfolio.pay fill) fill i).1

theorem initial_cash_given_bar (n : ℕ) (targets : List ℚ) (reasons : List String)
    (config : SimulationConfig) (i : ℕ) (bar : Bar) (st : RunState) :
    (st.given_bar n targets reasons config i bar).portfolio.initial_cash
      = st.portfolio.initial_cash := by
  have hbook := st.initial_cash_book i (st.settlement config (market_at i bar)).1
  unfold given_bar
  split_ifs <;> exact hbook

/-- Closing out keeps the initial cash of the run. -/
theorem initial_cash_close_out (bars : List Bar) (config : SimulationConfig) (st : RunState) :
    (close_out bars config st).portfolio.initial_cash = st.portfolio.initial_cash := by
  unfold close_out
  split_ifs
  swap
  · rfl
  cases bars.getLast? with
  | none => rfl
  | some last =>
    simp only [liquidate]
    split_ifs
    · rfl
    · exact st.initial_cash_book _ _

end Cpp.RunState

/-- The same order, waiting for bar `i`. -/
structure SameOrder (symbol : String) (i : ℕ) (o : Cpp.OrderEvent) (order : OrderEvent) : Prop where
  bar_index : o.bar_index = i
  symbol : order.symbol = symbol
  side : order.side = cpp_engine.side o.side
  quantity : order.quantity = o.quantity
  reason : order.reason = o.reason

/-- The wrapper carries the C++ loop variables into the Python ones. -/
structure SameState (index : List Timestamp) (symbol : String) (i : ℕ) (c : Cpp.RunState)
    (st : LoopState Unit) : Prop where
  portfolio : SamePortfolio index symbol c.portfolio st.portfolio
  touched : i ≠ 0 → st.portfolio.positions.items = [st.portfolio.position symbol]
  pending : Option.Rel (SameOrder symbol i) c.pending st.pending
  equity_length : c.equity_curve.length = i
  exposure_length : c.exposure.length = i
  equity : st.equity_values = c.equity_curve
  exposure : st.exposure_values = c.exposure
  orders : c.orders.mapM (to_order index symbol) = .ok st.orders
  fills : c.fills.mapM (to_fill index symbol) = .ok st.fills
  positions : c.positions.mapM (to_position index symbol) = .ok st.positions
  warnings : c.warnings.mapM (to_warning index symbol) = .ok st.warnings

section State

variable {index : List Timestamp} {symbol : String} {config : BacktestConfig} {bar : Bar} {i : ℕ}
  {c : Cpp.RunState} {st : LoopState Unit}

theorem reference_price_eq (model : ExecutionModel) (bar : Bar) (i : ℕ) (symbol : String) :
    Cpp.reference_price_of (market_at i (extension_bar bar)) (price_field model)
      = model.price_of (bar.market symbol) := by
  cases model <;> rfl

/-- The warnings of the extension read as those of the Python engine. -/
theorem to_warning_skipped {t : Timestamp} (h : index[i]? = some t) (requested filled price : ℚ) :
    to_warning index symbol ⟨i, .SkippedBuy, requested, filled, price⟩
      = .ok (skipped_buy_warning t symbol requested price) := by
  simp only [to_warning, at_bar_eq_ok h, bind, Except.bind]

theorem to_warning_reduced {t : Timestamp} (h : index[i]? = some t) (requested filled price : ℚ) :
    to_warning index symbol ⟨i, .ReducedBuy, requested, filled, price⟩
      = .ok (reduced_buy_warning t symbol requested filled) := by
  simp only [to_warning, at_bar_eq_ok h, bind, Except.bind]

/-- Both engines turn an order into the same fill, with the same warnings. -/
theorem same_fill_order {o : Cpp.OrderEvent} {order : OrderEvent} {cp : Cpp.Portfolio}
    {p : Portfolio} (h : SameOrder symbol i o order) (hp : SamePortfolio index symbol cp p)
    (hbar : index[i]? = some bar.timestamp) :
    ((Cpp.fill_order o (market_at i (extension_bar bar)) (price_field config.execution_model) cp
        (extension_config config)).1.map (fill_at symbol bar.timestamp)
      = (fill_order order (bar.market symbol) p config).1) ∧
    (∀ fill ∈ (Cpp.fill_order o (market_at i (extension_bar bar))
        (price_field config.execution_model) cp (extension_config config)).1,
      fill.bar_index = i ∧ 0 < fill.quantity) ∧
    (Cpp.fill_order o (market_at i (extension_bar bar)) (price_field config.execution_model) cp
        (extension_config config)).2.mapM (to_warning index symbol)
      = .ok (fill_order order (bar.market symbol) p config).2 := by
  have hpos : 0 < o.quantity := h.quantity ▸ order.quantity_pos
  have hrate : (extension_costs config.cost_model).commission_bps / 10000
      = config.cost_model.commission_bps / BPS := rfl
  -- A sale is filled as it is; a buy may have to be reduced.
  cases ho : o.side with
  | Sell =>
    have hsell : order.side = .SELL := by rw [h.side, ho]; rfl
    have hs : cpp_engine.side .Sell = .SELL := rfl
    simp only [Cpp.fill_order, fill_order, ho, hsell, reference_price_eq _ _ _ symbol,
      extension_config, extension_fill_price, extension_commission, reduceCtorEq, false_and,
      if_false, hs]
    refine ⟨?_, ?_, rfl⟩
    · simp only [Option.map_some, fill_at, fill_of, Bar.market, hsell, h.symbol, h.quantity,
        h.reason, hs]
    · rintro fill ⟨⟩
      exact ⟨rfl, hpos⟩
  | Buy =>
    have hs : cpp_engine.side .Buy = .BUY := rfl
    have hbuy : order.side = .BUY := by rw [h.side, ho]; rfl
    have hafford := hp.can_afford .Buy
    rw [hs] at hafford
    simp only [Cpp.fill_order, fill_order, ho, hbuy, reference_price_eq _ _ _ symbol,
      extension_config, extension_fill_price, extension_commission, true_and, hs, fill_of,
      ← hafford, hrate, ← hp.max_affordable_quantity, h.quantity]
    generalize config.cost_model.fill_price (config.execution_model.price_of (bar.market symbol))
      .BUY = fill_price
    -- In full, not at all, or reduced: the same test in both engines.
    by_cases hcan : p.can_afford .BUY o.quantity fill_price
        (config.cost_model.commission (o.quantity * fill_price)) = true
    · simp only [hcan, not_true, if_false, if_true]
      refine ⟨?_, ?_, rfl⟩
      · simp only [Option.map_some, fill_at, hs, h.symbol, h.reason, Bar.market]
      · rintro fill ⟨⟩
        exact ⟨rfl, hpos⟩
    simp only [hcan, not_false_eq_true, if_true, if_false, Bool.false_eq_true]
    by_cases hnone : p.max_affordable_quantity fill_price (config.cost_model.commission_bps / BPS)
        ≤ 0
    · simp only [if_pos hnone]
      refine ⟨rfl, ?_, ?_⟩
      · rintro fill ⟨⟩
      · rw [h.symbol]
        exact mapM_singleton (to_warning_skipped hbar _ _ _)
    · simp only [if_neg hnone]
      refine ⟨?_, ?_, ?_⟩
      · simp only [Option.map_some, fill_at, hs, h.symbol, h.reason, Bar.market]
      · rintro fill ⟨⟩
        exact ⟨rfl, not_le.mp hnone⟩
      · rw [h.symbol]
        exact mapM_singleton (to_warning_reduced hbar _ _ _)

/-- Both engines settle the waiting order alike. -/
theorem SameState.settlement (h : SameState index symbol i c st) (config : BacktestConfig)
    (hbar : index[i]? = some bar.timestamp) :
    ((c.settlement (extension_config config) (market_at i (extension_bar bar))).1.map
        (fill_at symbol bar.timestamp) = (st.settlement config (bar.market symbol)).1) ∧
    (∀ fill ∈ (c.settlement (extension_config config) (market_at i (extension_bar bar))).1,
      fill.bar_index = i ∧ 0 < fill.quantity) ∧
    (c.settlement (extension_config config) (market_at i (extension_bar bar))).2.mapM
        (to_warning index symbol) = .ok (st.settlement config (bar.market symbol)).2 := by
  have hpending := h.pending
  unfold Cpp.RunState.settlement LoopState.settlement
  cases hc : c.pending with
  | none =>
    cases hst : st.pending with
    | none => exact ⟨rfl, by rintro fill ⟨⟩, rfl⟩
    | some order => rw [hc, hst] at hpending; cases hpending
  | some o =>
    cases hst : st.pending with
    | none => rw [hc, hst] at hpending; cases hpending
    | some order =>
      rw [hc, hst] at hpending
      cases hpending with
      | some hsame => exact same_fill_order hsame h.portfolio hbar

/-- Both engines book a fill alike. -/
theorem SameState.book (h : SameState index symbol i c st) {fill : Cpp.FillEvent}
    (hbar : index[i]? = some bar.timestamp) (hi : fill.bar_index = i) (hpos : 0 < fill.quantity)
    (j : ℕ) (hj : j = i) :
    SamePortfolio index symbol (c.book j (some fill)).portfolio
        (st.book j (some (fill_at symbol bar.timestamp fill))).portfolio ∧
      (c.book j (some fill)).fills.mapM (to_fill index symbol)
        = .ok (st.book j (some (fill_at symbol bar.timestamp fill))).fills ∧
      (st.book j (some (fill_at symbol bar.timestamp fill))).portfolio.positions.items
        = [(st.book j (some (fill_at symbol bar.timestamp fill))).portfolio.position symbol] := by
  subst hj
  have ht : index[fill.bar_index]? = some bar.timestamp := hi.symm ▸ hbar
  exact ⟨h.portfolio.apply_fill ht hi hpos, mapM_append_singleton h.fills (to_fill_eq_ok ht),
    items_apply_fill h.portfolio _ rfl⟩

/-- **Step lemma**: both engines observe a bar alike. -/
theorem SameState.observe (h : SameState index symbol i c st) (config : BacktestConfig)
    (hbar : index[i]? = some bar.timestamp) :
    SameState index symbol (i + 1) (c.observe (extension_config config) i (extension_bar bar))
      (st.observe symbol config i (bar.market symbol)) := by
  obtain ⟨hfill, hbars, hwarnings⟩ := h.settlement config hbar
  -- The states after the waiting order is booked.
  have hbooked : SamePortfolio index symbol
      (c.book i (c.settlement (extension_config config)
        (market_at i (extension_bar bar))).1).portfolio
      (st.book i (st.settlement config (bar.market symbol)).1).portfolio ∧
      (c.book i (c.settlement (extension_config config)
        (market_at i (extension_bar bar))).1).fills.mapM (to_fill index symbol)
        = .ok (st.book i (st.settlement config (bar.market symbol)).1).fills := by
    rw [← hfill]
    cases hc : (c.settlement (extension_config config) (market_at i (extension_bar bar))).1 with
    | none => exact ⟨h.portfolio, h.fills⟩
    | some fill =>
      obtain ⟨hi, hpos⟩ := hbars fill hc
      obtain ⟨hportfolio, hfills, -⟩ := h.book hbar hi hpos i rfl
      exact ⟨hportfolio, hfills⟩
  obtain ⟨hportfolio, hfills⟩ := hbooked
  obtain ⟨hcurve, hexposure, horders, hpositions, hwarned⟩ := c.book_frame i
    (c.settlement (extension_config config) (market_at i (extension_bar bar))).1
  have hposition := hportfolio.position
  have hequity := Portfolio.equity_single
    (st.book i (st.settlement config (bar.market symbol)).1).portfolio symbol bar.close
  rw [hportfolio.cash, hposition.quantity] at hequity
  constructor
  -- Marking stores the position, even a fresh one, and spends the order.
  · exact hportfolio.touch
  · exact fun _ => items_touch hportfolio
  · exact Option.Rel.none
  · simp [Cpp.RunState.observe, Cpp.RunState.settle, Cpp.RunState.mark, hcurve, h.equity_length]
  · simp [Cpp.RunState.observe, Cpp.RunState.settle, Cpp.RunState.mark, hexposure,
      h.exposure_length]
  · simp only [LoopState.observe, LoopState.settle, LoopState.mark, Cpp.RunState.observe,
      Cpp.RunState.settle, Cpp.RunState.mark, LoopState.equity_values_book, hcurve, h.equity,
      Bar.close_market, close_market_at]
    rw [hequity]
    rfl
  · simp only [LoopState.observe, LoopState.settle, LoopState.mark, Cpp.RunState.observe,
      Cpp.RunState.settle, Cpp.RunState.mark, LoopState.exposure_values_book, hexposure,
      h.exposure, Bar.close_market, close_market_at, ne_eq, ite_not, PositionState.market_value,
      Cpp.PositionState.market_value]
    rw [hequity, hposition.quantity]
  · simp only [LoopState.observe, LoopState.settle, LoopState.mark, Cpp.RunState.observe,
      Cpp.RunState.settle, Cpp.RunState.mark, LoopState.orders_book, horders]
    exact h.orders
  · exact hfills
  · simp only [LoopState.observe, LoopState.settle, LoopState.mark, Cpp.RunState.observe,
      Cpp.RunState.settle, Cpp.RunState.mark, LoopState.positions_book, hpositions]
    refine mapM_append_singleton h.positions ?_
    simp only [to_position, at_bar_eq_ok hbar, bind, Except.bind, PositionState.market_value,
      PositionState.unrealized_pnl, Cpp.PositionState.market_value,
      Cpp.PositionState.unrealized_pnl, hposition.quantity, hposition.average_price,
      hposition.realized_pnl, hportfolio.cash, Bar.close_market, close_market_at,
      Bar.timestamp_market]
  · simp only [LoopState.observe, LoopState.settle, LoopState.mark, Cpp.RunState.observe,
      Cpp.RunState.settle, Cpp.RunState.mark]
    exact mapM_append_ok h.warnings hwarnings

/-- Orders with the same data are equal; there is one order type. -/
theorem order_ext {a b : OrderEvent} (hdecision : a.decision_timestamp = b.decision_timestamp)
    (htimestamp : a.timestamp = b.timestamp) (hsymbol : a.symbol = b.symbol)
    (hside : a.side = b.side) (hquantity : a.quantity = b.quantity)
    (hreason : a.reason = b.reason) : a = b := by
  obtain ⟨_, _, _, _, _, type, _, _⟩ := a
  obtain ⟨_, _, _, _, _, type', _, _⟩ := b
  cases type
  cases type'
  simp only at hdecision htimestamp hsymbol hside hquantity hreason
  subst hdecision htimestamp hsymbol hside hquantity hreason
  rfl

/-- **Step lemma**: both engines place the same order. -/
theorem SameState.place (h : SameState index symbol i c st) {decision_bar : ℕ} {next : Bar}
    (hbar : index[decision_bar]? = some bar.timestamp) (hi : i = decision_bar + 1)
    (hnext : index[i]? = some next.timestamp) (target : ℚ) (reason : String) :
    SameState index symbol i (c.place decision_bar target reason)
      (st.place symbol (bar.market symbol) next.timestamp ((target, reason), ())) := by
  subst hi
  have hquantity : st.portfolio.quantity symbol = c.portfolio.position.quantity :=
    h.portfolio.position.quantity
  -- Both thresholds are the same, so both engines order or neither does.
  by_cases hsmall : |target - c.portfolio.position.quantity| < MINIMUM_ORDER
  · have hc : Cpp.make_pending_order decision_bar (decision_bar + 1)
        (target - c.portfolio.position.quantity) reason = none := if_pos hsmall
    have hst : pending_order bar.timestamp next.timestamp symbol
        (target - c.portfolio.position.quantity) reason = none := dif_pos hsmall
    refine { h with pending := ?_, orders := ?_ }
    · simp only [Cpp.RunState.place, LoopState.place, Bar.timestamp_market, hquantity, hc, hst]
      exact Option.Rel.none
    · simp only [Cpp.RunState.place, LoopState.place, Bar.timestamp_market, hquantity, hc, hst,
        Option.toList_none, List.append_nil]
      exact h.orders
  · have hc : Cpp.make_pending_order decision_bar (decision_bar + 1)
        (target - c.portfolio.position.quantity) reason
        = some ⟨decision_bar, decision_bar + 1,
            if target - c.portfolio.position.quantity > 0 then .Buy else .Sell,
            |target - c.portfolio.position.quantity|, reason⟩ := if_neg hsmall
    obtain ⟨order, hst⟩ := exists_pending_order (not_lt.mp hsmall) bar.timestamp next.timestamp
      symbol reason
    obtain ⟨hdecision, hexecution, hsymbol, hq, hreason, hside⟩ := pending_order_eq_some hst
    have hsides : order.side
        = side (if target - c.portfolio.position.quantity > 0 then .Buy else .Sell) := by
      rw [hside]
      split_ifs <;> rfl
    refine { h with pending := ?_, orders := ?_ }
    · simp only [Cpp.RunState.place, LoopState.place, Bar.timestamp_market, hquantity, hc, hst]
      exact Option.Rel.some ⟨rfl, hsymbol, hsides, hq, hreason⟩
    · simp only [Cpp.RunState.place, LoopState.place, Bar.timestamp_market, hquantity, hc, hst,
        Option.toList_some]
      refine mapM_append_singleton h.orders ?_
      have hpos : 0 < |target - c.portfolio.position.quantity| := hq ▸ order.quantity_pos
      simp only [to_order, at_bar_eq_ok hbar, at_bar_eq_ok hnext, bind, Except.bind, dif_pos hpos]
      refine congrArg Except.ok (order_ext ?_ ?_ ?_ ?_ ?_ ?_)
      · exact hdecision.symm
      · exact hexecution.symm
      · exact hsymbol.symm
      · exact hsides.symm
      · exact hq.symm
      · exact hreason.symm

/-- Both engines close the same position with the same fill. -/
theorem liquidation_fill_eq (config : BacktestConfig) {s : Cpp.PositionState} {p : PositionState}
    (h : SamePosition index symbol s p) (last : Bar) (last_index : ℕ) :
    liquidation_fill symbol last config p
      = fill_at symbol last.timestamp
          (Cpp.liquidation_fill (extension_bar last) last_index (extension_config config) s) := by
  have hside : (if s.quantity > 0 then OrderSide.SELL else .BUY)
      = side (if s.quantity > 0 then .Sell else .Buy) := by
    split_ifs <;> rfl
  simp only [liquidation_fill, Cpp.liquidation_fill, fill_at, extension_config,
    extension_fill_price, extension_commission, hside, h.quantity]
  rfl

theorem set_last {l : List ℚ} {n : ℕ} (h : l.length = n + 1) (x : ℚ) :
    l.set n x = l.dropLast ++ [x] := by
  obtain ⟨init, last, rfl⟩ := (List.eq_nil_or_concat' l).resolve_left
    (fun hnil => by simp [hnil] at h)
  have hn : init.length = n := by simpa using h
  rw [List.set_append_right n x hn.le, hn]
  simp

/-- **Step lemma**: both engines close out alike. -/
theorem SameState.finish {last : Bar} {n : ℕ} (h : SameState index symbol (n + 1) c st)
    (config : BacktestConfig) (hlast : index[n]? = some last.timestamp) {bars : List Cpp.Bar}
    (hbars : bars.getLast? = some (extension_bar last)) (hlen : bars.length = n + 1) :
    SameState index symbol (n + 1) (Cpp.close_out bars (extension_config config) c)
      (finish symbol config last (n + 1) st) := by
  by_cases hliq : config.liquidate_at_end = true
  swap
  · have hliq' : ¬ (extension_config config).liquidate_at_end = true := hliq
    simp only [Cpp.close_out, Quantora.finish, if_neg hliq, if_neg hliq']
    exact h
  have hliq' : (extension_config config).liquidate_at_end = true := hliq
  simp only [Cpp.close_out, Quantora.finish, if_pos hliq, if_pos hliq', hbars, hlen]
  have hflats := h.portfolio.position.is_flat
  -- Nothing to close: only the last point is rewritten.
  by_cases hflat : c.portfolio.position.is_flat = true
  · have hequity := Portfolio.equity_single st.portfolio symbol last.close
    rw [h.portfolio.cash, h.portfolio.position.quantity] at hequity
    simp only [Cpp.liquidate, liquidate, hflats, if_pos hflat, Nat.add_sub_cancel]
    refine { h with equity_length := ?_, exposure_length := ?_, equity := ?_, exposure := ?_ }
    · simp [h.equity_length]
    · simp [h.exposure_length]
    · rw [set_last h.equity_length, ← h.equity, hequity]
      rfl
    · rw [set_last h.exposure_length, ← h.exposure]
  · have hfill := liquidation_fill_eq config h.portfolio.position last n
    have hopen : 0 < (Cpp.liquidation_fill (extension_bar last) n (extension_config config)
        c.portfolio.position).quantity :=
      abs_pos.mpr (by simpa [Cpp.PositionState.is_flat] using hflat)
    have hbar : index[(Cpp.liquidation_fill (extension_bar last) n (extension_config config)
        c.portfolio.position).bar_index]? = some last.timestamp := hlast
    have hportfolio := h.portfolio.apply_fill hbar rfl hopen
    have hitems := items_apply_fill (i := n) h.portfolio (fill_at symbol last.timestamp
      (Cpp.liquidation_fill (extension_bar last) n (extension_config config)
        c.portfolio.position)) rfl
    have hequity := Portfolio.equity_single (st.portfolio.apply_fill (fill_at symbol last.timestamp
      (Cpp.liquidation_fill (extension_bar last) n (extension_config config)
        c.portfolio.position)) n) symbol last.close
    have hportfolio' : SamePortfolio index symbol _ (st.portfolio.apply_fill
      (fill_at symbol last.timestamp (Cpp.liquidation_fill (extension_bar last) n
        (extension_config config) c.portfolio.position)) n) := hportfolio
    rw [hportfolio'.cash, hportfolio'.position.quantity] at hequity
    simp only [Cpp.liquidate, liquidate, hflats, if_neg hflat, Nat.add_sub_cancel, hfill,
      Cpp.RunState.book, LoopState.book]
    exact
      { portfolio := hportfolio
        touched := fun _ => hitems
        pending := h.pending
        equity_length := by simp [h.equity_length]
        exposure_length := by simp [h.exposure_length]
        equity := by
          rw [set_last h.equity_length, ← h.equity, hequity]
          rfl
        exposure := by rw [set_last h.exposure_length, ← h.exposure]
        orders := h.orders
        fills := mapM_append_singleton h.fills (to_fill_eq_ok hbar)
        positions := h.positions
        warnings := h.warnings }

theorem sameState_start (index : List Timestamp) (symbol : String) (config : BacktestConfig) :
    SameState index symbol 0
      { portfolio := { initial_cash := config.initial_cash, cash := config.initial_cash } }
      (LoopState.start config ()) := by
  constructor
  · exact samePortfolio_new index symbol config.initial_cash
  · exact fun h => absurd rfl h
  · exact Option.Rel.none
  all_goals rfl

end State

/-! ## The run -/

section Run

variable {frame : List Bar} {targets : List ℚ} {reasons : Option (List String)}

/-- The reason that both engines record at bar `j`. -/
theorem given_reason_eq (hfit : TargetsFit frame targets reasons) {j : ℕ}
    (hj : j < frame.length) :
    (reasons.bind (·[j]?)).getD ""
      = if (reasons.getD []).isEmpty then "" else (reasons.getD []).getD j "" := by
  cases reasons with
  | none => rfl
  | some r =>
    have hlen : r.length = frame.length := hfit.reasons r rfl
    have hne : r.isEmpty = false := by
      rw [List.isEmpty_eq_false_iff, ← List.length_pos_iff]
      omega
    simp [hne, List.getD_eq_getElem?_getD]

/-- The whole C++ loop on arguments that fit. -/
def extension_run (config : BacktestConfig) (frame : List Bar) (targets : List ℚ)
    (reasons : Option (List String)) : Cpp.RunState :=
  Loop.run (fun i bar st => Cpp.RunState.given_bar frame.length targets (reasons.getD [])
    (extension_config config) i bar st) 0 (frame.map extension_bar)
    { portfolio := { initial_cash := config.initial_cash, cash := config.initial_cash } }

theorem initial_cash_extension_run (config : BacktestConfig) (frame : List Bar)
    (targets : List ℚ) (reasons : Option (List String)) :
    (extension_run config frame targets reasons).portfolio.initial_cash = config.initial_cash :=
  Loop.run_invariant
    (fun _ (st : Cpp.RunState) => st.portfolio.initial_cash = config.initial_cash)
    (fun _ _ _ _ hst => (Cpp.RunState.initial_cash_given_bar ..).trans hst) rfl

/-- The extension accepts what the wrapper hands it, and runs to the end. -/
theorem extension_simulate_targets_eq (hfit : TargetsFit frame targets reasons)
    (config : BacktestConfig) :
    Cpp.simulate_targets (frame.map extension_bar) targets (reasons.getD [])
        (extension_config config)
      = .ok (Cpp.close_out (frame.map extension_bar) (extension_config config)
          (extension_run config frame targets reasons)).result := by
  have hreasons : ¬ (¬ (reasons.getD []).isEmpty = true ∧
      (reasons.getD []).length ≠ frame.length) := by
    rintro ⟨hne, hlen⟩
    cases reasons with
    | none => exact hne rfl
    | some r => exact hlen (hfit.reasons r rfl)
  have hempty : ¬ (frame.map extension_bar).isEmpty = true := by simpa using hfit.bars
  have hcash : (extension_config config).initial_cash > 0 := config.initial_cash_pos
  have hrun := Cpp.RunState.run_bars_eq_ok frame.length targets (reasons.getD [])
    (extension_config config) (frame.map extension_bar)
    { portfolio := { initial_cash := config.initial_cash, cash := config.initial_cash } } rfl
  simp only [Cpp.simulate_targets, if_neg hempty, List.length_map, hfit.targets, ne_eq,
    not_true, if_false, if_neg hreasons, hcash]
  rw [show (extension_config config).initial_cash = config.initial_cash from rfl, hrun]
  rfl

/-- **Run lemma**: after every bar the two loops are in the same state. -/
theorem same_given_run (hfit : TargetsFit frame targets reasons) (symbol : String)
    (config : BacktestConfig) :
    SameState (frame.map Bar.timestamp) symbol frame.length
      (extension_run config frame targets reasons)
      (given_run symbol config frame targets reasons) := by
  have hsim := Loop.run_simulates (given_bar symbol config targets reasons)
    (fun i bar st => Cpp.RunState.given_bar frame.length targets (reasons.getD [])
      (extension_config config) i bar st)
    (fun step => extension_bar step.1) (Loop.withNext Bar.timestamp frame) 0
    (fun i st c => SameState (frame.map Bar.timestamp) symbol i c st) ?_
    (sameState_start (frame.map Bar.timestamp) symbol config)
  · have hbars : (Loop.withNext Bar.timestamp frame).map (fun step => extension_bar step.1)
        = frame.map extension_bar := by
      calc (Loop.withNext Bar.timestamp frame).map (fun step => extension_bar step.1)
          = ((Loop.withNext Bar.timestamp frame).map Prod.fst).map extension_bar := by
            rw [List.map_map]
            rfl
        _ = frame.map extension_bar := by rw [Loop.withNext_map_fst]
    rw [Loop.withNext_length, Nat.zero_add, hbars] at hsim
    exact hsim
  intro j step st c hstep hsame
  rw [Nat.zero_add] at hsame ⊢
  rw [Loop.withNext_getElem?] at hstep
  obtain ⟨bar, hbar, rfl⟩ := Option.map_eq_some_iff.mp hstep
  have hj : j < frame.length := (List.getElem?_eq_some_iff.mp hbar).1
  have hindex : (frame.map Bar.timestamp)[j]? = some bar.timestamp := by simp [hbar]
  have hobserved := hsame.observe config hindex
  cases hnext : frame[j + 1]? with
  | none =>
    have hlast : j = frame.length - 1 := by
      have := List.getElem?_eq_none_iff.mp hnext
      omega
    simp only [Option.map_none, given_bar, Cpp.RunState.given_bar, if_pos hlast]
    exact hobserved
  | some next =>
    have hmid : j ≠ frame.length - 1 := by
      have := (List.getElem?_eq_some_iff.mp hnext).1
      omega
    simp only [Option.map_some, given_bar, Cpp.RunState.given_bar, if_neg hmid, given_decision,
      given_reason_eq hfit hj, ← List.getD_eq_getElem?_getD]
    exact hobserved.place hindex rfl (by simp [hnext]) _ _

/-- The wrapper's output of a state that mirrors the Python one. -/
theorem SameState.to_simulation_output {index : List Timestamp} {symbol : String} {n : ℕ}
    {c : Cpp.RunState} {st : LoopState Unit} {config : BacktestConfig}
    (h : SameState index symbol (n + 1) c st)
    (hinitial : c.portfolio.initial_cash = config.initial_cash) (strategy : String) :
    cpp_engine.to_simulation_output c.result index symbol strategy config
      = .ok
          { symbol := symbol
            strategy := strategy
            equity_curve := index.zip st.equity_values
            positions := st.positions
            orders := st.orders
            fills := st.fills
            portfolio := st.portfolio
            signals := none
            warnings := st.warnings
            exposure := index.zip st.exposure_values } := by
  have hstate := h.portfolio.position.to_state_eq_ok
  have hpositions : (Portfolio.new config.initial_cash).positions.upsert
      (st.portfolio.position symbol) = st.portfolio.positions := by
    apply Keyed.ext
    rw [h.touched (Nat.succ_ne_zero n)]
    rfl
  simp only [cpp_engine.to_simulation_output, Cpp.RunState.result, hstate, h.portfolio.trades,
    h.warnings, h.positions, h.orders, h.fills, bind, Except.bind, hpositions, ← h.equity,
    ← h.exposure]
  have hcash := h.portfolio.cash
  have hinit := h.portfolio.initial_cash
  have hcommission := h.portfolio.total_commission
  have hslippage := h.portfolio.total_slippage
  have hnotional := h.portfolio.total_traded_notional
  rw [← hcash, ← hcommission, ← hslippage, ← hnotional, Portfolio.new, ← hinitial, ← hinit]

/-- **Main result**: over exact arithmetic, the engine through the extension
    returns what the Python engine returns, on every input; an error included. -/
theorem cpp_simulate_targets_eq (frame : List Bar) (targets : List ℚ) (symbol : String)
    (reasons : Option (List String)) (config : BacktestConfig) (strategy : String) :
    cpp_engine.simulate_targets frame targets symbol reasons config strategy
      = simulate_targets frame targets symbol reasons config strategy := by
  by_cases hbars : frame.isEmpty = true
  · simp only [cpp_engine.simulate_targets, simulate_targets, if_pos hbars]
  by_cases htargets : targets.length ≠ frame.length
  · simp only [cpp_engine.simulate_targets, simulate_targets, if_neg hbars, if_pos htargets]
  by_cases hreasons : ∃ r ∈ reasons, r.length ≠ frame.length
  · simp only [cpp_engine.simulate_targets, simulate_targets, if_neg hbars, if_neg htargets,
      if_pos hreasons]
  have hfit : TargetsFit frame targets reasons :=
    { bars := by simpa using hbars
      targets := not_not.mp htargets
      reasons := fun r hr => by
        by_contra hne
        exact hreasons ⟨r, hr, hne⟩ }
  obtain ⟨init, last, hframe⟩ := (List.eq_nil_or_concat' frame).resolve_left hfit.bars
  have hlast : frame.getLast? = some last := by simp [hframe]
  have hlength : frame.length = init.length + 1 := by simp [hframe]
  have hsame := same_given_run hfit symbol config
  rw [hlength] at hsame
  have hindex : (frame.map Bar.timestamp)[init.length]? = some last.timestamp := by simp [hframe]
  have hbars_last : (frame.map extension_bar).getLast? = some (extension_bar last) := by
    simp [hframe]
  have hbars_length : (frame.map extension_bar).length = init.length + 1 := by simp [hframe]
  have hfinish := hsame.finish config hindex hbars_last hbars_length
  rw [simulate_targets_eq hfit symbol config strategy hlast, hlength]
  have hcash := ((extension_run config frame targets reasons).initial_cash_close_out
    (frame.map extension_bar) (extension_config config)).trans
      (initial_cash_extension_run config frame targets reasons)
  have houtput := hfinish.to_simulation_output hcash strategy
  simp only [cpp_engine.simulate_targets, if_neg hbars, if_neg htargets, if_neg hreasons,
    extension_simulate_targets_eq hfit, Except.mapError, bind, Except.bind, houtput]
  rfl

end Run

end Quantora
