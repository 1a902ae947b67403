import Mathlib.Algebra.Order.BigOperators.Group.List
import Quantora.Backtest.Accounting

/-! # Reconciling the books with the cash

    A portfolio keeps two records of the same history: the cash, which every
    fill moves by `cash_delta`, and the ledger of positions and closed trades.
    `Booked` is the invariant that ties them together over any sequence of
    fills on any number of symbols:

    * cash plus the cost basis of what is held is the initial cash plus the
      gross PnL realized so far, less the commissions;
    * the costs of the trades and of the open positions are all commissions and
      all slippage, nothing lost and nothing charged twice;
    * every trade's net PnL is its gross PnL less its costs.

    The gross PnL is measured between *fill* prices, which already contain the
    slippage, while the costs contain the slippage once more. The net PnL
    therefore falls short of the money by exactly the slippage paid. -/

namespace Quantora

/-! ## Fills priced by a cost model -/

/-- An order of whole size, executed at a positive reference price under a
    valid cost model. -/
structure PricedFill where
  timestamp : Timestamp
  symbol : String
  side : OrderSide
  quantity : ℚ
  reference_price : ℚ
  cost_model : CostModel
  reason : String
  bar_index : ℕ
  whole : Whole quantity
  quantity_pos : 0 < quantity
  reference_pos : 0 < reference_price

namespace PricedFill

/-- The fill event the execution step builds from it. -/
def fill (f : PricedFill) : FillEvent where
  timestamp := f.timestamp
  symbol := f.symbol
  side := f.side
  quantity := f.quantity
  reference_price := f.reference_price
  fill_price := f.cost_model.fill_price f.reference_price f.side
  commission := f.cost_model.commission
    (f.quantity * f.cost_model.fill_price f.reference_price f.side)
  reason := f.reason

theorem slippage_cost_fill (f : PricedFill) :
    f.fill.slippage_cost = f.reference_price * f.cost_model.penalty * f.quantity := by
  rw [FillEvent.slippage_cost]
  simp only [fill]
  rw [f.cost_model.abs_fill_price_sub f.reference_pos.le]

theorem slippage_cost_nonneg (f : PricedFill) : 0 ≤ f.fill.slippage_cost := by
  rw [f.slippage_cost_fill]
  exact mul_nonneg (mul_nonneg f.reference_pos.le f.cost_model.penalty_nonneg) f.quantity_pos.le

theorem slippage_cost_eq_zero_iff (f : PricedFill) :
    f.fill.slippage_cost = 0 ↔ f.cost_model.slippage_bps = 0 ∧ f.cost_model.spread_bps = 0 := by
  rw [f.slippage_cost_fill, ← f.cost_model.penalty_eq_zero_iff]
  constructor
  · intro h
    rcases mul_eq_zero.mp h with h | h
    · exact (mul_eq_zero.mp h).resolve_left f.reference_pos.ne'
    · exact absurd h f.quantity_pos.ne'
  · intro h
    rw [h]
    ring

end PricedFill

namespace Portfolio

/-- `apply_fill`, for each fill in order. -/
def apply_fills (p : Portfolio) (fills : List PricedFill) : Portfolio :=
  fills.foldl (fun p f => p.apply_fill f.fill f.bar_index) p

/-- `apply_fill`, for each fill and the index of its bar, in order. -/
def apply_all (p : Portfolio) (fills : List (FillEvent × ℕ)) : Portfolio :=
  fills.foldl (fun p f => p.apply_fill f.1 f.2) p

@[simp] theorem apply_all_nil (p : Portfolio) : p.apply_all [] = p := rfl

theorem apply_all_append (p : Portfolio) (fills later : List (FillEvent × ℕ)) :
    p.apply_all (fills ++ later) = (p.apply_all fills).apply_all later :=
  List.foldl_append ..

theorem apply_fills_eq (p : Portfolio) (fills : List PricedFill) :
    p.apply_fills fills = p.apply_all (fills.map fun f => (f.fill, f.bar_index)) := by
  unfold apply_fills apply_all
  rw [List.foldl_map]

/-! ## The books -/

def open_costs (p : Portfolio) : ℚ := p.positions.total PositionState.open_costs

def basis (p : Portfolio) : ℚ := p.positions.total PositionState.basis

def gross_pnl (p : Portfolio) : ℚ := (p.trades.map Trade.gross_pnl).sum

def trade_costs (p : Portfolio) : ℚ := (p.trades.map Trade.costs).sum

def trade_pnl (p : Portfolio) : ℚ := (p.trades.map Trade.pnl).sum

/-- The books of a portfolio, tied to its cash and its cost totals. -/
structure Booked (p : Portfolio) : Prop where
  cash : p.cash + p.basis = p.initial_cash + p.gross_pnl - p.total_commission
  costs : p.open_costs + p.trade_costs = p.total_commission + p.total_slippage
  realized : p.realized_pnl = p.trade_pnl
  pnl : p.trade_pnl = p.gross_pnl - p.trade_costs
  sound : ∀ q ∈ p.positions.items, q.Sound

theorem booked_new (initial_cash : ℚ) : (new initial_cash).Booked := by
  constructor <;> simp [new, basis, gross_pnl, open_costs, trade_costs, realized_pnl, trade_pnl]

/-- The position looked up for a symbol carries that symbol. -/
@[simp] theorem position_symbol (p : Portfolio) (symbol : String) :
    (p.position symbol).symbol = symbol := by
  unfold position
  cases h : p.positions.get? symbol with
  | none => rfl
  | some q => exact Keyed.key_of_get? h

theorem Booked.position_sound {p : Portfolio} (h : p.Booked) (symbol : String) :
    (p.position symbol).Sound := by
  unfold position
  cases hget : p.positions.get? symbol with
  | none => exact PositionState.sound_fresh symbol
  | some q => exact h.sound q (Keyed.mem_of_get? hget)

/-- One fill moves a sum over the positions by the change at its own symbol. -/
theorem total_apply_fill (p : Portfolio) (fill : FillEvent) (bar_index : ℕ)
    (f : PositionState → ℚ) (h0 : f { symbol := fill.symbol } = 0)
    (hsym : ((p.position fill.symbol).take_fill fill bar_index).1.symbol = fill.symbol) :
    (p.apply_fill fill bar_index).positions.total f
      = p.positions.total f - f (p.position fill.symbol)
        + f ((p.position fill.symbol).take_fill fill bar_index).1 := by
  have htotal := p.positions.total_upsert ((p.position fill.symbol).take_fill fill bar_index).1 f
  rw [hsym] at htotal
  have hold : ((p.positions.get? fill.symbol).map f).getD 0 = f (p.position fill.symbol) := by
    unfold position
    cases p.positions.get? fill.symbol with
    | none => simp [h0]
    | some q => rfl
  rw [hold] at htotal
  have hstore : (p.apply_fill fill bar_index).positions
      = p.positions.upsert ((p.position fill.symbol).take_fill fill bar_index).1 := rfl
  rw [hstore]
  linarith

/-- **Step lemma**: a fill keeps the books. -/
theorem Booked.apply_fill {p : Portfolio} (h : p.Booked) (fill : FillEvent) (bar_index : ℕ)
    (hwhole : Whole fill.quantity) (hpos : 0 < fill.quantity) :
    (p.apply_fill fill bar_index).Booked := by
  have hs := PositionState.take_fill_settled (p.position fill.symbol) fill bar_index
    (h.position_sound fill.symbol) hwhole hpos
  have hsym := hs.symbol.trans (p.position_symbol fill.symbol)
  have hpnl : ((((p.position fill.symbol).take_fill fill bar_index).2).map Trade.pnl).sum
      + ((((p.position fill.symbol).take_fill fill bar_index).2).map Trade.costs).sum
      = ((((p.position fill.symbol).take_fill fill bar_index).2).map Trade.gross_pnl).sum := by
    rw [← List.sum_map_add]
    congr 1
    apply List.map_congr_left
    intro trade htrade
    rw [hs.pnl trade htrade, sub_add_cancel]
  constructor
  · have hb := p.total_apply_fill fill bar_index PositionState.basis (by simp [PositionState.basis])
      hsym
    have hcash := h.cash
    unfold basis at hcash ⊢
    rw [hb]
    simp only [Portfolio.apply_fill, gross_pnl, List.map_append, List.sum_append] at hcash ⊢
    have := hs.basis
    have := fill.cash_delta_eq
    linarith
  · have hc := p.total_apply_fill fill bar_index PositionState.open_costs rfl hsym
    have hcosts := h.costs
    unfold open_costs at hcosts ⊢
    rw [hc]
    simp only [Portfolio.apply_fill, trade_costs, List.map_append, List.sum_append] at hcosts ⊢
    have := hs.open_costs
    unfold FillEvent.total_cost at this
    linarith
  · have hr := p.total_apply_fill fill bar_index PositionState.realized_pnl rfl hsym
    have hreal := h.realized
    unfold realized_pnl at hreal ⊢
    rw [hr]
    simp only [Portfolio.apply_fill, trade_pnl, List.map_append, List.sum_append] at hreal ⊢
    have := hs.realized_pnl
    linarith
  · have hp := h.pnl
    simp only [Portfolio.apply_fill, trade_pnl, gross_pnl, trade_costs, List.map_append,
      List.sum_append] at hp ⊢
    linarith
  · intro q hq
    rcases Keyed.mem_upsert hq with rfl | ⟨hq, -⟩
    · exact hs.sound
    · exact h.sound q hq

/-- **Run lemma**: any sequence of whole fills keeps the books. -/
theorem Booked.apply_all {p : Portfolio} (h : p.Booked) {fills : List (FillEvent × ℕ)}
    (hfills : ∀ f ∈ fills, Whole f.1.quantity ∧ 0 < f.1.quantity) :
    (p.apply_all fills).Booked := by
  induction fills generalizing p with
  | nil => exact h
  | cons f fs ih =>
    obtain ⟨hwhole, hpos⟩ := hfills f List.mem_cons_self
    have hrest : ∀ g ∈ fs, Whole g.1.quantity ∧ 0 < g.1.quantity :=
      fun g hg => hfills g (List.mem_cons_of_mem f hg)
    exact ih (h.apply_fill f.1 f.2 hwhole hpos) hrest

theorem Booked.apply_fills {p : Portfolio} (h : p.Booked) (fills : List PricedFill) :
    (p.apply_fills fills).Booked := by
  rw [apply_fills_eq]
  apply h.apply_all
  intro f hf
  obtain ⟨g, -, rfl⟩ := List.mem_map.mp hf
  exact ⟨g.whole, g.quantity_pos⟩

/-! ## Marking to market -/

/-- Every open position is marked. -/
def Marked (p : Portfolio) (marks : Prices) : Prop :=
  ∀ q ∈ p.positions.items, q.quantity ≠ 0 → (marks q.symbol).isSome

theorem market_value_eq (p : Portfolio) {marks : Prices} (hmarks : p.Marked marks) :
    p.market_value marks = p.basis + p.unrealized_pnl marks := by
  unfold market_value basis unrealized_pnl Keyed.total
  rw [← List.sum_map_add]
  congr 1
  apply List.map_congr_left
  intro q hq
  cases hm : marks q.symbol with
  | some price => simp [q.unrealized_pnl_eq]
  | none =>
    have hflat : q.quantity = 0 := by
      by_contra hopen
      simpa [hm] using hmarks q hq hopen
    simp [PositionState.basis, hflat]

/-- Equity, in terms of the books: the ledger plus the slippage it counted twice. -/
theorem Booked.equity_eq {p : Portfolio} (h : p.Booked) {marks : Prices}
    (hmarks : p.Marked marks) :
    p.equity marks = p.initial_cash + p.realized_pnl + p.unrealized_pnl marks - p.open_costs
      + p.total_slippage := by
  have hmv := p.market_value_eq hmarks
  have hcash := h.cash
  have hcosts := h.costs
  have hreal := h.realized
  have hpnl := h.pnl
  unfold equity
  linarith

/-- Equity, from the cash side: the gross PnL and the commissions alone. -/
theorem Booked.equity_eq_gross {p : Portfolio} (h : p.Booked) {marks : Prices}
    (hmarks : p.Marked marks) :
    p.equity marks
      = p.initial_cash + p.gross_pnl + p.unrealized_pnl marks - p.total_commission := by
  have hmv := p.market_value_eq hmarks
  have hcash := h.cash
  unfold equity
  linarith

/-- The equity identity and its flat case: the trade ledger explains the money. -/
def Reconciles (p : Portfolio) : Prop :=
  (∀ marks : Prices, p.Marked marks →
    p.equity marks
      = p.initial_cash + p.realized_pnl + p.unrealized_pnl marks - p.open_costs) ∧
  ((∀ q ∈ p.positions.items, q.quantity = 0) → p.trade_pnl = p.cash - p.initial_cash)

/-- Booked portfolios reconcile exactly when no slippage has been paid. -/
theorem Booked.reconciles_iff {p : Portfolio} (h : p.Booked) :
    p.Reconciles ↔ p.total_slippage = 0 := by
  constructor
  · intro hrec
    have hmarks : p.Marked (fun _ => some 0) := fun _ _ _ => rfl
    have h₁ := hrec.1 _ hmarks
    have h₂ := h.equity_eq hmarks
    linarith
  · intro hslip
    refine ⟨fun marks hmarks => ?_, fun hflat => ?_⟩
    · have := h.equity_eq hmarks
      linarith
    · -- A flat portfolio has no basis and no open costs left.
      have hbasis : p.basis = 0 := by
        apply List.sum_eq_zero
        intro x hx
        obtain ⟨q, hq, rfl⟩ := List.mem_map.mp hx
        simp [PositionState.basis, hflat q hq]
      have hopen : p.open_costs = 0 := by
        apply List.sum_eq_zero
        intro x hx
        obtain ⟨q, hq, rfl⟩ := List.mem_map.mp hx
        exact (h.sound q hq).open_costs_of_flat (hflat q hq)
      have hcash := h.cash
      have hcosts := h.costs
      have hpnl := h.pnl
      linarith

/-! ## The slippage a run pays -/

theorem total_slippage_apply_fills (p : Portfolio) (fills : List PricedFill) :
    (p.apply_fills fills).total_slippage
      = p.total_slippage + (fills.map fun f => f.fill.slippage_cost).sum := by
  induction fills generalizing p with
  | nil => simp [apply_fills]
  | cons f fs ih =>
    have htail := ih (p.apply_fill f.fill f.bar_index)
    simp only [apply_fills, List.foldl_cons, List.map_cons, List.sum_cons] at htail ⊢
    rw [htail]
    simp only [Portfolio.apply_fill]
    ring

/-- A run pays no slippage exactly when none of its fills does. -/
theorem sum_slippage_eq_zero_iff (fills : List PricedFill) :
    (fills.map fun f => f.fill.slippage_cost).sum = 0
      ↔ ∀ f ∈ fills, f.cost_model.slippage_bps = 0 ∧ f.cost_model.spread_bps = 0 := by
  induction fills with
  | nil => simp
  | cons f fs ih =>
    have htail : 0 ≤ (fs.map fun f => f.fill.slippage_cost).sum := by
      apply List.sum_nonneg
      intro x hx
      obtain ⟨g, -, rfl⟩ := List.mem_map.mp hx
      exact g.slippage_cost_nonneg
    simp only [List.map_cons, List.sum_cons, List.forall_mem_cons]
    rw [← ih, ← f.slippage_cost_eq_zero_iff]
    exact add_eq_zero_iff_of_nonneg f.slippage_cost_nonneg htail

/-- **PnL reconciliation.** After any fills on any symbols, each priced by some
    valid cost model, the trade ledger explains the equity and the money gained
    or lost exactly when every fill was priced without slippage and without a
    spread. -/
theorem reconciles_iff_slippage_free (initial_cash : ℚ) (fills : List PricedFill) :
    ((new initial_cash).apply_fills fills).Reconciles
      ↔ ∀ f ∈ fills, f.cost_model.slippage_bps = 0 ∧ f.cost_model.spread_bps = 0 := by
  rw [((booked_new initial_cash).apply_fills fills).reconciles_iff, total_slippage_apply_fills,
    ← sum_slippage_eq_zero_iff]
  simp [new]

theorem ten_shares_pos : (0 : ℚ) < 10 := by norm_num

/-- A round trip of ten units at 100 under the default cost model. -/
def default_round_trip : List PricedFill :=
  [ { timestamp := 0, symbol := "RELIANCE.NS", side := .BUY, quantity := 10,
      reference_price := 100, cost_model := default, reason := "", bar_index := 1,
      whole := by decide, quantity_pos := ten_shares_pos, reference_pos := by norm_num },
    { timestamp := 1, symbol := "RELIANCE.NS", side := .SELL, quantity := 10,
      reference_price := 100, cost_model := default, reason := "", bar_index := 2,
      whole := by decide, quantity_pos := ten_shares_pos, reference_pos := by norm_num } ]

/-- The ledger books a loss of 3 where the round trip lost 1.8: the slippage of
    1.2 is counted once in the fill prices and once more in the trade's costs. -/
theorem default_round_trip_does_not_reconcile :
    ¬ ((new 100000).apply_fills default_round_trip).Reconciles := by
  intro h
  have hflat := h.2 (by decide +kernel)
  revert hflat
  decide +kernel

end Portfolio

end Quantora
