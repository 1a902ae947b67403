import Mathlib.Tactic.Linarith
import Mathlib.Tactic.Positivity
import Quantora.Backtest.Events

/-! # Costs and configuration

    `costs.py` and `config.py`: every assumption a backtest's numbers depend on
    other than the data. The checks of `__post_init__` are fields here, so a
    cost model or a configuration that exists is a valid one. -/

namespace Quantora

def BPS : ℚ := 10000

/-! ## The cost model -/

/-- What it costs to trade, in basis points of notional unless stated. -/
structure CostModel where
  commission_bps : ℚ := 3
  commission_min : ℚ := 0
  slippage_bps : ℚ := 5
  spread_bps : ℚ := 2
  commission_bps_nonneg : 0 ≤ commission_bps := by norm_num
  commission_min_nonneg : 0 ≤ commission_min := by norm_num
  slippage_bps_nonneg : 0 ≤ slippage_bps := by norm_num
  spread_bps_nonneg : 0 ≤ spread_bps := by norm_num
  deriving DecidableEq, Repr

namespace CostModel

/-- A frictionless model. Never a default. -/
def zero : CostModel where
  commission_bps := 0
  commission_min := 0
  slippage_bps := 0
  spread_bps := 0

/-- The adverse price move per side, as a fraction of the reference price. -/
def penalty (m : CostModel) : ℚ := (m.slippage_bps + m.spread_bps / 2) / BPS

/-- The price actually paid or received. Both sides are penalised. -/
def fill_price (m : CostModel) (reference_price : ℚ) (side : OrderSide) : ℚ :=
  reference_price * (1 + side.sign * m.penalty)

/-- Commission for one fill of the given notional. -/
def commission (m : CostModel) (notional : ℚ) : ℚ :=
  max m.commission_min (|notional| * m.commission_bps / BPS)

theorem penalty_nonneg (m : CostModel) : 0 ≤ m.penalty := by
  have h₁ := m.slippage_bps_nonneg
  have h₂ := m.spread_bps_nonneg
  unfold penalty BPS
  positivity

theorem penalty_eq_zero_iff (m : CostModel) :
    m.penalty = 0 ↔ m.slippage_bps = 0 ∧ m.spread_bps = 0 := by
  have h₁ := m.slippage_bps_nonneg
  have h₂ := m.spread_bps_nonneg
  unfold penalty BPS
  constructor
  · intro h
    have hsum : m.slippage_bps + m.spread_bps / 2 = 0 := by linarith
    exact ⟨by linarith, by linarith⟩
  · rintro ⟨h, h'⟩
    rw [h, h']
    norm_num

theorem commission_nonneg (m : CostModel) (notional : ℚ) : 0 ≤ m.commission notional :=
  le_max_of_le_left m.commission_min_nonneg

@[simp] theorem zero_penalty : zero.penalty = 0 :=
  (penalty_eq_zero_iff zero).mpr ⟨rfl, rfl⟩

@[simp] theorem zero_fill_price (reference_price : ℚ) (side : OrderSide) :
    zero.fill_price reference_price side = reference_price := by
  simp [fill_price]

@[simp] theorem zero_commission (notional : ℚ) : zero.commission notional = 0 := by
  simp [commission, zero]

/-- The gap a fill pays against its reference price: the penalty, on either side. -/
theorem abs_fill_price_sub (m : CostModel) {reference_price : ℚ} (h : 0 ≤ reference_price)
    (side : OrderSide) :
    |m.fill_price reference_price side - reference_price| = reference_price * m.penalty := by
  have hgap : m.fill_price reference_price side - reference_price
      = side.sign * (reference_price * m.penalty) := by
    unfold fill_price
    ring
  rw [hgap, abs_mul, side.abs_sign, one_mul, abs_of_nonneg (mul_nonneg h m.penalty_nonneg)]

/-- The signed form of the same gap: a buy pays more, a sell receives less. -/
theorem fill_price_eq (m : CostModel) (reference_price : ℚ) (side : OrderSide) :
    m.fill_price reference_price side
      = reference_price + side.sign * (reference_price * m.penalty) := by
  unfold fill_price
  ring

theorem fill_price_pos (m : CostModel) {reference_price : ℚ} (h : 0 < reference_price)
    (hpen : m.penalty < 1) (side : OrderSide) : 0 < m.fill_price reference_price side := by
  have hnn := m.penalty_nonneg
  unfold fill_price
  apply mul_pos h
  cases side <;> simp only [OrderSide.sign_BUY, OrderSide.sign_SELL] <;> push_cast <;> linarith

end CostModel

/-- `CostModel()`. -/
instance : Inhabited CostModel := ⟨{}⟩

/-! ## The backtest configuration -/

/-- When an order created at a bar's close is allowed to fill. -/
inductive ExecutionModel where
  | NEXT_BAR_OPEN
  | NEXT_BAR_CLOSE
  deriving DecidableEq, Repr

/-- `getattr(market, price_field)`: the price an order is benchmarked against. -/
def ExecutionModel.price_of (model : ExecutionModel) (market : MarketEvent) : ℚ :=
  match model with
  | .NEXT_BAR_OPEN => market.open_
  | .NEXT_BAR_CLOSE => market.close

/-- Everything that affects a backtest's numbers, other than the data. -/
structure BacktestConfig where
  initial_cash : ℚ := 1000000
  cost_model : CostModel := {}
  execution_model : ExecutionModel := .NEXT_BAR_OPEN
  allow_short : Bool := false
  liquidate_at_end : Bool := true
  risk_free_rate : ℚ := 0
  initial_cash_pos : 0 < initial_cash := by norm_num
  risk_free_rate_ge : -1 ≤ risk_free_rate := by norm_num
  risk_free_rate_le : risk_free_rate ≤ 1 := by norm_num
  deriving Repr

/-- `BacktestConfig()`. -/
instance : Inhabited BacktestConfig := ⟨{}⟩

def TRADING_DAYS_PER_YEAR : ℚ := 252

/-- Used to annualise; an unknown interval is treated as daily. -/
def BacktestConfig.periods_per_year (interval : String) : ℚ :=
  match interval with
  | "1d" => TRADING_DAYS_PER_YEAR
  | "1wk" => 52
  | "1mo" => 12
  | "1h" => TRADING_DAYS_PER_YEAR * (25 / 4)
  | "30m" => TRADING_DAYS_PER_YEAR * (25 / 2)
  | "15m" => TRADING_DAYS_PER_YEAR * 25
  | "5m" => TRADING_DAYS_PER_YEAR * 75
  | _ => TRADING_DAYS_PER_YEAR

theorem BacktestConfig.periods_per_year_pos (interval : String) :
    0 < BacktestConfig.periods_per_year interval := by
  unfold BacktestConfig.periods_per_year TRADING_DAYS_PER_YEAR
  split <;> norm_num

/-- The bars of a month are the longest. -/
theorem BacktestConfig.le_periods_per_year (interval : String) :
    12 ≤ BacktestConfig.periods_per_year interval := by
  unfold BacktestConfig.periods_per_year TRADING_DAYS_PER_YEAR
  split <;> norm_num

/-- There are at most 75 bars in a trading day. -/
theorem BacktestConfig.periods_per_year_le (interval : String) :
    BacktestConfig.periods_per_year interval ≤ 18900 := by
  unfold BacktestConfig.periods_per_year TRADING_DAYS_PER_YEAR
  split <;> norm_num

end Quantora
