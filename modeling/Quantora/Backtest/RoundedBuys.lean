import Quantora.Python.Rounded
import Quantora.Backtest.Affordability

/-! # Buys as the machine rounds them

    The cash pays for a whole number of units, so a last digit can decide over
    one of them. Here `_execute` is computed with `fl` in place of every exact
    result: the float that the machine makes of it.

    * `Machine.execute` — `_execute` for any `fl`.
    * `Machine.execute_exact` — when `fl` changes nothing, this is `execute`.
    * `Machine.rounded_buy_maximal_iff` — with the nearest float for `fl`, when a
      constrained buy is as large as the cash allows. -/

namespace Quantora

namespace Machine

/-! ## The execution of an order -/

section Execution

variable (fl : Python.Float → Python.Float)

/-- `CostModel.fill_price`. -/
def fill_price (m : CostModel) (reference_price : Python.Float) (side : OrderSide) :
    Python.Float :=
  let half_spread := fl ((Python.Float.num m.spread_bps).div (.num 2))
  let penalty := fl ((fl ((Python.Float.num m.slippage_bps).add half_spread)).div (.num BPS))
  fl (reference_price.mul (fl ((Python.Float.num 1).add (fl ((Python.Float.num side.sign).mul
    penalty)))))

/-- `CostModel.commission`. -/
def commission (m : CostModel) (notional : Python.Float) : Python.Float :=
  (Python.Float.num m.commission_min).max
    (fl ((fl (notional.abs.mul (.num m.commission_bps))).div (.num BPS)))

/-- `Portfolio.can_afford`. -/
def can_afford (p : Portfolio) (side : OrderSide) (quantity : ℚ)
    (fill_price commission : Python.Float) : Bool :=
  match side with
  | .SELL => true
  | .BUY => (fl ((fl ((Python.Float.num quantity).mul fill_price)).add commission)).le (.num p.cash)

/-- What one unit costs with its proportional commission. -/
def per_unit (fill_price commission_rate : Python.Float) : Python.Float :=
  fl (fill_price.mul (fl ((Python.Float.num 1).add commission_rate)))

/-- `Portfolio.max_affordable_quantity`. An infinite quotient has no integer. -/
def max_affordable_quantity (p : Portfolio) (fill_price commission_rate : Python.Float) :
    Except Python.PyError ℚ :=
  if fill_price.le (.num 0) then .ok 0
  else if (Python.Float.num 0).lt (per_unit fl fill_price commission_rate) then do
    let quantity ← (fl ((Python.Float.num p.cash).div
      (per_unit fl fill_price commission_rate))).truncate
    .ok quantity
  else .ok 0

/-- A `FillEvent` with the prices of the machine. -/
structure Fill where
  timestamp : Timestamp
  symbol : String
  side : OrderSide
  quantity : ℚ
  reference_price : Python.Float
  fill_price : Python.Float
  commission : Python.Float
  reason : String
  deriving DecidableEq

def Fill.of_exact (fill : FillEvent) : Fill where
  timestamp := fill.timestamp
  symbol := fill.symbol
  side := fill.side
  quantity := fill.quantity
  reference_price := .num fill.reference_price
  fill_price := .num fill.fill_price
  commission := .num fill.commission
  reason := fill.reason

/-- The price of an order at a bar. -/
def price_of (side : OrderSide) (market : MarketEvent) (config : BacktestConfig) : Python.Float :=
  fill_price fl config.cost_model (.num (config.execution_model.price_of market)) side

/-- The commission of `quantity` units at a price. -/
def commission_of (config : BacktestConfig) (price : Python.Float) (quantity : ℚ) :
    Python.Float :=
  commission fl config.cost_model (fl ((Python.Float.num quantity).mul price))

def fill_of (order : OrderEvent) (market : MarketEvent) (config : BacktestConfig)
    (quantity : ℚ) : Fill where
  timestamp := market.timestamp
  symbol := order.symbol
  side := order.side
  quantity := quantity
  reference_price := .num (config.execution_model.price_of market)
  fill_price := price_of fl order.side market config
  commission := commission_of fl config (price_of fl order.side market config) quantity
  reason := order.reason

def skipped_buy_warning (timestamp : Timestamp) (symbol : String) (quantity : ℚ)
    (fill_price : Python.Float) : String :=
  Python.date timestamp ++ ": skipped a buy of " ++ Python.fmt_g quantity ++ " " ++ symbol
    ++ " — insufficient cash at " ++ fill_price.fmt_2f ++ "."

/-- `config.cost_model.commission_bps / 10_000.0`. -/
def commission_rate (config : BacktestConfig) : Python.Float :=
  fl ((Python.Float.num config.cost_model.commission_bps).div (.num BPS))

/-- `_execute`. -/
def execute (order : OrderEvent) (market : MarketEvent) (portfolio : Portfolio)
    (config : BacktestConfig) : Except Python.PyError (Option Fill × List String) :=
  if order.timestamp ≠ market.timestamp then
    .error (.AssertionError ("order scheduled for " ++ Python.str_timestamp order.timestamp
      ++ " reached bar " ++ Python.str_timestamp market.timestamp))
  else
    let full := fill_of fl order market config order.quantity
    match order.side with
    | .SELL => .ok (some full, [])
    | .BUY =>
      if can_afford fl portfolio order.side order.quantity full.fill_price full.commission then
        .ok (some full, [])
      else do
        let affordable ← max_affordable_quantity fl portfolio full.fill_price
          (commission_rate fl config)
        if affordable ≤ 0 then
          .ok (none,
            [skipped_buy_warning market.timestamp order.symbol order.quantity full.fill_price])
        else
          .ok (some (fill_of fl order market config affordable),
            [reduced_buy_warning market.timestamp order.symbol order.quantity affordable])

/-- The cash pays for a buy of `quantity` units and its commission. -/
def affords (market : MarketEvent) (portfolio : Portfolio) (config : BacktestConfig)
    (quantity : ℚ) : Bool :=
  can_afford fl portfolio .BUY quantity (price_of fl .BUY market config)
    (commission_of fl config (price_of fl .BUY market config) quantity)

/-- What a unit costs at a bar. -/
def unit_cost (market : MarketEvent) (config : BacktestConfig) : Python.Float :=
  per_unit fl (price_of fl .BUY market config) (commission_rate fl config)

/-- The quotient that is truncated. -/
def quotient (market : MarketEvent) (portfolio : Portfolio) (config : BacktestConfig) :
    Python.Float :=
  (Python.Float.num portfolio.cash).div (unit_cost Python.Float.rounded market config)

end Execution

/-! ## Without rounding -/

section Exact

variable {m : CostModel}

theorem BPS_ne_zero : BPS ≠ 0 := by norm_num [BPS]

theorem fill_price_exact (price : ℚ) (side : OrderSide) :
    fill_price id m (.num price) side = .num (m.fill_price price side) := by
  simp only [fill_price, id, Python.Float.num_div_num two_ne_zero, Python.Float.add,
    Python.Float.num_div_num BPS_ne_zero, Python.Float.mul]
  rfl

theorem commission_exact (notional : ℚ) :
    commission id m (.num notional) = .num (m.commission notional) := by
  simp only [commission, id, Python.Float.abs, Python.Float.mul,
    Python.Float.num_div_num BPS_ne_zero, Python.Float.max, Python.Float.lt,
    CostModel.commission, decide_eq_true_eq]
  rcases lt_or_ge m.commission_min (|notional| * m.commission_bps / BPS) with hlt | hge
  · rw [if_pos hlt, max_eq_right hlt.le]
  · rw [if_neg hge.not_gt, max_eq_left hge]

theorem max_affordable_quantity_exact (p : Portfolio) (price rate : ℚ) :
    max_affordable_quantity id p (.num price) (.num rate)
      = .ok (p.max_affordable_quantity price rate) := by
  simp only [max_affordable_quantity, Portfolio.max_affordable_quantity, per_unit, id,
    Python.Float.add, Python.Float.mul, Python.Float.le, Python.Float.lt, decide_eq_true_eq,
    gt_iff_lt]
  by_cases hprice : price ≤ 0
  · rw [if_pos hprice, if_pos hprice]
  rw [if_neg hprice, if_neg hprice]
  by_cases hunit : 0 < price * (1 + rate)
  · rw [if_pos hunit, if_pos hunit, Python.Float.div, if_neg hunit.ne']
    rfl
  · rw [if_neg hunit, if_neg hunit]

theorem fill_of_exact (order : OrderEvent) (market : MarketEvent) (config : BacktestConfig)
    (quantity : ℚ) :
    fill_of id order market config quantity
      = Fill.of_exact (Quantora.fill_of order market config quantity) := by
  have hprice : price_of id order.side market config
      = .num (Quantora.fill_of order market config quantity).fill_price :=
    fill_price_exact _ _
  simp only [fill_of, commission_of, hprice]
  simp only [id, Python.Float.mul, commission_exact]
  rfl

/-- **Refinement**: where the results are floats already, `_execute` is the
    `execute` of the loop. -/
theorem execute_exact (order : OrderEvent) (market : MarketEvent) (portfolio : Portfolio)
    (config : BacktestConfig) :
    execute id order market portfolio config
      = (Quantora.execute order market portfolio config).map
          (fun outcome => (outcome.1.map Fill.of_exact, outcome.2)) := by
  have hrate : commission_rate id config = .num (config.cost_model.commission_bps / BPS) :=
    Python.Float.num_div_num BPS_ne_zero
  unfold execute Quantora.execute
  by_cases htime : order.timestamp ≠ market.timestamp
  · rw [if_pos htime, if_pos htime]
    rfl
  rw [if_neg htime, if_neg htime]
  simp only [Except.map, fill_order, fill_of_exact, hrate]
  cases hside : order.side with
  | SELL => rfl
  | BUY =>
    have hafford : can_afford id portfolio .BUY order.quantity
        (Fill.of_exact (Quantora.fill_of order market config order.quantity)).fill_price
        (Fill.of_exact (Quantora.fill_of order market config order.quantity)).commission
          = portfolio.can_afford .BUY order.quantity
              (Quantora.fill_of order market config order.quantity).fill_price
              (Quantora.fill_of order market config order.quantity).commission := rfl
    simp only [hafford]
    by_cases hfull : portfolio.can_afford .BUY order.quantity
        (Quantora.fill_of order market config order.quantity).fill_price
        (Quantora.fill_of order market config order.quantity).commission
    · rw [if_pos hfull, if_pos hfull]
      rfl
    rw [if_neg hfull, if_neg hfull]
    have hquantity := max_affordable_quantity_exact portfolio
      (Quantora.fill_of order market config order.quantity).fill_price
      (config.cost_model.commission_bps / BPS)
    have hquantity : max_affordable_quantity id portfolio
        (Fill.of_exact (Quantora.fill_of order market config order.quantity)).fill_price
        (.num (config.cost_model.commission_bps / BPS)) = _ := hquantity
    rw [hquantity]
    show (if _ then _ else _) = Except.ok _
    split_ifs
    · rfl
    · rfl

end Exact

/-! ## With the nearest float -/

section Rounded

variable {order : OrderEvent} {market : MarketEvent} {portfolio : Portfolio}
  {config : BacktestConfig}

/-- A cost is not negative, and zero only adds nothing. -/
theorem le_one_add {x : Python.Float} (hx : (Python.Float.num 0).le x = true) :
    (Python.Float.num 1).le ((Python.Float.num 1).add x).rounded = true := by
  have hone : (Python.Float.num 1).rounded = .num 1 := by decide +kernel
  have hle := Python.Float.rounded_le (Python.Float.num_add_le (le_refl (1 : ℚ)) hx)
  rwa [show (Python.Float.num 1).add (.num 0) = .num 1 by rw [Python.Float.add, add_zero],
    hone] at hle

/-- Costs in basis points, as a share. -/
theorem zero_le_share {x : Python.Float} (hx : (Python.Float.num 0).le x = true) :
    (Python.Float.num 0).le (x.div (.num BPS)).rounded = true := by
  have hbps : (0 : ℚ) < BPS := by norm_num [BPS]
  have hle := Python.Float.rounded_le (Python.Float.div_le_div hbps hx)
  rwa [Python.Float.num_div_num BPS_ne_zero, zero_div, Python.Float.rounded_zero] at hle

variable (hprice : 0 < config.execution_model.price_of market)
  (hfloat : Binary64.round (config.execution_model.price_of market)
    = config.execution_model.price_of market)

include hprice hfloat

/-- A buyer pays at least the price of the bar. -/
theorem le_price_of : (Python.Float.num (config.execution_model.price_of market)).le
    (price_of Python.Float.rounded .BUY market config) = true := by
  have hspread : (Python.Float.num 0).le
      ((Python.Float.num config.cost_model.spread_bps).div (.num 2)).rounded = true := by
    have hle := Python.Float.rounded_le (Python.Float.div_le_div two_pos
      (Python.Float.num_le_num.mpr config.cost_model.spread_bps_nonneg))
    rwa [Python.Float.num_div_num two_ne_zero, zero_div, Python.Float.rounded_zero] at hle
  have hsum : (Python.Float.num 0).le ((Python.Float.num config.cost_model.slippage_bps).add
      ((Python.Float.num config.cost_model.spread_bps).div (.num 2)).rounded).rounded = true := by
    have hle := Python.Float.rounded_le
      (Python.Float.num_add_le config.cost_model.slippage_bps_nonneg hspread)
    rwa [show (Python.Float.num 0).add (.num 0) = .num 0 by rw [Python.Float.add, add_zero],
      Python.Float.rounded_zero] at hle
  -- The sign of a buy is one.
  have hpenalty : ∀ {x : Python.Float}, (Python.Float.num 0).le x = true →
      (Python.Float.num 0).le
        ((Python.Float.num ((OrderSide.BUY.sign : ℤ) : ℚ)).mul x).rounded = true := by
    intro x hx
    have hsign : (Python.Float.num ((OrderSide.BUY.sign : ℤ) : ℚ)).mul x = x := by
      rw [OrderSide.sign_BUY, Int.cast_one, Python.Float.one_mul]
    rw [hsign]
    have hle := Python.Float.rounded_le hx
    rwa [Python.Float.rounded_zero] at hle
  have hfactor := le_one_add (hpenalty (zero_le_share hsum))
  have hscaled := Python.Float.rounded_le (Python.Float.le_mul_of_one_le
    (Python.Float.num_lt_num.mpr hprice) hfactor)
  exact Python.Float.le_trans (Python.Float.le_rounded_self hprice hfloat) hscaled

theorem price_of_pos :
    (Python.Float.num 0).lt (price_of Python.Float.rounded .BUY market config) = true :=
  Python.Float.zero_lt_of_le (Python.Float.num_lt_num.mpr hprice) (le_price_of hprice hfloat)

/-- And a unit costs at least that. -/
theorem unit_cost_pos :
    (Python.Float.num 0).lt (unit_cost Python.Float.rounded market config) = true := by
  have hrate : (Python.Float.num 0).le (commission_rate Python.Float.rounded config) = true :=
    zero_le_share (Python.Float.num_le_num.mpr config.cost_model.commission_bps_nonneg)
  have hcost := Python.Float.le_mul_of_one_le (price_of_pos hprice hfloat) (le_one_add hrate)
  have hrounded := Python.Float.rounded_le
    (Python.Float.le_trans (le_price_of hprice hfloat) hcost)
  exact Python.Float.zero_lt_of_le (Python.Float.num_lt_num.mpr hprice)
    (Python.Float.le_trans (Python.Float.le_rounded_self hprice hfloat) hrounded)

omit hprice hfloat in
/-- A larger notional has no smaller cost. -/
theorem cost_mono {x y : ℚ} (hx : 0 ≤ x) (hxy : x ≤ y) :
    ((Python.Float.num x).add
        (commission Python.Float.rounded config.cost_model (.num x))).rounded.le
      ((Python.Float.num y).add
        (commission Python.Float.rounded config.cost_model (.num y))).rounded = true := by
  have hbps : (0 : ℚ) < BPS := by norm_num [BPS]
  have hproduct : ((Python.Float.num x).abs.mul (.num config.cost_model.commission_bps)).le
      ((Python.Float.num y).abs.mul (.num config.cost_model.commission_bps)) = true := by
    refine decide_eq_true (mul_le_mul_of_nonneg_right ?_ config.cost_model.commission_bps_nonneg)
    rwa [abs_of_nonneg hx, abs_of_nonneg (hx.trans hxy)]
  have hshare := Python.Float.rounded_le
    (Python.Float.div_le_div hbps (Python.Float.rounded_le hproduct))
  exact Python.Float.rounded_le (Python.Float.num_add_le hxy (Python.Float.max_le_max hshare))

omit hprice hfloat in
/-- An infinite notional is not paid for. -/
theorem cost_inf {c : ℚ} : ((Python.Float.inf false).add
    (commission Python.Float.rounded config.cost_model (.inf false))).rounded.le (.num c)
      = false := by
  have hmin : (Python.Float.num config.cost_model.commission_min).le
      (commission Python.Float.rounded config.cost_model (.inf false)) = true :=
    Python.Float.le_max_left
  cases hvalue : commission Python.Float.rounded config.cost_model (.inf false) with
  | nan =>
    rw [hvalue] at hmin
    cases hmin
  | inf s =>
    rw [hvalue] at hmin
    obtain rfl : s = false := by simpa [Python.Float.le] using hmin
    rfl
  | num x => rfl

/-- What is paid for has a notional that is a number. -/
theorem exists_notional {n : ℚ} (hn : 0 < n)
    (h : affords Python.Float.rounded market portfolio config n = true) :
    ∃ x, ((Python.Float.num n).mul
        (price_of Python.Float.rounded .BUY market config)).rounded = .num x ∧ 0 ≤ x := by
  have hnonneg : (Python.Float.num 0).le ((Python.Float.num n).mul
      (price_of Python.Float.rounded .BUY market config)).rounded = true := by
    have hle := Python.Float.rounded_le (Python.Float.zero_le_mul
      (Python.Float.num_lt_num.mpr hn) (price_of_pos hprice hfloat))
    rwa [Python.Float.rounded_zero] at hle
  unfold affords can_afford commission_of at h
  cases hvalue : ((Python.Float.num n).mul
      (price_of Python.Float.rounded .BUY market config)).rounded with
  | nan =>
    rw [hvalue] at hnonneg
    cases hnonneg
  | inf s =>
    rw [hvalue] at hnonneg h
    obtain rfl : s = false := by simpa [Python.Float.le] using hnonneg
    rw [cost_inf] at h
    cases h
  | num x =>
    rw [hvalue] at hnonneg
    exact ⟨x, rfl, of_decide_eq_true hnonneg⟩

/-- What is paid for is paid for in part. -/
theorem affords_mono {n m : ℚ} (hn : 0 < n) (hnm : n ≤ m)
    (h : affords Python.Float.rounded market portfolio config m = true) :
    affords Python.Float.rounded market portfolio config n = true := by
  obtain ⟨y, hy, -⟩ := exists_notional hprice hfloat (hn.trans_le hnm) h
  have hproduct := Python.Float.rounded_le (Python.Float.mul_le_mul
    (price_of_pos hprice hfloat)
    (Python.Float.num_lt_num.mpr hn) (Python.Float.num_lt_num.mpr (hn.trans_le hnm))
    (Python.Float.num_le_num.mpr hnm))
  have hnonneg := Python.Float.rounded_le (Python.Float.zero_le_mul
    (Python.Float.num_lt_num.mpr hn) (price_of_pos hprice hfloat))
  rw [Python.Float.rounded_zero] at hnonneg
  rw [hy] at hproduct
  obtain ⟨x, hx, hx0, hxy⟩ := Python.Float.exists_num_of_le hnonneg hproduct
  unfold affords can_afford commission_of at h ⊢
  rw [hy] at h
  rw [hx]
  exact Python.Float.le_trans (cost_mono hx0 hxy) h

/-- Nothing is paid for without cash. -/
theorem cash_nonneg_of_affords {n : ℚ} (hn : 0 < n)
    (h : affords Python.Float.rounded market portfolio config n = true) :
    0 ≤ portfolio.cash := by
  obtain ⟨x, hx, hx0⟩ := exists_notional hprice hfloat hn h
  unfold affords can_afford commission_of at h
  rw [hx] at h
  have hmin : (Python.Float.num config.cost_model.commission_min).le
      (commission Python.Float.rounded config.cost_model (.num x)) = true :=
    Python.Float.le_max_left
  have hcost := Python.Float.rounded_le (Python.Float.num_add_le hx0
    (Python.Float.le_trans
      (Python.Float.num_le_num.mpr config.cost_model.commission_min_nonneg) hmin))
  rw [show (Python.Float.num 0).add (.num 0) = .num 0 by rw [Python.Float.add, add_zero],
    Python.Float.rounded_zero] at hcost
  exact of_decide_eq_true (Python.Float.le_trans hcost h)

omit hprice hfloat in
theorem execute_filled (hbuy : order.side = .BUY) (htime : order.timestamp = market.timestamp)
    (hfull : affords Python.Float.rounded market portfolio config order.quantity = true) :
    execute Python.Float.rounded order market portfolio config
      = .ok (some (fill_of Python.Float.rounded order market config order.quantity), []) := by
  rw [execute, if_neg (not_not_intro htime)]
  simp only [fill_of, hbuy]
  exact if_pos hfull

/-- **Inversion**: a buy that is not paid for in full fails on an infinite
    quotient, is skipped, or is cut to the truncated quotient. -/
theorem execute_constrained_cases (hbuy : order.side = .BUY)
    (htime : order.timestamp = market.timestamp)
    (hlack : affords Python.Float.rounded market portfolio config order.quantity = false) :
    ((∀ r, (quotient market portfolio config).rounded ≠ .num r) ∧
      ∃ error, execute Python.Float.rounded order market portfolio config = .error error) ∨
    ∃ r, (quotient market portfolio config).rounded = .num r ∧
      ((Python.truncate r ≤ 0 ∧ ∃ warning,
          execute Python.Float.rounded order market portfolio config = .ok (none, [warning])) ∨
        (0 < Python.truncate r ∧ ∃ warning,
          execute Python.Float.rounded order market portfolio config
            = .ok (some (fill_of Python.Float.rounded order market config (Python.truncate r)),
                [warning]))) := by
  have hpos := price_of_pos hprice hfloat
  have hunit := unit_cost_pos hprice hfloat
  have hquantity : max_affordable_quantity Python.Float.rounded portfolio
      (price_of Python.Float.rounded .BUY market config)
      (commission_rate Python.Float.rounded config) = (do
        let quantity ← (quotient market portfolio config).rounded.truncate
        .ok (quantity : ℚ)) := by
    rw [max_affordable_quantity, (Python.Float.zero_lt_iff.mp hpos).2]
    exact if_pos hunit
  have hlack : ¬ can_afford Python.Float.rounded portfolio .BUY order.quantity
      (price_of Python.Float.rounded .BUY market config)
      (commission_of Python.Float.rounded config
        (price_of Python.Float.rounded .BUY market config) order.quantity) = true := by
    rw [show can_afford _ _ _ _ _ _ = false from hlack]
    decide
  rw [execute, if_neg (not_not_intro htime)]
  simp only [fill_of, hbuy]
  rw [if_neg hlack, hquantity]
  cases hvalue : (quotient market portfolio config).rounded with
  | nan =>
    refine .inl ⟨?_, _, rfl⟩
    intro r h
    cases h
  | inf s =>
    refine .inl ⟨?_, _, rfl⟩
    intro r h
    cases h
  | num r =>
    refine .inr ⟨r, rfl, ?_⟩
    show (_ ∧ ∃ warning, (if (Python.truncate r : ℚ) ≤ 0 then _ else _) = _) ∨
      (_ ∧ ∃ warning, (if (Python.truncate r : ℚ) ≤ 0 then _ else _) = _)
    rcases le_or_gt (Python.truncate r) 0 with hnone | hsome
    · have hle : (Python.truncate r : ℚ) ≤ 0 := by exact_mod_cast hnone
      exact .inl ⟨hnone, _, if_pos hle⟩
    · have hlt : ¬ (Python.truncate r : ℚ) ≤ 0 := by exact_mod_cast not_le.mpr hsome
      exact .inr ⟨hsome, _, if_neg hlt⟩

/-- With cash, the quotient is not negative. -/
theorem zero_le_quotient {n : ℕ} (hn : 0 < n)
    (hpaid : affords Python.Float.rounded market portfolio config n = true) :
    (Python.Float.num 0).le (quotient market portfolio config).rounded = true := by
  have hnpos : (0 : ℚ) < n := by exact_mod_cast hn
  have hle := Python.Float.rounded_le (Python.Float.zero_le_div
    (cash_nonneg_of_affords hprice hfloat hnpos hpaid) (unit_cost_pos hprice hfloat))
  rwa [Python.Float.rounded_zero] at hle

/-- Nothing is lost in the truncated quotient exactly when one unit more is not
    paid for. -/
theorem survives_iff {r : ℚ} (hvalue : (quotient market portfolio config).rounded = .num r) :
    (∀ n : ℕ, 0 < n → affords Python.Float.rounded market portfolio config n = true → n ≤ r) ↔
      affords Python.Float.rounded market portfolio config ((Python.truncate r).toNat + 1)
        = false := by
  have habove : r < (Python.truncate r).toNat + 1 := by
    refine (lt_truncate_add_one r).trans_le ?_
    have hself : ((Python.truncate r : ℤ) : ℚ) ≤ ((Python.truncate r).toNat : ℤ) := by
      exact_mod_cast Int.self_le_toNat (Python.truncate r)
    exact add_le_add_left hself 1
  constructor
  · intro hle
    by_contra hpaid
    have hmore := hle ((Python.truncate r).toNat + 1) (Nat.succ_pos _)
      (by exact_mod_cast Bool.not_eq_false _ ▸ hpaid)
    exact absurd habove (by exact_mod_cast not_lt.mpr hmore)
  · intro hlack n hn hpaid
    by_contra hlt
    have hquotient := zero_le_quotient hprice hfloat hn hpaid
    rw [hvalue] at hquotient
    have hr : 0 ≤ r := of_decide_eq_true hquotient
    have htruncate : Python.truncate r = ⌊r⌋ := if_pos hr
    have hbelow : (Python.truncate r).toNat + 1 ≤ n := by
      have hfloor : (⌊r⌋ : ℚ) < (n : ℤ) :=
        (Int.floor_le r).trans_lt (by exact_mod_cast not_le.mp hlt)
      have hfloor : ⌊r⌋ < n := by exact_mod_cast hfloor
      have hnonneg := Int.floor_nonneg.mpr hr
      omega
    have hmore := affords_mono hprice hfloat (n := (Python.truncate r).toNat + 1) (by positivity)
      (by exact_mod_cast hbelow) hpaid
    rw [hlack] at hmore
    cases hmore

/-- **Main result**: a constrained buy is as large as the cash allows exactly when
    every number of units that the cash pays for survives the division: the cash
    over the unit cost is at most half a step below it. -/
theorem rounded_buy_maximal_iff (hbuy : order.side = .BUY) :
    ((∀ fill warnings,
        execute Python.Float.rounded order market portfolio config = .ok (some fill, warnings) →
        (fill.quantity ≠ order.quantity ∨ warnings ≠ []) →
        affords Python.Float.rounded market portfolio config (fill.quantity + 1) = false) ∧
      (∀ warnings,
        execute Python.Float.rounded order market portfolio config = .ok (none, warnings) →
        affords Python.Float.rounded market portfolio config 1 = false)) ↔
    (order.timestamp = market.timestamp →
      affords Python.Float.rounded market portfolio config order.quantity = false →
      ∀ n : ℕ, 0 < n → affords Python.Float.rounded market portfolio config n = true →
        (quotient market portfolio config).Reaches (.num n)) := by
  by_cases htime : order.timestamp = market.timestamp
  swap
  · have herror : ∀ outcome,
        execute Python.Float.rounded order market portfolio config ≠ .ok outcome := by
      intro outcome hexecute
      rw [execute, if_pos htime] at hexecute
      cases hexecute
    exact iff_of_true ⟨fun _ _ h => absurd h (herror _), fun _ h => absurd h (herror _)⟩
      fun h => absurd h htime
  cases hfull : affords Python.Float.rounded market portfolio config order.quantity with
  | true =>
    -- Filled in full, and quietly.
    have hexecute := execute_filled hbuy htime hfull
    refine iff_of_true ⟨?_, ?_⟩ fun _ h => absurd h (by decide)
    · intro fill warnings h hreduced
      rw [hexecute] at h
      obtain ⟨rfl, rfl⟩ := h
      rcases hreduced with h | h
      · exact absurd rfl h
      · exact absurd rfl h
    · intro warnings h
      rw [hexecute] at h
      cases h
  | false =>
    have hreach : ∀ n : ℕ, 0 < n → ((quotient market portfolio config).Reaches (.num n) ↔
        (Python.Float.num n).le (quotient market portfolio config).rounded = true) := by
      intro n hn
      have hnpos : (0 : ℚ) < n := by exact_mod_cast hn
      exact (Python.Float.le_rounded_iff (Python.Float.num_lt_num.mpr hnpos)).symm
    rcases execute_constrained_cases hprice hfloat hbuy htime hfull with
      ⟨hinf, error, hexecute⟩ | ⟨r, hvalue, hcases⟩
    · -- The quotient is infinite, and reaches everything.
      refine iff_of_true ⟨fun _ _ h => ?_, fun _ h => ?_⟩ fun _ _ n hn hpaid => ?_
      · rw [hexecute] at h
        cases h
      · rw [hexecute] at h
        cases h
      · rw [hreach n hn]
        have hquotient := zero_le_quotient hprice hfloat hn hpaid
        cases hvalue : (quotient market portfolio config).rounded with
        | nan =>
          rw [hvalue] at hquotient
          cases hquotient
        | inf s =>
          rw [hvalue] at hquotient
          exact hquotient
        | num r => exact absurd hvalue (hinf r)
    · have hcondition : (order.timestamp = market.timestamp → false = false →
          ∀ n : ℕ, 0 < n → affords Python.Float.rounded market portfolio config n = true →
            (quotient market portfolio config).Reaches (.num n)) ↔
          affords Python.Float.rounded market portfolio config ((Python.truncate r).toNat + 1)
            = false := by
        rw [← survives_iff hprice hfloat hvalue]
        constructor
        · intro h n hn hpaid
          have hle := (hreach n hn).mp (h htime rfl n hn hpaid)
          rw [hvalue] at hle
          exact Python.Float.num_le_num.mp hle
        · intro h _ _ n hn hpaid
          rw [hreach n hn, hvalue]
          exact Python.Float.num_le_num.mpr (h n hn hpaid)
      rw [hcondition]
      rcases hcases with ⟨hnone, warning, hexecute⟩ | ⟨hsome, warning, hexecute⟩
      · -- Skipped: not one unit.
        rw [Int.toNat_of_nonpos hnone, Nat.cast_zero, zero_add]
        constructor
        · intro h
          exact h.2 _ hexecute
        · intro hlack
          refine ⟨fun _ _ h => ?_, fun _ _ => hlack⟩
          rw [hexecute] at h
          cases h
      · -- Cut: not one unit more.
        have hcast : ((Python.truncate r).toNat : ℚ) = Python.truncate r := by
          exact_mod_cast Int.toNat_of_nonneg hsome.le
        rw [hcast]
        constructor
        · intro h
          exact h.1 _ _ hexecute (.inr (List.cons_ne_nil _ _))
        · intro hlack
          refine ⟨fun fill warnings h _ => ?_, fun _ h => ?_⟩
          · rw [hexecute] at h
            obtain ⟨rfl, rfl⟩ := h
            exact hlack
          · rw [hexecute] at h
            cases h

end Rounded

/-! ## A unit that is lost -/

theorem nine_percent_nonneg : (0 : ℚ) ≤ 900 := by norm_num

/-- A commission of nine percent and nothing else. -/
def nine_percent : BacktestConfig :=
  { (default : BacktestConfig) with
    cost_model := { CostModel.zero with
      commission_bps := 900, commission_bps_nonneg := nine_percent_nonneg } }

theorem two_units_pos : (0 : ℚ) < 2 := by norm_num

def buy_two : OrderEvent :=
  { buy_nine with quantity := 2, quantity_pos := two_units_pos }

/-- The law and its condition on nine units at 8. A cash of 50 and the default
    costs cut the buy to six of them, and a seventh is not paid for. -/
theorem rounded_buy_maximal_on_nine :
    ((execute Python.Float.rounded buy_nine (flat_day 8) (Portfolio.new 50) default).toOption.any
        (fun outcome => outcome.1.any (fun fill => fill.quantity = 6)) = true ∧
      affords Python.Float.rounded (flat_day 8) (Portfolio.new 50) default 7 = false) ∧
    (((∀ fill warnings,
        execute Python.Float.rounded buy_nine (flat_day 8) (Portfolio.new 50) default
          = .ok (some fill, warnings) →
        (fill.quantity ≠ buy_nine.quantity ∨ warnings ≠ []) →
        affords Python.Float.rounded (flat_day 8) (Portfolio.new 50) default (fill.quantity + 1)
          = false) ∧
      (∀ warnings,
        execute Python.Float.rounded buy_nine (flat_day 8) (Portfolio.new 50) default
          = .ok (none, warnings) →
        affords Python.Float.rounded (flat_day 8) (Portfolio.new 50) default 1 = false)) ↔
    (buy_nine.timestamp = (flat_day 8).timestamp →
      affords Python.Float.rounded (flat_day 8) (Portfolio.new 50) default buy_nine.quantity
        = false →
      ∀ n : ℕ, 0 < n →
        affords Python.Float.rounded (flat_day 8) (Portfolio.new 50) default n = true →
          (quotient (flat_day 8) (Portfolio.new 50) default).Reaches (.num n))) :=
  ⟨by decide +kernel, rounded_buy_maximal_iff (by decide +kernel) (by decide +kernel) rfl⟩

/-- With a cash of 109 and a price of 100 one unit costs 109, commission included,
    and is paid for. But `109.0 / (100.0 * 1.09)` is less than one, and a buy of two
    units is skipped. -/
theorem one_unit_lost :
    buy_two.side = .BUY ∧ Whole buy_two.quantity ∧
      0 < nine_percent.execution_model.price_of (flat_day 100) ∧
      Binary64.round (nine_percent.execution_model.price_of (flat_day 100))
        = nine_percent.execution_model.price_of (flat_day 100) ∧
      (∃ warnings,
        execute Python.Float.rounded buy_two (flat_day 100) (Portfolio.new 109) nine_percent
          = .ok (none, warnings)) ∧
      affords Python.Float.rounded (flat_day 100) (Portfolio.new 109) nine_percent 1 = true := by
  refine ⟨rfl, by decide +kernel, by decide +kernel, by decide +kernel, ?_, by decide +kernel⟩
  obtain ⟨outcome, hexecute, hobserved⟩ := Outcome.exists_of_any
    (show (execute Python.Float.rounded buy_two (flat_day 100) (Portfolio.new 109)
      nine_percent).toOption.any (fun outcome => outcome.1.isNone) = true by decide +kernel)
  exact ⟨outcome.2, by rw [hexecute, ← Option.isNone_iff_eq_none.mp hobserved]⟩

end Machine

end Quantora
