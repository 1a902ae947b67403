import Quantora.Backtest.LongOnly
import Quantora.Backtest.Solvency
import Quantora.Backtest.Whole

/-! # What the cash pays for

    A buy that the cash cannot pay in full is reduced to the affordable quantity,
    or skipped when not even one unit is affordable.

    * `fill_order_buy_cases` — the three things a buy can become.
    * `constrained_buy_maximal` — a reduced buy could not be one unit larger, and a
      skipped one could not be a single unit. The machine rounds the quotient, and
      may lose a unit: see `Machine.rounded_buy_maximal_iff`.
    * `constrained_buy_iff` — a buy neither overspends nor overfills, as long as
      the minimum commission never decides: whatever number of units the cash pays
      for with the proportional commission, it pays for with the minimum too. -/

namespace Quantora

/-! ## Prices and costs of a buy -/

section Buy

variable {order : OrderEvent} {market : MarketEvent} {portfolio : Portfolio}
  {config : BacktestConfig}

/-- What one unit costs before commission. -/
def buy_price (config : BacktestConfig) (market : MarketEvent) : ℚ :=
  config.cost_model.fill_price (config.execution_model.price_of market) .BUY

/-- What `quantity` units cost, commission included. -/
def buy_cost (config : BacktestConfig) (market : MarketEvent) (quantity : ℚ) : ℚ :=
  quantity * buy_price config market
    + config.cost_model.commission (quantity * buy_price config market)

/-- The proportional commission. -/
def commission_rate (config : BacktestConfig) : ℚ := config.cost_model.commission_bps / BPS

/-- The quantity a constrained buy is reduced to. -/
def affordable (config : BacktestConfig) (market : MarketEvent) (portfolio : Portfolio) : ℚ :=
  portfolio.max_affordable_quantity (buy_price config market) (commission_rate config)

theorem commission_rate_nonneg (config : BacktestConfig) : 0 ≤ commission_rate config := by
  have := config.cost_model.commission_bps_nonneg
  unfold commission_rate BPS
  positivity

/-- A unit with its proportional commission costs something. -/
theorem unit_cost_pos (hprice : 0 < buy_price config market) :
    0 < buy_price config market * (1 + commission_rate config) := by
  have hrate := commission_rate_nonneg config
  positivity

/-- Buying never gets cheaper than the bar. -/
theorem buy_price_pos (hprice : 0 < config.execution_model.price_of market) :
    0 < buy_price config market := by
  have hpenalty := config.cost_model.penalty_nonneg
  unfold buy_price CostModel.fill_price
  simp only [OrderSide.sign_BUY]
  push_cast
  positivity

/-- The commission is the larger of the minimum and the share. -/
theorem buy_cost_eq {quantity : ℚ} (hquantity : 0 ≤ quantity)
    (hprice : 0 < buy_price config market) :
    buy_cost config market quantity
      = max (quantity * buy_price config market + config.cost_model.commission_min)
          (quantity * (buy_price config market * (1 + commission_rate config))) := by
  have hnotional : 0 ≤ quantity * buy_price config market := mul_nonneg hquantity hprice.le
  rw [buy_cost, CostModel.commission, abs_of_nonneg hnotional, ← max_add_add_left]
  congr 1
  unfold commission_rate
  ring

theorem cash_apply_buy (hbuy : order.side = .BUY) (quantity : ℚ) (i : ℕ) :
    (portfolio.apply_fill (fill_of order market config quantity) i).cash
      = portfolio.cash - buy_cost config market quantity := by
  show portfolio.cash + (fill_of order market config quantity).cash_delta = _
  simp only [FillEvent.cash_delta, FillEvent.notional, fill_of, hbuy, OrderSide.sign_BUY,
    buy_cost, buy_price]
  push_cast
  ring

/-- **Inversion**: a buy is filled in full, skipped or reduced. -/
theorem fill_order_buy_cases (hbuy : order.side = .BUY) :
    (buy_cost config market order.quantity ≤ portfolio.cash ∧
      fill_order order market portfolio config
        = (some (fill_of order market config order.quantity), [])) ∨
    (portfolio.cash < buy_cost config market order.quantity ∧
      affordable config market portfolio ≤ 0 ∧
      ∃ warning, fill_order order market portfolio config = (none, [warning])) ∨
    (portfolio.cash < buy_cost config market order.quantity ∧
      0 < affordable config market portfolio ∧
      ∃ warning, fill_order order market portfolio config
        = (some (fill_of order market config (affordable config market portfolio)),
            [warning])) := by
  have hprice : (fill_of order market config order.quantity).fill_price
      = buy_price config market := by simp [fill_of, hbuy, buy_price]
  have hcommission : (fill_of order market config order.quantity).commission
      = config.cost_model.commission (order.quantity * buy_price config market) := by
    simp [fill_of, hbuy, buy_price]
  simp only [fill_order, hbuy, hprice, hcommission, Portfolio.can_afford]
  -- The two tests of the source: the order in full, then a positive quantity.
  by_cases hfull : buy_cost config market order.quantity ≤ portfolio.cash
  · have hafford : portfolio.cash ≥ order.quantity * buy_price config market
        + config.cost_model.commission (order.quantity * buy_price config market) := hfull
    rw [if_pos (decide_eq_true hafford)]
    exact Or.inl ⟨hfull, rfl⟩
  · have hafford : ¬ (portfolio.cash ≥ order.quantity * buy_price config market
        + config.cost_model.commission (order.quantity * buy_price config market)) := hfull
    rw [if_neg (by simpa using hafford)]
    by_cases hnone : affordable config market portfolio ≤ 0
    · have hskip : portfolio.max_affordable_quantity (buy_price config market)
          (config.cost_model.commission_bps / BPS) ≤ 0 := hnone
      rw [if_pos hskip]
      exact Or.inr (Or.inl ⟨not_le.mp hfull, hnone, _, rfl⟩)
    · have hreduce : ¬ portfolio.max_affordable_quantity (buy_price config market)
          (config.cost_model.commission_bps / BPS) ≤ 0 := hnone
      rw [if_neg hreduce]
      exact Or.inr (Or.inr ⟨not_le.mp hfull, not_le.mp hnone, _, rfl⟩)

/-! ## The affordable quantity -/

/-- Truncation toward zero never loses a whole unit. -/
theorem lt_truncate_add_one (x : ℚ) : x < Python.truncate x + 1 := by
  unfold Python.truncate
  by_cases hx : 0 ≤ x
  · rw [if_pos hx]
    exact Int.lt_floor_add_one x
  · rw [if_neg hx]
    have := Int.le_ceil x
    linarith

/-- One unit more than the affordable quantity is too much, whatever the cash is. -/
theorem lt_affordable_succ (portfolio : Portfolio) (hprice : 0 < buy_price config market) :
    portfolio.cash < (affordable config market portfolio + 1)
      * (buy_price config market * (1 + commission_rate config)) := by
  have hunit := unit_cost_pos hprice
  have hquotient := lt_truncate_add_one
    (portfolio.cash / (buy_price config market * (1 + commission_rate config)))
  simp only [affordable, Portfolio.max_affordable_quantity, if_neg (not_le.mpr hprice),
    gt_iff_lt, if_pos hunit]
  rwa [div_lt_iff₀ hunit] at hquotient

/-- So no more units are paid for, even with the proportional commission only. -/
theorem lt_affordable_add_one {quantity : ℚ} (hprice : 0 < buy_price config market)
    (hpaid : quantity * (buy_price config market * (1 + commission_rate config))
      ≤ portfolio.cash) : quantity < affordable config market portfolio + 1 :=
  lt_of_mul_lt_mul_right (hpaid.trans_lt (lt_affordable_succ portfolio hprice))
    (unit_cost_pos hprice).le

/-- A quantity costs at least its proportional commission. -/
theorem proportional_le_buy_cost {quantity : ℚ} (hquantity : 0 ≤ quantity)
    (hprice : 0 < buy_price config market) :
    quantity * (buy_price config market * (1 + commission_rate config))
      ≤ buy_cost config market quantity := by
  rw [buy_cost_eq hquantity hprice]
  exact le_max_right _ _

/-- Whatever is a unit more than the affordable quantity is not paid for. -/
theorem lt_buy_cost_of_more {quantity : ℚ} (hprice : 0 < buy_price config market)
    (hquantity : 0 ≤ quantity) (hmore : affordable config market portfolio + 1 ≤ quantity) :
    portfolio.cash < buy_cost config market quantity := by
  by_contra hpaid
  have hproportional := (proportional_le_buy_cost hquantity hprice).trans (not_lt.mp hpaid)
  exact absurd (lt_affordable_add_one hprice hproportional) hmore.not_gt

end Buy

/-! ## The minimum commission -/

/-- The minimum commission never decides: it can be paid for any number of units
    that the cash pays for with the proportional commission. -/
def MinimumCovered (config : BacktestConfig) (market : MarketEvent) (portfolio : Portfolio) :
    Prop :=
  ∀ k : ℕ, 1 ≤ k →
    k * (buy_price config market * (1 + commission_rate config)) ≤ portfolio.cash →
    k * buy_price config market + config.cost_model.commission_min ≤ portfolio.cash

section Minimum

variable {order : OrderEvent} {market : MarketEvent} {portfolio : Portfolio}
  {config : BacktestConfig}

/-- The affordable quantity is a number of units. -/
theorem exists_nat_affordable (hpos : 0 < affordable config market portfolio) :
    ∃ k : ℕ, 1 ≤ k ∧ affordable config market portfolio = k := by
  obtain ⟨z, hz⟩ := whole_iff.mp
    (whole_max_affordable_quantity portfolio (buy_price config market) (commission_rate config))
  have hz : affordable config market portfolio = z := hz
  have hzpos : 0 < z := by
    rw [hz] at hpos
    exact_mod_cast hpos
  refine ⟨z.toNat, by omega, ?_⟩
  rw [hz]
  exact_mod_cast (Int.toNat_of_nonneg hzpos.le).symm

/-- It is paid for exactly when the minimum is covered. -/
theorem affordable_paid_iff (hcash : 0 ≤ portfolio.cash) (hprice : 0 < buy_price config market)
    (hpos : 0 < affordable config market portfolio) :
    buy_cost config market (affordable config market portfolio) ≤ portfolio.cash ↔
      MinimumCovered config market portfolio := by
  have hle := Portfolio.affordable_cost_le hcash hprice (commission_rate_nonneg config)
  have hle : affordable config market portfolio
      * (buy_price config market * (1 + commission_rate config)) ≤ portfolio.cash := hle
  rw [buy_cost_eq hpos.le hprice, max_le_iff, and_iff_left hle]
  constructor
  · intro hpaid k hk hproportional
    have hlt := lt_affordable_add_one hprice hproportional
    obtain ⟨n, -, hn⟩ := exists_nat_affordable hpos
    -- Both are whole, so these are no more units than the affordable quantity.
    have hkn : (k : ℚ) ≤ affordable config market portfolio := by
      rw [hn] at hlt ⊢
      have : k < n + 1 := by exact_mod_cast hlt
      exact_mod_cast Nat.lt_succ_iff.mp this
    have := mul_le_mul_of_nonneg_right hkn hprice.le
    linarith
  · intro hcovered
    obtain ⟨n, hn1, hn⟩ := exists_nat_affordable hpos
    rw [hn] at hle ⊢
    exact hcovered n hn1 hle

/-- Where not one unit is affordable, there is nothing to cover. -/
theorem covered_of_none_affordable (hprice : 0 < buy_price config market)
    (hnone : affordable config market portfolio ≤ 0) : MinimumCovered config market portfolio := by
  intro k hk hproportional
  have hlt := lt_affordable_add_one hprice hproportional
  have hone : (1 : ℚ) ≤ k := by exact_mod_cast hk
  linarith

/-- A quantity that is paid for with more units is paid for. -/
theorem buy_cost_mono {quantity quantity' : ℚ} (hprice : 0 < buy_price config market)
    (hquantity : 0 ≤ quantity) (hle : quantity ≤ quantity') :
    buy_cost config market quantity ≤ buy_cost config market quantity' := by
  have hrate := commission_rate_nonneg config
  rw [buy_cost_eq hquantity hprice, buy_cost_eq (hquantity.trans hle) hprice]
  apply max_le_max
  · have := mul_le_mul_of_nonneg_right hle hprice.le
    linarith
  · exact mul_le_mul_of_nonneg_right hle (by positivity)

end Minimum

/-- Among exact amounts a reduced buy could not be one unit larger, and a skipped
    buy not even a single unit. -/
theorem constrained_buy_maximal {order : OrderEvent} {market : MarketEvent}
    {config : BacktestConfig} (portfolio : Portfolio) (hbuy : order.side = .BUY)
    (hprice : 0 < config.execution_model.price_of market) :
    (∀ fill warnings, execute order market portfolio config = .ok (some fill, warnings) →
      (fill.quantity ≠ order.quantity ∨ warnings ≠ []) →
      portfolio.cash < (fill.quantity + 1) * fill.fill_price
        + config.cost_model.commission ((fill.quantity + 1) * fill.fill_price)) ∧
    (∀ warnings, execute order market portfolio config = .ok (none, warnings) →
      portfolio.cash
        < config.cost_model.fill_price (config.execution_model.price_of market) .BUY
          + config.cost_model.commission
            (config.cost_model.fill_price (config.execution_model.price_of market) .BUY)) := by
  have hunit := buy_price_pos hprice
  constructor
  · intro fill warnings hexecute hreduced
    obtain ⟨-, hfill⟩ := execute_eq_ok.mp hexecute
    rcases fill_order_buy_cases hbuy with ⟨-, hfull⟩ | ⟨-, -, _, hskip⟩ | ⟨-, hpos, _, hreduce⟩
    · -- Filled in full, and quietly.
      rw [hfull] at hfill
      obtain ⟨rfl, rfl⟩ := hfill
      rcases hreduced with h | h
      · exact absurd rfl h
      · exact absurd rfl h
    · rw [hskip] at hfill
      cases hfill
    · -- Reduced to what is affordable: one unit more costs more than there is.
      rw [hreduce] at hfill
      obtain ⟨rfl, rfl⟩ := hfill
      have hcost := lt_buy_cost_of_more hunit (by linarith) (le_refl (_ + 1))
      simpa [buy_cost, buy_price, fill_of, hbuy] using hcost
  · intro warnings hexecute
    obtain ⟨-, hfill⟩ := execute_eq_ok.mp hexecute
    rcases fill_order_buy_cases hbuy with ⟨-, hfull⟩ | ⟨-, hnone, _, -⟩ | ⟨-, -, _, hreduce⟩
    · rw [hfull] at hfill
      cases hfill
    · have hone : affordable config market portfolio + 1 ≤ 1 := by linarith
      have hcost := lt_buy_cost_of_more hunit zero_le_one hone
      simpa [buy_cost, buy_price] using hcost
    · rw [hreduce] at hfill
      cases hfill

/-- **Main result**: a buy of whole units neither overfills nor overspends exactly
    when the cash pays for it in full, or the minimum commission never decides. -/
theorem constrained_buy_iff {order : OrderEvent} {market : MarketEvent} {portfolio : Portfolio}
    {config : BacktestConfig} (hbuy : order.side = .BUY) (hcash : 0 ≤ portfolio.cash)
    (hprice : 0 < config.execution_model.price_of market) (i : ℕ) :
    (∀ fill warnings, execute order market portfolio config = .ok (some fill, warnings) →
      0 < fill.quantity ∧ fill.quantity ≤ order.quantity ∧
        0 ≤ (portfolio.apply_fill fill i).cash) ↔
      (order.timestamp = market.timestamp →
        buy_cost config market order.quantity ≤ portfolio.cash ∨
          MinimumCovered config market portfolio) := by
  have hunit := buy_price_pos hprice
  rcases fill_order_buy_cases hbuy with
    ⟨hpaid, hfull⟩ | ⟨-, hnone, _, hskip⟩ | ⟨hlack, hpos, _, hreduce⟩
  · refine iff_of_true ?_ fun _ => Or.inl hpaid
    intro fill warnings hexecute
    obtain ⟨-, hfill⟩ := execute_eq_ok.mp hexecute
    rw [hfull] at hfill
    obtain ⟨rfl, -⟩ := hfill
    -- Filled in full: exactly the order, and its cost was in the cash.
    refine ⟨order.quantity_pos, le_refl _, ?_⟩
    rw [cash_apply_buy hbuy]
    linarith
  · refine iff_of_true ?_ fun _ => Or.inr (covered_of_none_affordable hunit hnone)
    intro fill warnings hexecute
    obtain ⟨-, hfill⟩ := execute_eq_ok.mp hexecute
    rw [hskip] at hfill
    cases hfill
  · constructor
    · intro hlaw htime
      obtain ⟨-, -, hleft⟩ := hlaw _ _ (execute_eq_ok.mpr ⟨htime, hreduce⟩)
      rw [cash_apply_buy hbuy] at hleft
      exact Or.inr ((affordable_paid_iff hcash hunit hpos).mp (by linarith))
    · intro hcovered fill warnings hexecute
      obtain ⟨htime, hfill⟩ := execute_eq_ok.mp hexecute
      rw [hreduce] at hfill
      obtain ⟨rfl, -⟩ := hfill
      have hpaid : buy_cost config market (affordable config market portfolio)
          ≤ portfolio.cash := by
        rcases hcovered htime with hfull | hcovered
        · exact absurd hfull hlack.not_ge
        · exact (affordable_paid_iff hcash hunit hpos).mpr hcovered
      refine ⟨hpos, ?_, ?_⟩
      · -- More units than ordered would be paid for, and then so would be the order.
        by_contra hover
        have hmore : order.quantity < affordable config market portfolio := not_le.mp hover
        have hcost := buy_cost_mono hunit order.quantity_pos.le hmore.le
        linarith
      · rw [cash_apply_buy hbuy]
        linarith

theorem nine_pos : (0 : ℚ) < 9 := by norm_num

/-- A buy of nine units, decided on the day before. -/
def buy_nine : OrderEvent where
  decision_timestamp := 0
  timestamp := 1
  symbol := "TCS.NS"
  side := .BUY
  quantity := 9
  quantity_pos := nine_pos

/-- A day on which every price is the same. -/
def flat_day (price : ℚ) : MarketEvent :=
  { timestamp := 1, symbol := "TCS.NS", open_ := price, high := price, low := price,
    close := price, volume := 1000 }

/-- The law and its condition, for nine units at 10, a minimum commission of 30 and
    a cash of 100. -/
theorem constrained_buy_iff_on_nine :
    ((∀ fill warnings,
        execute buy_nine (flat_day 10) (Portfolio.new 100) small_account
          = .ok (some fill, warnings) →
        0 < fill.quantity ∧ fill.quantity ≤ buy_nine.quantity ∧
          0 ≤ ((Portfolio.new 100).apply_fill fill 1).cash) ↔
      (buy_nine.timestamp = (flat_day 10).timestamp →
        buy_cost small_account (flat_day 10) buy_nine.quantity ≤ (Portfolio.new 100).cash ∨
          MinimumCovered small_account (flat_day 10) (Portfolio.new 100))) :=
  constrained_buy_iff rfl (by decide +kernel) (by decide +kernel) 1

/-- Nine units at 10 and a minimum commission of 30 cost 120, of a cash of 100. The
    buy is reduced to ten units, and the cash falls to -30. -/
theorem overfilled_and_overspent :
    buy_nine.side = .BUY ∧ Whole buy_nine.quantity ∧ 0 ≤ (Portfolio.new 100).cash ∧
      0 < small_account.execution_model.price_of (flat_day 10) ∧
      ∃ fill warnings,
        execute buy_nine (flat_day 10) (Portfolio.new 100) small_account
          = .ok (some fill, warnings) ∧
        buy_nine.quantity < fill.quantity ∧ ((Portfolio.new 100).apply_fill fill 1).cash < 0 := by
  refine ⟨rfl, by decide +kernel, by decide +kernel, by decide +kernel, ?_⟩
  obtain ⟨outcome, hexecute, hobserved⟩ := Outcome.exists_of_any
    (show (execute buy_nine (flat_day 10) (Portfolio.new 100) small_account).toOption.any
      (fun outcome => outcome.1.any (fun fill => buy_nine.quantity < fill.quantity ∧
        ((Portfolio.new 100).apply_fill fill 1).cash < 0)) = true by decide +kernel)
  obtain ⟨fill, hfill, hobserved⟩ := (Option.any_eq_true _ _).mp hobserved
  obtain ⟨hover, hspent⟩ := of_decide_eq_true hobserved
  exact ⟨fill, outcome.2, by rw [hexecute, ← hfill], hover, hspent⟩

end Quantora
