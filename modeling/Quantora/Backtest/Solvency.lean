import Quantora.Backtest.Targets

/-! # Long targets stay solvent

    With targets that are not negative, `simulate_targets` neither spends money
    nor sells units it does not have. The premise is a proportional commission:
    a minimum per fill is not part of the affordable quantity.

    * `Portfolio.Solvent` — neither the cash nor the position is negative.
    * `Covers` — the cash pays for a buy, and a sell is held in full. Such a fill
      keeps a portfolio solvent (`Solvent.apply_fill`), and every fill of the
      loop is such a fill (`covers_of_settlement`).
    * `SolventState` — the loop invariant. It also replays the fills booked so
      far, so that solvency holds after every fill and not only at every bar. -/

namespace Quantora

/-! ## Solvent portfolios -/

namespace Portfolio

/-- Neither the cash nor the position in `symbol` is negative. -/
structure Solvent (symbol : String) (p : Portfolio) : Prop where
  cash : 0 ≤ p.cash
  quantity : 0 ≤ p.quantity symbol

/-- The cash pays for the fill, and what is sold is held. -/
structure Covers (symbol : String) (p : Portfolio) (fill : FillEvent) : Prop where
  symbol_eq : fill.symbol = symbol
  pos : 0 < fill.quantity
  cash : -fill.cash_delta ≤ p.cash
  units : fill.side = .SELL → fill.quantity ≤ p.quantity symbol

/-- The same money and the same units. -/
structure SameAccount (symbol : String) (p q : Portfolio) : Prop where
  cash : p.cash = q.cash
  quantity : p.quantity symbol = q.quantity symbol

end Portfolio

namespace PositionState

/-- A position that is not short keeps so if it is not oversold. -/
theorem take_fill_quantity_nonneg {position : PositionState} {fill : FillEvent}
    (bar_index : ℕ) (hnonneg : 0 ≤ position.quantity) (hpos : 0 < fill.quantity)
    (hunits : fill.side = .SELL → fill.quantity ≤ position.quantity) :
    0 ≤ (position.take_fill fill bar_index).1.quantity := by
  cases hside : fill.side with
  | BUY =>
    have hsigned : fill.signed_quantity = fill.quantity := by
      simp [FillEvent.signed_quantity, hside]
    by_cases hflat : position.quantity = 0
    · simp only [take_fill, is_flat_iff.mpr hflat, if_true, open_, hsigned]
      exact hpos.le
    · have hnf : ¬ (position.is_flat = true) := fun h => hflat (is_flat_iff.mp h)
      have hlong : 0 < position.quantity := lt_of_le_of_ne hnonneg (Ne.symm hflat)
      have hsame : position.sign = fill.side.sign := by simp [sign, hlong, hside]
      simp only [take_fill, if_neg hnf, if_pos hsame, add, hsigned]
      linarith
  | SELL =>
    have hheld := hunits hside
    have hlong : 0 < position.quantity := hpos.trans_le hheld
    have hsign : position.sign = 1 := by simp [sign, hlong]
    have hagainst : position.sign = -fill.side.sign := by rw [hsign, hside]; rfl
    have hle : fill.quantity ≤ |position.quantity| := by rwa [abs_of_pos hlong]
    -- The sell closes at most what is held; the rest, if any, stays long.
    have hrest := take_fill_toward_flat bar_index hagainst hlong.ne' hpos hle
    rw [hsign] at hrest
    simpa using hrest

end PositionState

namespace Portfolio

variable {symbol : String} {p q : Portfolio} {fill : FillEvent}

/-- **Step lemma**: a covered fill keeps a portfolio solvent. -/
theorem Solvent.apply_fill (h : p.Solvent symbol) (hcovers : p.Covers symbol fill)
    (bar_index : ℕ) : (p.apply_fill fill bar_index).Solvent symbol := by
  constructor
  · show 0 ≤ p.cash + fill.cash_delta
    have := hcovers.cash
    linarith
  · have hquantity := h.quantity
    obtain ⟨rfl, hpos, -, hunits⟩ := hcovers
    rw [Portfolio.quantity, position_apply_fill_self]
    exact PositionState.take_fill_quantity_nonneg bar_index hquantity hpos hunits

/-- The bar of a fill is irrelevant to the account. -/
theorem SameAccount.apply_fill (h : SameAccount symbol p q) (hsymbol : fill.symbol = symbol)
    (i j : ℕ) : SameAccount symbol (p.apply_fill fill i) (q.apply_fill fill j) := by
  constructor
  · show p.cash + fill.cash_delta = q.cash + fill.cash_delta
    rw [h.cash]
  · subst hsymbol
    rw [Portfolio.quantity, Portfolio.quantity, position_apply_fill_self, position_apply_fill_self]
    exact PositionState.take_fill_quantity_congr h.quantity rfl rfl i j

end Portfolio

/-! ## Every fill is covered -/

section Costs

variable {m : CostModel}

/-- Without a minimum, the commission is a share of the notional. -/
theorem CostModel.commission_eq (hmin : m.commission_min = 0) {notional : ℚ}
    (hnotional : 0 ≤ notional) : m.commission notional = notional * (m.commission_bps / BPS) := by
  have hshare : 0 ≤ notional * m.commission_bps / BPS := by
    have := m.commission_bps_nonneg
    unfold BPS
    positivity
  rw [commission, hmin, abs_of_nonneg hnotional, max_eq_right hshare, mul_div_assoc]

/-- A sell that pays its commission out of the proceeds brings money in. -/
theorem FillEvent.cash_delta_sell_nonneg {fill : FillEvent} (hmin : m.commission_min = 0)
    (hbps : m.commission_bps ≤ 10000) (hsell : fill.side = .SELL) (hpos : 0 < fill.quantity)
    (hprice : 0 < fill.fill_price)
    (hcommission : fill.commission = m.commission (fill.quantity * fill.fill_price)) :
    0 ≤ fill.cash_delta := by
  have hnotional : 0 < fill.quantity * fill.fill_price := mul_pos hpos hprice
  have hrate : m.commission_bps / BPS ≤ 1 := by
    unfold BPS
    linarith
  have hle : fill.quantity * fill.fill_price * (m.commission_bps / BPS)
      ≤ fill.quantity * fill.fill_price * 1 := mul_le_mul_of_nonneg_left hrate hnotional.le
  rw [cash_delta, hsell, hcommission, CostModel.commission_eq hmin hnotional.le, notional]
  simp only [OrderSide.sign_SELL]
  push_cast
  linarith

/-- The affordable quantity can be paid for, commission included. -/
theorem Portfolio.affordable_cost_le {p : Portfolio} {fill_price commission_rate : ℚ}
    (hcash : 0 ≤ p.cash) (hprice : 0 < fill_price) (hrate : 0 ≤ commission_rate) :
    p.max_affordable_quantity fill_price commission_rate * (fill_price * (1 + commission_rate))
      ≤ p.cash := by
  have hunit : 0 < fill_price * (1 + commission_rate) := by positivity
  have hratio : 0 ≤ p.cash / (fill_price * (1 + commission_rate)) := by positivity
  have hfloor : ((⌊p.cash / (fill_price * (1 + commission_rate))⌋ : ℤ) : ℚ)
      ≤ p.cash / (fill_price * (1 + commission_rate)) := Int.floor_le _
  simp only [max_affordable_quantity, if_neg (not_le.mpr hprice), gt_iff_lt, if_pos hunit,
    Python.truncate, if_pos hratio]
  calc ((⌊p.cash / (fill_price * (1 + commission_rate))⌋ : ℤ) : ℚ)
        * (fill_price * (1 + commission_rate))
      ≤ p.cash / (fill_price * (1 + commission_rate)) * (fill_price * (1 + commission_rate)) :=
        mul_le_mul_of_nonneg_right hfloor hunit.le
    _ = p.cash := div_mul_cancel₀ _ hunit.ne'

end Costs

section Solvency

variable {symbol : String} {config : BacktestConfig} {st : LoopState Unit} {bar : Bar}

/-- Nothing that waits sells more than is held. -/
structure SellsHeld (symbol : String) (p : Portfolio) (order : OrderEvent) : Prop where
  symbol_eq : order.symbol = symbol
  units : order.side = .SELL → order.quantity ≤ p.quantity symbol

/-- The fill of a waiting order is covered. -/
theorem covers_of_fill_order {p : Portfolio} {order : OrderEvent} {fill : FillEvent}
    (hmin : config.cost_model.commission_min = 0)
    (hbps : config.cost_model.commission_bps ≤ 10000) (hpenalty : config.cost_model.penalty < 1)
    (hbar : bar.Positive) (hcash : 0 ≤ p.cash) (hsells : SellsHeld symbol p order)
    (hfill : (fill_order order (bar.market symbol) p config).1 = some fill) :
    p.Covers symbol fill := by
  have hprice := hbar.price_pos config.execution_model symbol
  have hfillprice := config.cost_model.fill_price_pos hprice hpenalty order.side
  have hrate : 0 ≤ config.cost_model.commission_bps / BPS := by
    have := config.cost_model.commission_bps_nonneg
    unfold BPS
    positivity
  cases hside : order.side with
  | SELL =>
    -- A sell is filled in full; its proceeds cover its commission.
    simp only [fill_order, hside, Option.some.injEq] at hfill
    subst hfill
    have hdelta : 0 ≤ (fill_of order (bar.market symbol) config order.quantity).cash_delta :=
      FillEvent.cash_delta_sell_nonneg hmin hbps hside order.quantity_pos hfillprice rfl
    exact ⟨hsells.symbol_eq, order.quantity_pos, by linarith, fun _ => hsells.units hside⟩
  | BUY =>
    rw [hside] at hfillprice
    obtain ⟨quantity, rfl, hpos, -⟩ := fill_order_eq_some hfill
    refine ⟨hsells.symbol_eq, hpos, ?_, fun hsell => by rw [fill_of, hside] at hsell; cases hsell⟩
    have hcost : -(fill_of order (bar.market symbol) config quantity).cash_delta
        = quantity * config.cost_model.fill_price
            (config.execution_model.price_of (bar.market symbol)) .BUY
          + config.cost_model.commission (quantity * config.cost_model.fill_price
            (config.execution_model.price_of (bar.market symbol)) .BUY) := by
      simp only [FillEvent.cash_delta, FillEvent.notional, fill_of, hside, OrderSide.sign_BUY]
      push_cast
      ring
    rw [hcost]
    simp only [fill_order, hside, fill_of] at hfill
    split_ifs at hfill with hafford hnone
    · -- The full size is affordable.
      have hquantity : order.quantity = quantity :=
        congrArg FillEvent.quantity (Option.some.inj hfill)
      simpa [Portfolio.can_afford, hquantity] using hafford
    · -- The order is reduced to what the cash buys.
      have hquantity := congrArg FillEvent.quantity (Option.some.inj hfill)
      simp only at hquantity
      have hle := Portfolio.affordable_cost_le hcash hfillprice hrate
      rw [hquantity] at hle
      rw [CostModel.commission_eq hmin (mul_pos hpos hfillprice).le]
      linarith

/-! ## The loop -/

/-- The fills booked on a fresh portfolio. -/
def replay_fills (config : BacktestConfig) (fills : List FillEvent) : Portfolio :=
  (Portfolio.new config.initial_cash).apply_all (fills.map (·, 0))

theorem replay_fills_concat (config : BacktestConfig) (fills : List FillEvent) (fill : FillEvent) :
    replay_fills config (fills ++ [fill]) = (replay_fills config fills).apply_fill fill 0 := by
  rw [replay_fills, List.map_append, Portfolio.apply_all_append]
  rfl

/-- The invariant: the account is solvent now, was at every recorded bar and
    after every booked fill, and no waiting order oversells. -/
structure SolventState (symbol : String) (config : BacktestConfig) (st : LoopState Unit) :
    Prop where
  solvent : st.portfolio.Solvent symbol
  pending : ∀ order ∈ st.pending, SellsHeld symbol st.portfolio order
  recorded : ∀ event ∈ st.positions, 0 ≤ event.cash ∧ 0 ≤ event.quantity
  replayed : ∀ fills, fills <+: st.fills → (replay_fills config fills).Solvent symbol
  account : (replay_fills config st.fills).SameAccount symbol st.portfolio

theorem solventState_start (symbol : String) (config : BacktestConfig) :
    SolventState symbol config (LoopState.start config ()) := by
  have hfresh : (Portfolio.new config.initial_cash).Solvent symbol :=
    ⟨config.initial_cash_pos.le, le_refl 0⟩
  refine ⟨hfresh, ?_, ?_, fun fills hfills => ?_, ⟨rfl, rfl⟩⟩
  · intro order horder
    cases horder
  · intro event hevent
    cases hevent
  obtain rfl : fills = [] := List.prefix_nil.mp hfills
  exact hfresh

/-- Booking a covered fill, or none. -/
theorem SolventState.book (h : SolventState symbol config st) (i : ℕ) {fill : Option FillEvent}
    (hcovers : ∀ f ∈ fill, st.portfolio.Covers symbol f) :
    (st.book i fill).portfolio.Solvent symbol ∧
      (∀ fills, fills <+: (st.book i fill).fills → (replay_fills config fills).Solvent symbol) ∧
      (replay_fills config (st.book i fill).fills).SameAccount symbol
        (st.book i fill).portfolio := by
  cases fill with
  | none => exact ⟨h.solvent, h.replayed, h.account⟩
  | some f =>
    have hf := hcovers f rfl
    have hsame : (replay_fills config (st.fills ++ [f])).SameAccount symbol
        (st.portfolio.apply_fill f i) := by
      rw [replay_fills_concat]
      exact h.account.apply_fill hf.symbol_eq 0 i
    refine ⟨h.solvent.apply_fill hf i, fun fills hfills => ?_, hsame⟩
    -- A prefix of the fills ends with the new one, or is one of the old.
    rcases List.prefix_concat_iff.mp hfills with rfl | hold
    · exact ⟨hsame.cash ▸ (h.solvent.apply_fill hf i).cash,
        hsame.quantity ▸ (h.solvent.apply_fill hf i).quantity⟩
    · exact h.replayed fills hold

/-- What is assumed of the costs and of the prices. -/
structure FairCosts (config : BacktestConfig) : Prop where
  commission_min : config.cost_model.commission_min = 0
  commission_bps : config.cost_model.commission_bps ≤ 10000
  penalty : config.cost_model.penalty < 1

theorem SolventState.covers_settlement (h : SolventState symbol config st)
    (hcosts : FairCosts config) (hbar : bar.Positive) :
    ∀ f ∈ (st.settlement config (bar.market symbol)).1, st.portfolio.Covers symbol f := by
  intro f hf
  unfold LoopState.settlement at hf
  cases hpending : st.pending with
  | none => rw [hpending] at hf; cases hf
  | some order =>
    rw [hpending] at hf
    exact covers_of_fill_order hcosts.commission_min hcosts.commission_bps hcosts.penalty hbar
      h.solvent.cash (h.pending order hpending) hf

/-- **Step lemma**: settling and observing a bar. -/
theorem SolventState.observe (h : SolventState symbol config st) (hcosts : FairCosts config)
    (hbar : bar.Positive) (i : ℕ) :
    SolventState symbol config (st.observe symbol config i (bar.market symbol)) := by
  obtain ⟨hsolvent, hreplayed, haccount⟩ := h.book i (h.covers_settlement hcosts hbar)
  have hobserved : (st.observe symbol config i (bar.market symbol)).portfolio.Solvent symbol := by
    refine ⟨?_, ?_⟩
    · simpa [LoopState.observe, LoopState.settle] using hsolvent.cash
    · simpa [LoopState.observe, LoopState.settle] using hsolvent.quantity
  refine ⟨hobserved, ?_, ?_, hreplayed, ?_⟩
  -- The pending order is spent.
  · intro order horder
    cases horder
  · intro event hevent
    obtain ⟨record, hpositions, hquantity, hcash⟩ :=
      positions_observe st symbol config i (bar.market symbol)
    rw [hpositions] at hevent
    rcases List.mem_append.mp hevent with hold | hnew
    · exact h.recorded event hold
    · obtain rfl := List.mem_singleton.mp hnew
      rw [hcash, hquantity]
      exact ⟨hobserved.cash, hobserved.quantity⟩
  · refine ⟨?_, ?_⟩
    · simpa [LoopState.observe, LoopState.settle] using haccount.cash
    · simpa [LoopState.observe, LoopState.settle] using haccount.quantity

/-- **Step lemma**: a target that is not negative sells at most what is held. -/
theorem SolventState.place (h : SolventState symbol config st) (market : MarketEvent)
    (execution_timestamp : Timestamp) {decision : TargetDecision × Unit}
    (htarget : 0 ≤ decision.1.1) :
    SolventState symbol config (st.place symbol market execution_timestamp decision) := by
  refine ⟨h.solvent, fun order horder => ?_, h.recorded, h.replayed, h.account⟩
  obtain ⟨-, -, hsymbol, hquantity, -, hside⟩ := pending_order_eq_some horder
  refine ⟨hsymbol, fun hsell => ?_⟩
  have hdelta : ¬ decision.1.1 - st.portfolio.quantity symbol > 0 := by
    intro hpos
    rw [hside, if_pos hpos] at hsell
    cases hsell
  rw [hquantity, abs_of_nonpos (not_lt.mp hdelta)]
  show -(decision.1.1 - st.portfolio.quantity symbol) ≤ st.portfolio.quantity symbol
  linarith

variable {frame : List Bar} {targets : List ℚ} {reasons : Option (List String)}

/-- **Run lemma**: the whole loop keeps the invariant. -/
theorem solventState_given_run (hcosts : FairCosts config) (hprices : ∀ bar ∈ frame, bar.Positive)
    (htargets : ∀ target ∈ targets, 0 ≤ target) :
    SolventState symbol config (given_run symbol config frame targets reasons) := by
  have hstep : ∀ j step st, (Loop.withNext Bar.timestamp frame)[j]? = some step →
      SolventState symbol config st →
      SolventState symbol config (given_bar symbol config targets reasons (0 + j) step st) := by
    intro j step st hstep h
    -- A bar is observed, and all but the last one place an order.
    rw [Loop.withNext_getElem?] at hstep
    obtain ⟨bar, hbar, rfl⟩ := Option.map_eq_some_iff.mp hstep
    have hobserved := h.observe hcosts (hprices bar (List.mem_of_getElem? hbar)) (0 + j)
    unfold given_bar
    cases frame[j + 1]?.map Bar.timestamp with
    | none => exact hobserved
    | some execution_timestamp =>
      refine hobserved.place _ execution_timestamp ?_
      show 0 ≤ (targets[0 + j]?).getD 0
      cases htarget : targets[0 + j]? with
      | none => exact le_refl 0
      | some target => exact htargets target (List.mem_of_getElem? htarget)
  exact Loop.run_invariant (fun _ st => SolventState symbol config st) hstep
    (solventState_start symbol config)

/-- The close-out sells what is held, for money. -/
theorem SolventState.finish (h : SolventState symbol config st) (hcosts : FairCosts config)
    (hbar : bar.Positive) (bar_count : ℕ) :
    (finish symbol config bar bar_count st).portfolio.Solvent symbol ∧
      (∀ fills, fills <+: (finish symbol config bar bar_count st).fills →
        (replay_fills config fills).Solvent symbol) ∧
      (finish symbol config bar bar_count st).positions = st.positions := by
  unfold Quantora.finish
  split_ifs
  swap
  · exact ⟨h.solvent, h.replayed, rfl⟩
  by_cases hflat : (st.portfolio.position symbol).is_flat = true
  · simp only [liquidate, if_pos hflat]
    exact ⟨h.solvent, h.replayed, trivial⟩
  -- Not flat and not short: the closing fill sells.
  have hlong : 0 < (st.portfolio.position symbol).quantity :=
    lt_of_le_of_ne h.solvent.quantity fun h => hflat (PositionState.is_flat_iff.mpr h.symm)
  have hquantity : |(st.portfolio.position symbol).quantity|
      = (st.portfolio.position symbol).quantity := abs_of_pos hlong
  have hside : (liquidation_fill symbol bar config (st.portfolio.position symbol)).side = .SELL :=
    if_pos hlong
  have hpos : 0 < (liquidation_fill symbol bar config (st.portfolio.position symbol)).quantity :=
    abs_pos.mpr hlong.ne'
  have hcovers : st.portfolio.Covers symbol
      (liquidation_fill symbol bar config (st.portfolio.position symbol)) := by
    -- A sale brings in money even after its commission.
    have hdelta : 0 ≤ (liquidation_fill symbol bar config
        (st.portfolio.position symbol)).cash_delta := by
      apply FillEvent.cash_delta_sell_nonneg hcosts.commission_min hcosts.commission_bps hside
      · exact hpos
      · exact config.cost_model.fill_price_pos hbar.close hcosts.penalty _
      · rfl
    have hcash := h.solvent.cash
    exact ⟨rfl, hpos, by linarith, fun _ => hquantity.le⟩
  have hbooked : ∀ f ∈ some (liquidation_fill symbol bar config (st.portfolio.position symbol)),
      st.portfolio.Covers symbol f := by
    intro f hf
    obtain rfl := Option.some.inj hf
    exact hcovers
  obtain ⟨hsolvent, hreplayed, -⟩ := h.book (bar_count - 1) hbooked
  simp only [liquidate, if_neg hflat]
  exact ⟨hsolvent, hreplayed, rfl⟩

/-- Solvent at every bar, after every fill, and at the end. -/
structure StaysSolvent (symbol : String) (config : BacktestConfig) (out : SimulationOutput) :
    Prop where
  at_bars : ∀ event ∈ out.positions, 0 ≤ event.cash ∧ 0 ≤ event.quantity
  after_fills : ∀ fills, fills <+: out.fills → (replay_fills config fills).Solvent symbol
  at_end : out.portfolio.Solvent symbol

/-- **Solvency of long-only runs.** Over positive prices, with targets that are
    not negative, no minimum commission, a commission of at most the notional and
    a penalty below the price, no run of `simulate_targets` overdraws its cash or
    oversells its position. -/
theorem long_targets_stay_solvent {strategy : String} {out : SimulationOutput}
    (hprices : ∀ bar ∈ frame, bar.Positive) (htargets : ∀ target ∈ targets, 0 ≤ target)
    (hmin : config.cost_model.commission_min = 0)
    (hbps : config.cost_model.commission_bps ≤ 10000) (hpenalty : config.cost_model.penalty < 1)
    (hrun : simulate_targets frame targets symbol reasons config strategy = .ok out) :
    StaysSolvent symbol config out := by
  have hfit := targetsFit_of_eq_ok hrun
  obtain ⟨last, hlast⟩ : ∃ last, frame.getLast? = some last :=
    ⟨_, List.getLast?_eq_some_getLast hfit.bars⟩
  rw [simulate_targets_eq hfit symbol config strategy hlast] at hrun
  obtain rfl := Except.ok.inj hrun
  have hcosts : FairCosts config := ⟨hmin, hbps, hpenalty⟩
  have hloop : SolventState symbol config (given_run symbol config frame targets reasons) :=
    solventState_given_run hcosts hprices htargets
  obtain ⟨hsolvent, hreplayed, hpositions⟩ :=
    hloop.finish hcosts (hprices last (List.mem_of_getLast? hlast)) frame.length
  -- The close-out records no position of its own.
  refine ⟨?_, hreplayed, hsolvent⟩
  intro event hevent
  apply hloop.recorded event
  rw [← hpositions]
  exact hevent

end Solvency

/-- Solvency where a buy is reduced, and part of a unit is sold. -/
theorem long_targets_stay_solvent_on_three_bars :
    ∃ out, simulate_targets three_bars [20000, 5 / 2, 0] "SYNTHETIC" none default "targets"
        = .ok out ∧
      StaysSolvent "SYNTHETIC" default out := by
  have hfit : TargetsFit three_bars [20000, 5 / 2, 0] none := ⟨by simp [three_bars], rfl, by simp⟩
  have hrun := simulate_targets_eq hfit "SYNTHETIC" default "targets" rfl
  refine ⟨_, hrun, long_targets_stay_solvent three_bars_positive ?_ rfl ?_ ?_ hrun⟩
  · decide +kernel
  · decide +kernel
  · decide +kernel

end Quantora
