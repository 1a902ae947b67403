import Quantora.Backtest.Causality
import Quantora.Backtest.Whole

/-! # Long-only runs

    With `allow_short` off, `simulate` flattens every short target. What is left
    to keep a position from going negative is the sign of the sizes that
    `position_size` returns, and the base rule gives them the sign of the
    *equity*.

    * `wholeState_state_after` — quantities and orders are whole in every state
      of a run that uses the base rule, whatever their sign.
    * `LongState` — the position is not negative and no order sells more than
      is held. `LongState.observe` and `longState_place` are its step lemmas.
    * `never_short_iff` — a run is never short exactly when no long target was
      ever sized at an equity so negative that it truncates below zero. -/

namespace Quantora

open Python (PyError)

/-! ## Truncation -/

theorem truncate_nonneg_iff (x : ℚ) : 0 ≤ Python.truncate x ↔ -1 < x := by
  unfold Python.truncate
  split_ifs with h
  · exact ⟨fun _ => by linarith, fun _ => Int.floor_nonneg.mpr h⟩
  · have hceil : 0 ≤ ⌈x⌉ ↔ -1 < ⌈x⌉ := by omega
    rw [hceil, Int.lt_ceil]
    norm_num

theorem whole_base_position_size (default_allocation : ℚ) (context : SizingContext) :
    Whole (base_position_size default_allocation context) := by
  unfold base_position_size
  split_ifs
  · exact whole_zero
  · exact_mod_cast whole_intCast (_ * context.direction.value)

/-! ## What a decision of `simulate` can be -/

section Decide

variable {strategy : Strategy} {config : BacktestConfig} {symbol : String} {signals : SignalSet}
  {portfolio : Portfolio} {suppressed suppressed' : Option SignalDirection} {i : ℕ}
  {market : MarketEvent} {equity : ℚ} {position : PositionState} {target : ℚ} {reason : String}

/-- The three ways in which `decide` returns: an exit, a position that is kept,
    and a new size. -/
theorem simulate_decide_cases
    (h : simulate_decide strategy config symbol signals portfolio suppressed i market equity
      position = .ok ((target, reason), suppressed')) :
    (∃ r, exit_reason strategy symbol signals portfolio i market position = .ok (some r) ∧
      target = 0 ∧ suppressed' = some (direction_of position.quantity)) ∨
    ∃ row, exit_reason strategy symbol signals portfolio i market position = .ok none ∧
      signals.frame[i]? = some row ∧ suppressed' = (target_direction config suppressed row).2 ∧
      (keeps_position strategy (target_direction config suppressed row).1 position = true ∧
          target = position.quantity ∨
        keeps_position strategy (target_direction config suppressed row).1 position = false ∧
          target = strategy.position_size (sizing_context symbol signals portfolio i market equity
            row (target_direction config suppressed row).1)) := by
  unfold simulate_decide at h
  cases hexit : exit_reason strategy symbol signals portfolio i market position with
  | error e => simp [hexit, bind, Except.bind] at h
  | ok leaves =>
    simp only [hexit, bind, Except.bind] at h
    cases leaves with
    | some r =>
      simp only [Except.ok.injEq, Prod.mk.injEq] at h
      exact Or.inl ⟨r, rfl, h.1.1.symm, h.2.symm⟩
    | none =>
      simp only at h
      cases hrow : signals.frame[i]? with
      | none => simp [hrow] at h
      | some row =>
        simp only [hrow] at h
        refine Or.inr ⟨row, rfl, rfl, ?_⟩
        cases hkeep : keeps_position strategy (target_direction config suppressed row).1
            position with
        | true =>
          simp only [hkeep, if_true, Except.ok.injEq, Prod.mk.injEq] at h
          exact ⟨h.2.symm, Or.inl ⟨rfl, h.1.1.symm⟩⟩
        | false =>
          simp only [hkeep, if_false, Bool.false_eq_true, Except.ok.injEq, Prod.mk.injEq] at h
          exact ⟨h.2.symm, Or.inr ⟨rfl, h.1.1.symm⟩⟩

/-- A long-only run never asks for a short target. -/
theorem target_direction_ne_short (hlong : config.allow_short = false) (row : SignalRow) :
    (target_direction config suppressed row).1 ≠ .SHORT := by
  have hallowed : allowed_direction config row.direction ≠ .SHORT := by
    unfold allowed_direction
    by_cases hshort : row.direction = .SHORT
    · simp [hshort, hlong]
    · simp [hshort]
  unfold target_direction resolve_suppression
  split_ifs
  · simp
  · exact hallowed

end Decide

/-! ## One iteration of a run -/

section Run

variable {series : PriceSeries} {strategy : Strategy} {signals : SignalSet}
  {config : BacktestConfig} {i : ℕ} {bar : Bar} {st st' : LoopState (Option SignalDirection)}

theorem state_after_succ (hbar : series.frame.bars[i]? = some bar) :
    state_after series strategy signals config (i + 1) = .ok st' ↔
      ∃ st, state_after series strategy signals config i = .ok st ∧
        run_bar series.symbol config (simulate_decide strategy config series.symbol signals) i
          (bar, series.frame.bars[i + 1]?.map Bar.timestamp) st = .ok st' := by
  have hitem : (Loop.withNext Bar.timestamp series.frame.bars)[i]?
      = some (bar, series.frame.bars[i + 1]?.map Bar.timestamp) := by
    rw [Loop.withNext_getElem?, hbar]
    rfl
  have hi : i < series.frame.bars.length := (List.getElem?_eq_some_iff.mp hbar).1
  have hlen : ((Loop.withNext Bar.timestamp series.frame.bars).take i).length = i := by
    simp; omega
  unfold state_after
  rw [List.take_add_one, hitem, Loop.runE_append_eq_ok, hlen, Nat.zero_add]
  simp only [Option.toList_some, Loop.runE_cons_eq_ok, Loop.runE_nil, Except.ok.injEq,
    exists_eq_right]

theorem close_out_positions {σ : Type} {symbol : String} {frame : List Bar} {st st' : LoopState σ}
    (h : close_out symbol frame config st = .ok st') : st'.positions = st.positions := by
  rw [close_out] at h
  split_ifs at h
  swap
  · rw [Except.ok.inj h]
  cases hlast : frame.getLast? with
  | none => rw [hlast] at h; cases h
  | some last =>
    rw [hlast] at h
    obtain rfl := Except.ok.inj h
    simp only [liquidate]
    split_ifs <;> simp

/-- What a run has recorded after some bars, it has recorded at the end. -/
theorem positions_kept {out : SimulationOutput}
    (h : simulate series strategy signals config = .ok out)
    (hst : state_after series strategy signals config i = .ok st) :
    st.positions <+: out.positions := by
  obtain ⟨past, st₁, st₂, hpast, hrest, hclose, rfl⟩ := simulate_eq_ok h i
  obtain rfl := Except.ok.inj (hst.symm.trans hpast)
  have hinv := Loop.runE_invariant (fun _ s => st.positions <+: s.positions)
    (fun j step s s' hstep hprefix hrun => by
      obtain ⟨new, hnew⟩ := (run_bar_appends hrun).positions
      rw [hnew]
      exact hprefix.trans (List.prefix_append _ _))
    (List.prefix_refl st.positions) hrest
  change st.positions <+: st₂.positions
  rw [close_out_positions hclose]
  exact hinv

/-- Under the base rule every decision is whole. -/
theorem whole_decision (hbase : strategy.BaseSized) {symbol : String} {portfolio : Portfolio}
    {suppressed : Option SignalDirection} {market : MarketEvent} {equity : ℚ}
    {position : PositionState} {decision : TargetDecision × Option SignalDirection}
    (h : simulate_decide strategy config symbol signals portfolio suppressed i market equity
      position = .ok decision) (hposition : Whole position.quantity) : Whole decision.1.1 := by
  obtain ⟨⟨target, reason⟩, suppressed'⟩ := decision
  rcases simulate_decide_cases h with ⟨r, -, rfl, -⟩ | ⟨row, -, -, -, ⟨-, rfl⟩ | ⟨-, rfl⟩⟩
  · exact whole_zero
  · exact hposition
  · rw [hbase]
    exact whole_base_position_size _ _

/-- **Run lemma**: every state of a run with the base rule is whole. -/
theorem wholeState_state_after (hbase : strategy.BaseSized) (hi : i ≤ series.frame.bars.length)
    (hst : state_after series strategy signals config i = .ok st) :
    WholeState series.symbol st := by
  induction i generalizing st with
  | zero =>
    obtain rfl := Except.ok.inj hst
    exact ⟨PositionState.sound_fresh _, fun order horder => by cases horder⟩
  | succ i ih =>
    obtain ⟨bar, hbar⟩ : ∃ bar, series.frame.bars[i]? = some bar :=
      ⟨_, List.getElem?_eq_getElem hi⟩
    obtain ⟨s, hs, hrun⟩ := (state_after_succ hbar).mp hst
    have hwhole := ih (by omega) hs
    have hobs := hwhole.observe config i (bar.market series.symbol)
    cases hnext : series.frame.bars[i + 1]?.map Bar.timestamp with
    | none =>
      rw [hnext, run_bar_eq (scheduled_of_run_bar hrun)] at hrun
      obtain rfl := Except.ok.inj hrun
      exact hobs
    | some execution_timestamp =>
      rw [hnext] at hrun
      obtain ⟨decision, hdecide, rfl⟩ := run_bar_mid hrun
      exact hobs.place _ _ (whole_decision hbase hdecide
        (hwhole.settle config i (bar.market series.symbol)).1.whole)

end Run

/-! ## Sales and purchases -/

section Sales

variable {σ : Type} {symbol : String} {st : LoopState σ}

/-- A whole target below what is held becomes a sale of the difference. -/
theorem exists_pending_sell (h : WholeState symbol st) (market : MarketEvent)
    (execution_timestamp : Timestamp) {decision : TargetDecision × σ}
    (hwhole : Whole decision.1.1) (hless : decision.1.1 < st.portfolio.quantity symbol) :
    ∃ order, (st.place symbol market execution_timestamp decision).pending = some order ∧
      order.side = .SELL ∧ order.quantity = st.portfolio.quantity symbol - decision.1.1 := by
  have hdelta : decision.1.1 - st.portfolio.quantity symbol < 0 := sub_neg.mpr hless
  have hwhole_delta : Whole (decision.1.1 - st.portfolio.quantity symbol) :=
    hwhole.sub h.sound.whole
  -- A whole difference is either zero or large enough for an order.
  have hbig : MINIMUM_ORDER ≤ |decision.1.1 - st.portfolio.quantity symbol| := by
    by_contra hsmall
    exact hdelta.ne (hwhole_delta.eq_zero_of_abs_lt
      ((not_le.mp hsmall).trans (by norm_num [MINIMUM_ORDER])))
  obtain ⟨order, hpending⟩ := exists_pending_order hbig market.timestamp execution_timestamp
    symbol decision.1.2
  obtain ⟨-, -, -, hquantity, -, hside⟩ := pending_order_eq_some hpending
  refine ⟨order, hpending, ?_, ?_⟩
  · rw [hside, if_neg (not_lt.mpr hdelta.le)]
  · rw [hquantity, abs_of_neg hdelta]
    ring

/-- A sale is filled in full, whatever is held. -/
theorem quantity_observe_of_sell (h : WholeState symbol st) {order : OrderEvent}
    (hpending : st.pending = some order) (hside : order.side = .SELL) {config : BacktestConfig}
    {i : ℕ} {market : MarketEvent} :
    (st.observe symbol config i market).portfolio.quantity symbol
      = st.portfolio.quantity symbol - order.quantity := by
  have hfill : (st.settlement config market).1
      = some (fill_of order market config order.quantity) := by
    simp only [LoopState.settlement, hpending, fill_order, hside]
  rw [h.quantity_observe, hfill]
  simp only [Option.map_some, Option.getD_some, FillEvent.signed_quantity, fill_of, hside,
    OrderSide.sign_SELL]
  push_cast
  ring

/-- A purchase never makes the position smaller. -/
theorem le_quantity_observe_of_buy (h : WholeState symbol st) {order : OrderEvent}
    (hpending : st.pending = some order) (hside : order.side = .BUY) {config : BacktestConfig}
    {i : ℕ} {market : MarketEvent} :
    st.portfolio.quantity symbol
      ≤ (st.observe symbol config i market).portfolio.quantity symbol := by
  rw [h.quantity_observe]
  cases hfill : (st.settlement config market).1 with
  | none => simp
  | some fill =>
    have hpos := (h.of_settlement hfill).2.1
    rw [LoopState.settlement, hpending] at hfill
    obtain ⟨quantity, rfl, -, -⟩ := fill_order_eq_some hfill
    simp only [Option.map_some, Option.getD_some, FillEvent.signed_quantity, fill_of, hside,
      OrderSide.sign_BUY] at hpos ⊢
    push_cast
    linarith

end Sales

/-! ## Long states -/

/-- Nothing is held short, and no order sells more than is held. -/
structure LongState {σ : Type} (symbol : String) (st : LoopState σ) : Prop where
  whole : WholeState symbol st
  nonneg : 0 ≤ st.portfolio.quantity symbol
  sells : ∀ order ∈ st.pending, order.side = .SELL → order.quantity ≤ st.portfolio.quantity symbol
  recorded : ∀ event ∈ st.positions, 0 ≤ event.quantity

section LongStep

variable {σ : Type} {symbol : String} {config : BacktestConfig} {st : LoopState σ}

/-- **Step lemma**: settling and observing a bar keeps a long state long. -/
theorem LongState.observe (h : LongState symbol st) (config : BacktestConfig) (i : ℕ)
    (market : MarketEvent) :
    LongState symbol (st.observe symbol config i market) := by
  have hquantity : 0 ≤ (st.observe symbol config i market).portfolio.quantity symbol := by
    cases hpending : st.pending with
    | none =>
      have hidle : (st.observe symbol config i market).portfolio.quantity symbol
          = st.portfolio.quantity symbol := by
        simp [LoopState.observe, LoopState.settle, LoopState.settlement, hpending,
          Portfolio.quantity]
      rw [hidle]
      exact h.nonneg
    | some order =>
      cases hside : order.side with
      | SELL =>
        rw [quantity_observe_of_sell h.whole hpending hside]
        exact sub_nonneg.mpr (h.sells order hpending hside)
      | BUY => exact h.nonneg.trans (le_quantity_observe_of_buy h.whole hpending hside)
  refine ⟨h.whole.observe config i market, hquantity, (fun order horder => by cases horder), ?_⟩
  obtain ⟨event, hevents, hevent, -⟩ := positions_observe st symbol config i market
  intro e he
  rw [hevents] at he
  rcases List.mem_append.mp he with hold | hnew
  · exact h.recorded e hold
  · obtain rfl := List.mem_singleton.mp hnew
    rw [hevent]
    exact hquantity

/-- **Step lemma**: a target that is not negative sells at most what is held. -/
theorem LongState.place (h : LongState symbol st) (market : MarketEvent)
    (execution_timestamp : Timestamp) {decision : TargetDecision × σ}
    (hwhole : Whole decision.1.1) (hnonneg : 0 ≤ decision.1.1) :
    LongState symbol (st.place symbol market execution_timestamp decision) := by
  refine ⟨h.whole.place market execution_timestamp hwhole, h.nonneg, ?_, h.recorded⟩
  intro order horder hsell
  obtain ⟨-, -, -, hquantity, -, hside⟩ := pending_order_eq_some horder
  have hdelta : ¬ decision.1.1 - st.portfolio.quantity symbol > 0 := by
    intro hpos
    rw [hside, if_pos hpos] at hsell
    cases hsell
  have hle : order.quantity = st.portfolio.quantity symbol - decision.1.1 := by
    rw [hquantity, abs_of_nonpos (not_lt.mp hdelta)]
    ring
  change order.quantity ≤ st.portfolio.quantity symbol
  linarith

end LongStep

/-! ## When a run is never short -/

/-- The position is never negative at a bar, nor at the end. -/
def NeverShort (symbol : String) (out : SimulationOutput) : Prop :=
  (∀ event ∈ out.positions, 0 ≤ event.quantity) ∧ 0 ≤ out.portfolio.quantity symbol

section NeverShort

variable {series : PriceSeries} {strategy : Strategy} {signals : SignalSet}
  {config : BacktestConfig} {i : ℕ} {bar : Bar} {row : SignalRow}
  {st st' : LoopState (Option SignalDirection)} {out : SimulationOutput}

/-- The run reaches bar `i`, with a bar to follow, in state `st`, and there asks
    `position_size` for a long target. -/
structure SizesLong (series : PriceSeries) (strategy : Strategy) (signals : SignalSet)
    (config : BacktestConfig) (i : ℕ) (bar : Bar) (row : SignalRow)
    (st : LoopState (Option SignalDirection)) : Prop where
  at_bar : series.frame.bars[i]? = some bar
  followed : i + 1 < series.frame.bars.length
  reached : state_after series strategy signals config i = .ok st
  at_row : signals.frame[i]? = some row
  stays : exit_reason strategy series.symbol signals
    (st.observe series.symbol config i (bar.market series.symbol)).portfolio i
    (bar.market series.symbol)
    ((st.settle config i (bar.market series.symbol)).portfolio.position series.symbol) = .ok none
  long : (target_direction config st.closure row).1 = .LONG
  resizes : keeps_position strategy .LONG
    ((st.settle config i (bar.market series.symbol)).portfolio.position series.symbol) = false

/-- The notional that the base rule would commit at this bar. -/
def long_notional (series : PriceSeries) (strategy : Strategy) (config : BacktestConfig) (i : ℕ)
    (bar : Bar) (row : SignalRow) (st : LoopState (Option SignalDirection)) : ℚ :=
  (st.settle config i (bar.market series.symbol)).equity series.symbol (bar.market series.symbol)
    * strategy.default_allocation * min (max row.strength 0) 1

/-- Wherever the run asks for a long size, the equity is not so negative that a
    whole unit would be sold. -/
def LongSizesCovered (series : PriceSeries) (strategy : Strategy) (signals : SignalSet)
    (config : BacktestConfig) : Prop :=
  ∀ i bar row st, SizesLong series strategy signals config i bar row st →
    -bar.close < long_notional series strategy config i bar row st

/-- The base rule's size of a long target. -/
theorem base_position_size_long {default_allocation : ℚ} {context : SizingContext}
    (hlong : context.direction = .LONG) (hprice : 0 < context.price) :
    base_position_size default_allocation context
      = Python.truncate (context.equity * default_allocation * min (max context.strength 0) 1
          / context.price) := by
  simp [base_position_size, hlong, not_le.mpr hprice]

/-- A long size is not negative exactly when the notional covers minus one unit. -/
theorem long_size_nonneg_iff {notional price : ℚ} (hprice : 0 < price) :
    (0 : ℚ) ≤ Python.truncate (notional / price) ↔ -price < notional := by
  have hcast : (0 : ℚ) ≤ Python.truncate (notional / price)
      ↔ 0 ≤ Python.truncate (notional / price) := by exact_mod_cast Iff.rfl
  rw [hcast, truncate_nonneg_iff, lt_div_iff₀ hprice, neg_one_mul]

/-- **Run lemma**: while every long size is covered, every state is long. -/
theorem longState_state_after (hprices : ∀ bar ∈ series.frame.bars, bar.Positive)
    (hlong : config.allow_short = false) (hbase : strategy.BaseSized)
    (hcovered : LongSizesCovered series strategy signals config)
    (hi : i ≤ series.frame.bars.length)
    (hst : state_after series strategy signals config i = .ok st) :
    LongState series.symbol st := by
  induction i generalizing st with
  | zero =>
    obtain rfl := Except.ok.inj hst
    refine ⟨wholeState_state_after hbase hi hst, le_refl _,
      (fun order horder => by cases horder), ?_⟩
    intro event hevent
    cases hevent
  | succ i ih =>
    obtain ⟨bar, hbar⟩ : ∃ bar, series.frame.bars[i]? = some bar :=
      ⟨_, List.getElem?_eq_getElem hi⟩
    obtain ⟨s, hs, hrun⟩ := (state_after_succ hbar).mp hst
    have hstate := ih (by omega) hs
    have hobs := hstate.observe config i (bar.market series.symbol)
    cases hnext : series.frame.bars[i + 1]? with
    | none =>
      rw [hnext, Option.map_none, run_bar_eq (scheduled_of_run_bar hrun)] at hrun
      obtain rfl := Except.ok.inj hrun
      exact hobs
    | some next =>
      rw [hnext, Option.map_some] at hrun
      obtain ⟨decision, hdecide, rfl⟩ := run_bar_mid hrun
      have hsound := (hstate.whole.settle config i (bar.market series.symbol)).1
      have hnonneg : 0 ≤ ((s.settle config i (bar.market series.symbol)).portfolio.position
          series.symbol).quantity := by
        have := hobs.nonneg
        simpa [LoopState.observe, Portfolio.quantity] using this
      refine hobs.place _ _ (whole_decision hbase hdecide hsound.whole) ?_
      obtain ⟨⟨target, reason⟩, suppressed⟩ := decision
      rcases simulate_decide_cases hdecide with
        ⟨r, -, rfl, -⟩ | ⟨row, hstays, hrow, -, ⟨-, rfl⟩ | ⟨hresizes, rfl⟩⟩
      · exact le_refl _
      · exact hnonneg
      -- The base rule is asked: for a flat target it returns zero, a short
      -- target cannot be asked for, and a long one is covered.
      rw [hbase]
      cases hdirection : (target_direction config s.closure row).1 with
      | SHORT => exact absurd hdirection (target_direction_ne_short hlong row)
      | FLAT => simp [base_position_size, sizing_context]
      | LONG =>
        have hprice : 0 < bar.close := (hprices bar (List.mem_of_getElem? hbar)).close
        have hfollowed : i + 1 < series.frame.bars.length :=
          (List.getElem?_eq_some_iff.mp hnext).1
        have hsize := hcovered i bar row s
          ⟨hbar, hfollowed, hs, hrow, hstays, hdirection, hdirection ▸ hresizes⟩
        rw [base_position_size_long rfl hprice]
        exact (long_size_nonneg_iff hprice).mpr hsize

/-- The close-out ends flat, or leaves the position. -/
theorem quantity_close_out (h : WholeState series.symbol st)
    (hnonneg : 0 ≤ st.portfolio.quantity series.symbol)
    (hclose : close_out series.symbol series.frame.bars config st = .ok st') :
    0 ≤ st'.portfolio.quantity series.symbol := by
  rw [close_out] at hclose
  split_ifs at hclose
  swap
  · obtain rfl := Except.ok.inj hclose
    exact hnonneg
  cases hlast : series.frame.bars.getLast? with
  | none => rw [hlast] at hclose; cases hclose
  | some last =>
    rw [hlast] at hclose
    obtain rfl := Except.ok.inj hclose
    exact (h.liquidate last series.frame.bars.length).ge

/-- The position recorded by an iteration is the one it observed. -/
theorem positions_run_bar {step : Bar × Option Timestamp} {symbol : String}
    {decide : DecisionFn (Option SignalDirection)}
    (h : run_bar symbol config decide i step st = .ok st') :
    st'.positions = (st.observe symbol config i (step.1.market symbol)).positions := by
  obtain ⟨bar, next⟩ := step
  cases next with
  | none => rw [run_bar_last h]
  | some execution_timestamp =>
    obtain ⟨decision, -, rfl⟩ := run_bar_mid h
    rfl

/-- Where a long size is asked for, the decision is that size. -/
theorem simulate_decide_of_sizesLong (h : SizesLong series strategy signals config i bar row st) :
    simulate_decide strategy config series.symbol signals
      (st.observe series.symbol config i (bar.market series.symbol)).portfolio st.closure i
      (bar.market series.symbol)
      ((st.settle config i (bar.market series.symbol)).equity series.symbol
        (bar.market series.symbol))
      ((st.settle config i (bar.market series.symbol)).portfolio.position series.symbol)
    = .ok ((strategy.position_size (sizing_context series.symbol signals
          (st.observe series.symbol config i (bar.market series.symbol)).portfolio i
          (bar.market series.symbol)
          ((st.settle config i (bar.market series.symbol)).equity series.symbol
            (bar.market series.symbol)) row .LONG),
        if row.reason = "" then "target " ++ SignalDirection.LONG.label else row.reason),
        (target_direction config st.closure row).2) := by
  simp only [simulate_decide, h.stays, bind, Except.bind, h.at_row, h.long, h.resizes, if_false,
    Bool.false_eq_true]

/-- What a bar observes is recorded in the output. -/
theorem recorded_of_run_bar {next : Option Timestamp}
    (hrun : simulate series strategy signals config = .ok out)
    (hst' : state_after series strategy signals config (i + 1) = .ok st')
    (hbar : run_bar series.symbol config (simulate_decide strategy config series.symbol signals) i
      (bar, next) st = .ok st') :
    ∃ event ∈ out.positions, event.quantity
      = (st.observe series.symbol config i (bar.market series.symbol)).portfolio.quantity
          series.symbol := by
  obtain ⟨event, hevents, hquantity, -⟩ := positions_observe st series.symbol config i
    (bar.market series.symbol)
  refine ⟨event, (positions_kept hrun hst').subset ?_, hquantity⟩
  rw [positions_run_bar hbar, hevents]
  exact List.mem_append_right _ (List.mem_singleton_self event)

/-- The size that an uncovered long target asks for is negative. -/
theorem negative_target (hbase : strategy.BaseSized) (hprice : 0 < bar.close)
    (hsizes : SizesLong series strategy signals config i bar row st)
    (huncovered : long_notional series strategy config i bar row st ≤ -bar.close)
    {decision : TargetDecision × Option SignalDirection}
    (hdecide : simulate_decide strategy config series.symbol signals
      (st.observe series.symbol config i (bar.market series.symbol)).portfolio st.closure i
      (bar.market series.symbol)
      ((st.settle config i (bar.market series.symbol)).equity series.symbol
        (bar.market series.symbol))
      ((st.settle config i (bar.market series.symbol)).portfolio.position series.symbol)
      = .ok decision) : decision.1.1 < 0 := by
  have htarget : decision.1.1
      = Python.truncate (long_notional series strategy config i bar row st / bar.close) := by
    rw [simulate_decide_of_sizesLong hsizes] at hdecide
    obtain rfl := Except.ok.inj hdecide
    change ((strategy.position_size _ : ℚ)) = _
    rw [show strategy.position_size = base_position_size strategy.default_allocation from hbase,
      base_position_size_long rfl hprice]
    rfl
  rw [htarget]
  exact not_le.mp fun hle => absurd ((long_size_nonneg_iff hprice).mp hle) (not_lt.mpr huncovered)

/-- A negative long size is an order that leaves the position short at the next
    bar. -/
theorem short_of_uncovered (hprices : ∀ bar ∈ series.frame.bars, bar.Positive)
    (hbase : strategy.BaseSized) (hsizes : SizesLong series strategy signals config i bar row st)
    (huncovered : long_notional series strategy config i bar row st ≤ -bar.close)
    (hrun : simulate series strategy signals config = .ok out) :
    ∃ event ∈ out.positions, event.quantity < 0 := by
  have hprice : 0 < bar.close := (hprices bar (List.mem_of_getElem? hsizes.at_bar)).close
  obtain ⟨st₂, -, -, hst₂, -, -, -⟩ := simulate_eq_ok hrun (i + 1 + 1)
  obtain ⟨next, hnext⟩ : ∃ next, series.frame.bars[i + 1]? = some next :=
    ⟨_, List.getElem?_eq_getElem hsizes.followed⟩
  obtain ⟨st₁, hst₁, hrun₂⟩ := (state_after_succ hnext).mp hst₂
  obtain ⟨s, hs, hrun₁⟩ := (state_after_succ hsizes.at_bar).mp hst₁
  obtain rfl := Except.ok.inj (hsizes.reached.symm.trans hs)
  -- The position at bar `i` is recorded; if it is not negative, the order is a sell.
  obtain ⟨event, hevent, hquantity⟩ := recorded_of_run_bar hrun hst₁ hrun₁
  by_cases hshort : event.quantity < 0
  · exact ⟨event, hevent, hshort⟩
  rw [hquantity] at hshort
  rw [hnext, Option.map_some] at hrun₁
  obtain ⟨decision, hdecide, rfl⟩ := run_bar_mid hrun₁
  have hnegative := negative_target hbase hprice hsizes huncovered hdecide
  have hstart := wholeState_state_after hbase
    (Nat.le_of_lt (Nat.lt_of_succ_lt hsizes.followed)) hsizes.reached
  have htarget : Whole decision.1.1 :=
    whole_decision hbase hdecide (hstart.settle config i (bar.market series.symbol)).1.whole
  obtain ⟨order, hpending, hside, horder⟩ := exists_pending_sell
    (hstart.observe config i (bar.market series.symbol)) (bar.market series.symbol) next.timestamp
    htarget (hnegative.trans_le (not_lt.mp hshort))
  -- A sell is filled in full, so bar `i + 1` observes the negative target.
  obtain ⟨event', hevent', hquantity'⟩ := recorded_of_run_bar hrun hst₂ hrun₂
  refine ⟨event', hevent', ?_⟩
  rw [hquantity', quantity_observe_of_sell
    (wholeState_state_after hbase (Nat.le_of_lt hsizes.followed) hst₁) hpending hside, horder]
  show (st.observe series.symbol config i (bar.market series.symbol)).portfolio.quantity
    series.symbol - _ < 0
  linarith

/-- **Long-only runs.** A run of `simulate` over positive prices, with the base
    sizing rule and `allow_short` off, is never short exactly when every long
    size it asks for is covered by the equity. -/
theorem never_short_iff (hprices : ∀ bar ∈ series.frame.bars, bar.Positive)
    (hlong : config.allow_short = false) (hbase : strategy.BaseSized)
    (hrun : simulate series strategy signals config = .ok out) :
    NeverShort series.symbol out ↔ LongSizesCovered series strategy signals config := by
  constructor
  · intro hnever i bar row st hsizes
    by_contra huncovered
    obtain ⟨event, hevent, hshort⟩ :=
      short_of_uncovered hprices hbase hsizes (not_lt.mp huncovered) hrun
    exact absurd (hnever.1 event hevent) (not_le.mpr hshort)
  · intro hcovered
    obtain ⟨past, st, st', hpast, hrest, hclose, rfl⟩ :=
      simulate_eq_ok hrun series.frame.bars.length
    have hdrop : (Loop.withNext Bar.timestamp series.frame.bars).drop series.frame.bars.length
        = [] := List.drop_of_length_le (by simp)
    rw [hdrop, Loop.runE_nil] at hrest
    obtain rfl := Except.ok.inj hrest
    have hstate := longState_state_after hprices hlong hbase hcovered (le_refl _) hpast
    refine ⟨fun event hevent => ?_, quantity_close_out hstate.whole hstate.nonneg hclose⟩
    rw [LoopState.output, close_out_positions hclose] at hevent
    exact hstate.recorded event hevent

end NeverShort

/-- What the request schema admits: every cost in basis points up to 1000. -/
structure CostModel.AdmittedByApi (m : CostModel) : Prop where
  commission_bps : m.commission_bps ≤ 1000
  slippage_bps : m.slippage_bps ≤ 1000
  spread_bps : m.spread_bps ≤ 1000

/-- A price that collapses after the first entry. -/
def collapsing_bars : PriceSeries where
  symbol := "TCS.NS"
  interval := "1d"
  frame :=
    { bars :=
        [ { timestamp := 0, open_ := 10, high := 10, low := 10, close := 10, adj_close := 10,
            volume := 1000 },
          { timestamp := 1, open_ := 10, high := 10, low := 1, close := 1, adj_close := 1,
            volume := 1000 },
          { timestamp := 2, open_ := 1, high := 1, low := 1, close := 1, adj_close := 1,
            volume := 1000 },
          { timestamp := 3, open_ := 1, high := 1, low := 1, close := 1, adj_close := 1,
            volume := 1000 } ]
      increasing := by simp }
  provenance :=
    { provider := "yfinance", provider_ticker := "TCS.NS", adjustment_policy := "raw",
      requested_start := "2024-01-01", requested_end := "2024-01-05" }

/-- Enter, leave, enter again. -/
def reentry_signals : SignalSet where
  symbol := "TCS.NS"
  strategy := "demo"
  parameters := []
  frame :=
    [ { timestamp := 0, direction := .LONG, strength := 1, reason := "" },
      { timestamp := 1, direction := .FLAT, strength := 0, reason := "" },
      { timestamp := 2, direction := .LONG, strength := 1, reason := "" },
      { timestamp := 3, direction := .LONG, strength := 1, reason := "" } ]
  indicators := []
  warmup_bars := 0
  monotonic := by simp

theorem small_cash_pos : (0 : ℚ) < 100 := by norm_num

/-- Little cash and a flat commission of 30 for each fill. -/
def small_account : BacktestConfig :=
  { (default : BacktestConfig) with
    initial_cash := 100
    cost_model := { CostModel.zero with commission_min := 30, commission_min_nonneg := by norm_num }
    initial_cash_pos := small_cash_pos }

theorem collapsing_bars_positive : ∀ bar ∈ collapsing_bars.frame.bars, bar.Positive := by
  intro bar hbar
  simp only [collapsing_bars, List.mem_cons, List.not_mem_nil, or_false] at hbar
  rcases hbar with rfl | rfl | rfl | rfl <;> constructor <;> norm_num

theorem small_account_admitted : small_account.cost_model.AdmittedByApi := by
  constructor <;> norm_num [small_account, CostModel.zero]

/-- The commissions of the first round trip leave a cash of -50. The second long
    target is sized at minus 47 units, which the engine sells short. -/
theorem long_only_run_goes_short :
    (∀ bar ∈ collapsing_bars.frame.bars, bar.Positive) ∧ small_account.allow_short = false ∧
      small_account.cost_model.AdmittedByApi ∧ Strategy.BaseSized { name := "demo" } ∧
      ∃ out, simulate collapsing_bars { name := "demo" } reentry_signals small_account = .ok out ∧
        ¬ NeverShort "TCS.NS" out := by
  refine ⟨collapsing_bars_positive, rfl, small_account_admitted, rfl, ?_⟩
  · have hshort : (simulate collapsing_bars { name := "demo" } reentry_signals
        small_account).toOption.any (fun out => out.positions.any (·.quantity < 0)) = true := by
      decide +kernel
    cases hrun : simulate collapsing_bars { name := "demo" } reentry_signals small_account with
    | error e => rw [hrun] at hshort; cases hshort
    | ok out =>
      rw [hrun] at hshort
      refine ⟨out, rfl, fun hnever => ?_⟩
      obtain ⟨event, hevent, hneg⟩ := List.any_eq_true.mp hshort
      exact absurd (hnever.1 event hevent) (not_le.mpr (by simpa using hneg))

/-- The equivalence at a run that trades. -/
theorem never_short_iff_on_four_bars :
    ∃ out, simulate (four_bars 95) { name := "demo" } (four_signals .FLAT) default = .ok out ∧
      (NeverShort "TCS.NS" out ↔
        LongSizesCovered (four_bars 95) { name := "demo" } (four_signals .FLAT) default) := by
  obtain ⟨out, hout⟩ := Outcome.exists_eq_ok
    (x := simulate (four_bars 95) { name := "demo" } (four_signals .FLAT) default)
    (by decide +kernel)
  have hprices : ∀ bar ∈ (four_bars 95).frame.bars, bar.Positive := by
    intro bar hbar
    simp only [four_bars, List.mem_cons, List.not_mem_nil, or_false] at hbar
    rcases hbar with rfl | rfl | rfl | rfl <;> constructor <;> norm_num
  have hlong : (default : BacktestConfig).allow_short = false := rfl
  have hiff := never_short_iff hprices hlong (by rfl) hout
  exact ⟨out, hout, hiff⟩

end Quantora
