import Quantora.Backtest.Targets
import Quantora.Backtest.Whole

/-! # Targets are tracked

    What happens to the orders of `simulate_targets`, bar by bar.

    * `BarRecord` — what one bar added to the output: its position event, the
      order it placed, the fill of the order that waited, and the warnings.
    * `journal` — the records of a run. The lists of every state of the run, and
      of its output, are the journal's (`Journals`).
    * `OrderResolved` — a waiting order is filled, or its buy is skipped.
    * `Tracks` — the account of a whole run: no order is lost or doubled, and
      where nothing was warned of the position is the target. -/

namespace Quantora

/-! ## The journal -/

/-- What one bar adds to the output. -/
structure BarRecord where
  position : PositionEvent
  /-- The order placed at this bar, for the next one. -/
  order : Option OrderEvent
  /-- The fill of the order that waited for this bar. -/
  fill : Option FillEvent
  warnings : List String

/-- The event that `mark` records. -/
def LoopState.position_event {σ : Type} (st : LoopState σ) (symbol : String)
    (market : MarketEvent) : PositionEvent :=
  let position := st.portfolio.position symbol
  { timestamp := market.timestamp
    symbol := symbol
    quantity := position.quantity
    average_price := position.average_price
    cash := st.portfolio.cash
    market_value := position.market_value market.close
    unrealized_pnl := position.unrealized_pnl market.close
    realized_pnl := position.realized_pnl }

theorem LoopState.positions_mark {σ : Type} (st : LoopState σ) (symbol : String)
    (market : MarketEvent) :
    (st.mark symbol market).positions = st.positions ++ [st.position_event symbol market] := rfl

/-- The record of the iteration over `step` from the state `st`. -/
def bar_record (symbol : String) (config : BacktestConfig) (targets : List ℚ)
    (reasons : Option (List String)) (i : ℕ) (step : Bar × Option Timestamp)
    (st : LoopState Unit) : BarRecord where
  position := (st.settle config i (step.1.market symbol)).position_event symbol
    (step.1.market symbol)
  order := (given_bar symbol config targets reasons i step st).pending
  fill := (st.settlement config (step.1.market symbol)).1
  warnings := (st.settlement config (step.1.market symbol)).2

/-- The records of all bars. -/
def journal (symbol : String) (config : BacktestConfig) (frame : List Bar) (targets : List ℚ)
    (reasons : Option (List String)) : List BarRecord :=
  (Loop.withNext Bar.timestamp frame).mapIdx fun j step =>
    bar_record symbol config targets reasons j step
      (given_state symbol config frame targets reasons j)

/-- The orders, fills and warnings of some records. -/
def journal_orders (records : List BarRecord) : List OrderEvent :=
  records.flatMap fun bar => bar.order.toList

def journal_fills (records : List BarRecord) : List FillEvent :=
  records.flatMap fun bar => bar.fill.toList

def journal_warnings (records : List BarRecord) : List String :=
  records.flatMap BarRecord.warnings

/-- The units that some records bought less those that they sold. -/
def net_units (records : List BarRecord) : ℚ :=
  ((journal_fills records).map FillEvent.signed_quantity).sum

/-- The lists of a state hold what the bars recorded, and nothing else. -/
structure Journals (records : List BarRecord) (st : LoopState Unit) : Prop where
  positions : st.positions = records.map BarRecord.position
  orders : st.orders = journal_orders records
  fills : st.fills = journal_fills records
  warnings : st.warnings = journal_warnings records

section Journal

variable {symbol : String} {config : BacktestConfig} {frame : List Bar} {targets : List ℚ}
  {reasons : Option (List String)}

@[simp] theorem journal_length :
    (journal symbol config frame targets reasons).length = frame.length := by
  simp [journal]

theorem journal_getElem? {j : ℕ} {bar : BarRecord}
    (h : (journal symbol config frame targets reasons)[j]? = some bar) :
    ∃ step, (Loop.withNext Bar.timestamp frame)[j]? = some step ∧
      bar = bar_record symbol config targets reasons j step
        (given_state symbol config frame targets reasons j) := by
  unfold journal at h
  rw [List.getElem?_mapIdx] at h
  obtain ⟨step, hstep, rfl⟩ := Option.map_eq_some_iff.mp h
  exact ⟨step, hstep, rfl⟩

/-- One iteration adds its record. -/
theorem Journals.given_bar {records : List BarRecord} {st : LoopState Unit}
    (h : Journals records st) (i : ℕ) (step : Bar × Option Timestamp) :
    Journals (records ++ [bar_record symbol config targets reasons i step st])
      (given_bar symbol config targets reasons i step st) := by
  -- Each journal grows by its part of the record; the last bar has no next one.
  obtain ⟨bar, next⟩ := step
  constructor
  · rw [List.map_append, ← h.positions]
    cases next <;>
      simp [Quantora.given_bar, LoopState.observe, LoopState.positions_mark, LoopState.place,
        bar_record, LoopState.settle]
  · rw [journal_orders, List.flatMap_append, ← journal_orders, ← h.orders]
    cases next <;>
      simp [Quantora.given_bar, LoopState.observe, LoopState.mark, LoopState.place, bar_record,
        LoopState.settle]
  · rw [journal_fills, List.flatMap_append, ← journal_fills, ← h.fills]
    cases next <;>
      simp [Quantora.given_bar, LoopState.observe, LoopState.mark, LoopState.place, bar_record,
        LoopState.settle]
  · rw [journal_warnings, List.flatMap_append, ← journal_warnings, ← h.warnings]
    cases next <;>
      simp [Quantora.given_bar, LoopState.observe, LoopState.mark, LoopState.place, bar_record,
        LoopState.settle]

/-- **Run lemma**: the state after `j` bars holds the first `j` records. -/
theorem journals_given_state (symbol : String) (config : BacktestConfig) (targets : List ℚ)
    (reasons : Option (List String)) {j : ℕ} (hj : j ≤ frame.length) :
    Journals ((journal symbol config frame targets reasons).take j)
      (given_state symbol config frame targets reasons j) := by
  induction j with
  | zero => exact ⟨rfl, rfl, rfl, rfl⟩
  | succ j ih =>
    have hprev := ih (by omega)
    have hlt : j < (journal symbol config frame targets reasons).length := by
      rw [journal_length]
      omega
    have hbar := List.getElem?_eq_getElem hlt
    obtain ⟨step, hstep, hrecord⟩ := journal_getElem? hbar
    rw [List.take_add_one, hbar, hrecord, given_state_succ symbol config hstep]
    exact hprev.given_bar j step

end Journal

/-! ## How an order is resolved -/

/-- A bar resolves the order that waited for it: it is filled on its side, under
    its reason, and no skipped buy is reported; or its buy is skipped, and
    exactly that is reported. -/
inductive OrderResolved (order : OrderEvent) (bar : BarRecord) : Prop
  | filled (fill : FillEvent) (hfill : bar.fill = some fill)
      (hstamp : fill.timestamp = order.timestamp) (hside : fill.side = order.side)
      (hreason : fill.reason = order.reason)
      (hwarnings : ∀ symbol quantity price,
        skipped_buy_warning order.timestamp symbol quantity price ∉ bar.warnings)
  | skipped (price : ℚ) (hfill : bar.fill = none) (hside : order.side = .BUY)
      (hwarnings : bar.warnings
        = [skipped_buy_warning order.timestamp order.symbol order.quantity price])

/-- A reduced buy is not reported as a skipped one. -/
theorem skipped_ne_reduced (timestamp : Timestamp) (symbol symbol' : String)
    (quantity price quantity' affordable : ℚ) :
    skipped_buy_warning timestamp symbol quantity price
      ≠ reduced_buy_warning timestamp symbol' quantity' affordable := by
  intro h
  have hchars := congrArg String.toList h
  simp only [skipped_buy_warning, reduced_buy_warning, String.toList_append, List.append_assoc]
    at hchars
  -- Behind the same date, the third character tells the two texts apart.
  have htexts := List.append_cancel_left hchars
  have hthird := congrArg (fun text => text[2]?) htexts
  simp at hthird

section Resolution

variable {symbol : String} {config : BacktestConfig}

/-- **Every order is resolved** by the bar it is scheduled for. -/
theorem resolved_of_fill_order {order : OrderEvent} {market : MarketEvent} {portfolio : Portfolio}
    {bar : BarRecord} (hsched : order.timestamp = market.timestamp)
    (hfill : bar.fill = (fill_order order market portfolio config).1)
    (hwarnings : bar.warnings = (fill_order order market portfolio config).2) :
    OrderResolved order bar := by
  unfold fill_order at hfill hwarnings
  cases hside : order.side with
  | SELL =>
    -- A sale is never reduced.
    simp only [hside] at hfill hwarnings
    refine OrderResolved.filled _ hfill hsched.symm rfl rfl ?_
    intro symbol quantity price hmem
    rw [hwarnings] at hmem
    cases hmem
  | BUY =>
    simp only [hside] at hfill hwarnings
    split_ifs at hfill hwarnings with hafford hnone
    · -- Affordable in full.
      refine OrderResolved.filled _ hfill hsched.symm rfl rfl ?_
      intro symbol quantity price hmem
      rw [hwarnings] at hmem
      cases hmem
    · -- Not even one unit.
      rw [← hsched] at hwarnings
      exact OrderResolved.skipped _ hfill hside hwarnings
    · -- Reduced to what the cash buys.
      refine OrderResolved.filled _ hfill hsched.symm rfl rfl ?_
      intro symbol quantity price hmem
      rw [hwarnings, List.mem_singleton, hsched] at hmem
      exact skipped_ne_reduced _ _ _ _ _ _ _ hmem

/-- What is settled without a warning moves the position to the target of the
    order that waited. -/
theorem settled_on_target {st : LoopState Unit} {market : MarketEvent}
    {decision_timestamp execution_timestamp : Timestamp} {target : ℚ} {reason : String}
    (h : WholeState symbol st) (htarget : Whole target)
    (hpending : st.pending = pending_order decision_timestamp execution_timestamp symbol
      (target - st.portfolio.quantity symbol) reason)
    (hquiet : (st.settlement config market).2 = []) (i : ℕ) :
    (st.settle config i market).portfolio.quantity symbol = target := by
  rw [(h.settle config i market).2]
  cases hslot : st.pending with
  | none =>
    -- No order: the difference is below the minimum, and whole, so it is zero.
    have hsmall : |target - st.portfolio.quantity symbol| < MINIMUM_ORDER := by
      by_contra hlarge
      obtain ⟨order, horder⟩ := exists_pending_order (not_lt.mp hlarge) decision_timestamp
        execution_timestamp symbol reason
      rw [hslot, horder] at hpending
      cases hpending
    have hunit : MINIMUM_ORDER < 1 := by norm_num [MINIMUM_ORDER]
    have hzero := (htarget.sub h.sound.whole).eq_zero_of_abs_lt (hsmall.trans hunit)
    simp only [LoopState.settlement, hslot, Option.map_none, Option.getD_none]
    have heq : target - st.portfolio.quantity symbol = 0 := hzero
    linarith
  | some order =>
    have horder := hpending.symm.trans hslot
    obtain ⟨-, -, -, hquantity, -, hside⟩ := pending_order_eq_some horder
    have hfull : (st.settlement config market).1
        = some (fill_of order market config order.quantity) := by
      simp only [LoopState.settlement, hslot] at hquiet ⊢
      exact (fill_order_quiet hquiet).1
    rw [hfull]
    show st.portfolio.quantity symbol + order.side.sign * order.quantity = target
    rw [hside, hquantity]
    by_cases hpos : target - st.portfolio.quantity symbol > 0
    · rw [if_pos hpos, abs_of_pos hpos]
      simp
    · rw [if_neg hpos, abs_of_nonpos (not_lt.mp hpos)]
      simp

end Resolution

/-! ## The run -/

section Run

variable {symbol : String} {config : BacktestConfig} {frame : List Bar} {targets : List ℚ}
  {reasons : Option (List String)}

/-- The position recorded at a bar is the one the state holds after it. -/
theorem quantity_given_bar (i : ℕ) (step : Bar × Option Timestamp) (st : LoopState Unit) :
    (given_bar symbol config targets reasons i step st).portfolio.quantity symbol
      = (bar_record symbol config targets reasons i step st).position.quantity := by
  obtain ⟨bar, next⟩ := step
  have hobserved : (st.observe symbol config i (bar.market symbol)).portfolio.quantity symbol
      = (st.settle config i (bar.market symbol)).portfolio.quantity symbol :=
    LoopState.quantity_mark _ _ _
  cases next with
  | none => exact hobserved
  | some execution_timestamp => exact hobserved

theorem whole_given_decision (hwhole : ∀ target ∈ targets, Whole target) (i : ℕ) :
    Whole (given_decision targets reasons i).1 := by
  show Whole (targets[i]?.getD 0)
  cases htarget : targets[i]? with
  | none => exact whole_zero
  | some target => exact hwhole target (List.mem_of_getElem? htarget)

/-- **Step lemma**: one iteration keeps a state whole. -/
theorem WholeState.given_bar {st : LoopState Unit} (h : WholeState symbol st)
    (hwhole : ∀ target ∈ targets, Whole target) (i : ℕ) (step : Bar × Option Timestamp) :
    WholeState symbol (given_bar symbol config targets reasons i step st) := by
  obtain ⟨bar, next⟩ := step
  have hobserved := h.observe config i (bar.market symbol)
  cases next with
  | none => exact hobserved
  | some execution_timestamp =>
    show WholeState symbol ((st.observe symbol config i (bar.market symbol)).place symbol
      (bar.market symbol) execution_timestamp (given_decision targets reasons i, ()))
    exact hobserved.place _ _ (whole_given_decision hwhole i)

/-- **Run lemma**: every state is whole, and holds what was bought less what was
    sold. -/
theorem tracked_given_state (symbol : String) (config : BacktestConfig)
    (reasons : Option (List String)) (hwhole : ∀ target ∈ targets, Whole target) {j : ℕ}
    (hj : j ≤ frame.length) :
    WholeState symbol (given_state symbol config frame targets reasons j) ∧
      (given_state symbol config frame targets reasons j).portfolio.quantity symbol
        = net_units ((journal symbol config frame targets reasons).take j) := by
  induction j with
  | zero =>
    refine ⟨⟨PositionState.sound_fresh _, fun order horder => by cases horder⟩, ?_⟩
    rfl
  | succ j ih =>
    obtain ⟨hstate, hquantity⟩ := ih (by omega)
    have hlt : j < (journal symbol config frame targets reasons).length := by
      rw [journal_length]
      omega
    have hbar := List.getElem?_eq_getElem hlt
    obtain ⟨step, hstep, hrecord⟩ := journal_getElem? hbar
    rw [given_state_succ symbol config hstep, List.take_add_one, hbar, hrecord]
    refine ⟨hstate.given_bar hwhole j step, ?_⟩
    -- The position moves by the signed quantity of the bar's fill.
    rw [quantity_given_bar]
    have hmoved := (hstate.settle config j (step.1.market symbol)).2
    rw [hquantity] at hmoved
    refine hmoved.trans ?_
    simp only [net_units, journal_fills, List.flatMap_append, List.map_append, List.sum_append,
      bar_record, Option.toList_some, List.flatMap_singleton]
    cases (LoopState.settlement _ config (step.1.market symbol)).1 <;> simp

/-- The order of a bar that has a successor. -/
theorem order_of_mid_bar (symbol : String) (config : BacktestConfig) (targets : List ℚ)
    (reasons : Option (List String)) {i : ℕ} {bar next : Bar} (hbar : frame[i]? = some bar)
    (hnext : frame[i + 1]? = some next) :
    (given_state symbol config frame targets reasons (i + 1)).pending
      = pending_order bar.timestamp next.timestamp symbol
          ((given_decision targets reasons i).1
            - (given_state symbol config frame targets reasons (i + 1)).portfolio.quantity symbol)
          (given_decision targets reasons i).2 := by
  have hstep : (Loop.withNext Bar.timestamp frame)[i]? = some (bar, some next.timestamp) := by
    rw [Loop.withNext_getElem?, hbar, hnext]
    rfl
  rw [given_state_succ symbol config hstep]
  rfl

/-- What a bar ordered waits in the state after it. -/
theorem pending_after {i : ℕ} {bar : BarRecord}
    (h : (journal symbol config frame targets reasons)[i]? = some bar) :
    (given_state symbol config frame targets reasons (i + 1)).pending = bar.order := by
  obtain ⟨step, hstep, rfl⟩ := journal_getElem? h
  rw [given_state_succ symbol config hstep]
  rfl

/-- Nothing is ordered where no bar is left to execute on. -/
theorem order_of_last_bar {i : ℕ} {bar : BarRecord} (hlast : frame[i + 1]? = none)
    (h : (journal symbol config frame targets reasons)[i]? = some bar) : bar.order = none := by
  obtain ⟨step, hstep, rfl⟩ := journal_getElem? h
  rw [Loop.withNext_getElem?, hlast] at hstep
  obtain ⟨_, -, rfl⟩ := Option.map_eq_some_iff.mp hstep
  rfl

theorem resolved_at_next_bar {i : ℕ} {bar : BarRecord} {order : OrderEvent}
    (h : (journal symbol config frame targets reasons)[i]? = some bar)
    (horder : bar.order = some order) :
    ∃ next, (journal symbol config frame targets reasons)[i + 1]? = some next ∧
      OrderResolved order next := by
  have hpending := (pending_after h).trans horder
  -- An order was placed, so there is a next bar.
  cases hnext : frame[i + 1]? with
  | none =>
    rw [order_of_last_bar hnext h] at horder
    cases horder
  | some next_bar =>
    obtain ⟨step, hstep, -⟩ := journal_getElem? h
    rw [Loop.withNext_getElem?] at hstep
    obtain ⟨this_bar, hbar, -⟩ := Option.map_eq_some_iff.mp hstep
    have hplaced := (order_of_mid_bar symbol config targets reasons hbar hnext).symm.trans hpending
    have hsched : order.timestamp = next_bar.timestamp := (pending_order_eq_some hplaced).2.1
    have hlt : i + 1 < (journal symbol config frame targets reasons).length := by
      rw [journal_length]
      exact (List.getElem?_eq_some_iff.mp hnext).1
    have hrecord := List.getElem?_eq_getElem hlt
    refine ⟨_, hrecord, ?_⟩
    obtain ⟨next_step, hnext_step, heq⟩ := journal_getElem? hrecord
    rw [Loop.withNext_getElem?, hnext] at hnext_step
    obtain rfl := Option.some.inj hnext_step
    -- The next bar settles exactly this order.
    have hsettlement : (given_state symbol config frame targets reasons (i + 1)).settlement config
        (next_bar.market symbol) = fill_order order (next_bar.market symbol)
          (given_state symbol config frame targets reasons (i + 1)).portfolio config := by
      simp only [LoopState.settlement, hpending]
    rw [heq]
    exact resolved_of_fill_order hsched (congrArg Prod.fst hsettlement)
      (congrArg Prod.snd hsettlement)

theorem idle_at_next_bar {i : ℕ} {bar next : BarRecord}
    (h : (journal symbol config frame targets reasons)[i]? = some bar) (horder : bar.order = none)
    (hnext : (journal symbol config frame targets reasons)[i + 1]? = some next) :
    next.fill = none ∧ next.warnings = [] := by
  have hpending := (pending_after h).trans horder
  obtain ⟨step, -, rfl⟩ := journal_getElem? hnext
  simp only [bar_record, LoopState.settlement, hpending, and_self]

theorem on_target_at_next_bar (hfit : TargetsFit frame targets reasons)
    (hwhole : ∀ target ∈ targets, Whole target) {i : ℕ} {next : BarRecord}
    (hnext : (journal symbol config frame targets reasons)[i + 1]? = some next)
    (hquiet : next.warnings = []) : targets[i]? = some next.position.quantity := by
  obtain ⟨step, hstep, rfl⟩ := journal_getElem? hnext
  rw [Loop.withNext_getElem?] at hstep
  obtain ⟨next_bar, hnext_bar, rfl⟩ := Option.map_eq_some_iff.mp hstep
  have hi : i + 1 < frame.length := (List.getElem?_eq_some_iff.mp hnext_bar).1
  obtain ⟨bar, hbar⟩ : ∃ bar, frame[i]? = some bar := ⟨_, List.getElem?_eq_getElem (by omega)⟩
  obtain ⟨target, htarget⟩ : ∃ target, targets[i]? = some target :=
    ⟨_, List.getElem?_eq_getElem (by rw [hfit.targets]; omega)⟩
  have hdecision : (given_decision targets reasons i).1 = target := by
    simp [given_decision, htarget]
  -- The order of bar `i` waits at bar `i + 1`, where it is settled.
  have hstate := (tracked_given_state symbol config reasons hwhole hi.le).1
  have hpending := order_of_mid_bar symbol config targets reasons hbar hnext_bar
  rw [hdecision] at hpending
  have hsettled := settled_on_target hstate (hwhole target (List.mem_of_getElem? htarget)) hpending
    hquiet (i + 1)
  rw [htarget, ← hsettled]
  rfl

/-- The account of a run: where every unit and every order of it went. -/
structure Tracks (symbol : String) (config : BacktestConfig) (frame : List Bar)
    (targets : List ℚ) (reasons : Option (List String)) (out : SimulationOutput)
    (records : List BarRecord) : Prop where
  /-- There is a record for each bar, -/
  bars : records.length = frame.length
  /-- which is what the loop added there, -/
  states : ∀ j ≤ frame.length, ∃ st,
    Loop.runE (run_bar symbol config (simulate_targets_decide targets reasons)) 0
      ((Loop.withNext Bar.timestamp frame).take j) (LoopState.start config ()) = .ok st ∧
    Journals (records.take j) st
  /-- and together they are the output, but for the close-out. -/
  output : out.positions = records.map BarRecord.position ∧ out.orders = journal_orders records ∧
    out.warnings = journal_warnings records ∧
    ∃ closing, out.fills = journal_fills records ++ closing ∧
      (config.liquidate_at_end = false → closing = [])
  /-- The position is what was bought less what was sold. -/
  quantity : ∀ j bar, records[j]? = some bar →
    bar.position.quantity = net_units (records.take (j + 1))
  /-- Nothing waits for the first bar. -/
  first : ∀ bar, records[0]? = some bar → bar.fill = none ∧ bar.warnings = []
  /-- An order is resolved at the next bar, -/
  resolved : ∀ i bar order, records[i]? = some bar → bar.order = some order →
    ∃ next, records[i + 1]? = some next ∧ OrderResolved order next
  /-- and a bar for which none waits has nothing to fill or to report. -/
  idle : ∀ i bar next, records[i]? = some bar → bar.order = none →
    records[i + 1]? = some next → next.fill = none ∧ next.warnings = []
  /-- Without a warning the position is the target. -/
  on_target : ∀ i next, records[i + 1]? = some next → next.warnings = [] →
    targets[i]? = some next.position.quantity
  /-- Nothing is ordered at the last bar. -/
  last : ∀ bar, records.getLast? = some bar → bar.order = none
  /-- A liquidated run ends flat, and its equity is its cash. -/
  closed : config.liquidate_at_end = true → out.portfolio.quantity symbol = 0 ∧
    out.equity_curve.getLast?.map Prod.snd = some out.portfolio.cash

/-- The last value of a curve whose last point was replaced. -/
theorem getLast?_zip_concat {α β : Type*} {xs : List α} {ys : List β} (y : β)
    (h : xs.length = ys.length + 1) :
    (xs.zip (ys ++ [y])).getLast?.map Prod.snd = some y := by
  rw [← List.getLast?_map, List.map_snd_zip (by simp [h]), List.getLast?_concat]

/-- The last point of the curve of a liquidated run is its cash. -/
theorem equity_of_liquidate {st : LoopState Unit} (h : WholeState symbol st)
    (hlength : st.equity_values.length = frame.length) (hbars : frame ≠ []) (last : Bar) :
    ((frame.map Bar.timestamp).zip
        (liquidate symbol last config frame.length st).equity_values).getLast?.map Prod.snd
      = some (liquidate symbol last config frame.length st).portfolio.cash := by
  have hflat : (liquidate symbol last config frame.length st).portfolio.quantity symbol = 0 :=
    h.liquidate last frame.length
  have hpos : 0 < frame.length := List.length_pos_iff.mpr hbars
  have hequity : (liquidate symbol last config frame.length st).portfolio.equity
      (Prices.single symbol last.close)
      = (liquidate symbol last config frame.length st).portfolio.cash := by
    rw [Portfolio.equity_single]
    show _ + (liquidate symbol last config frame.length st).portfolio.quantity symbol * _ = _
    rw [hflat]
    ring
  -- That equity is the last point, with or without a bar before it.
  rw [← hequity]
  apply getLast?_zip_concat
  split_ifs <;> simp [hlength] <;> omega

/-- The close-out adds at most its own fill. -/
theorem fills_finish (symbol : String) (config : BacktestConfig) (last : Bar) (bar_count : ℕ)
    (st : LoopState Unit) :
    ∃ closing, (finish symbol config last bar_count st).fills = st.fills ++ closing ∧
      (config.liquidate_at_end = false → closing = []) := by
  unfold finish
  split_ifs with hliquidate
  · simp only [liquidate]
    split_ifs
    · exact ⟨[], by simp, fun _ => rfl⟩
    · refine ⟨_, LoopState.fills_book _ _ _, fun h => ?_⟩
      rw [hliquidate] at h
      cases h
  · exact ⟨[], by simp, fun _ => rfl⟩

theorem lists_finish (symbol : String) (config : BacktestConfig) (last : Bar) (bar_count : ℕ)
    (st : LoopState Unit) :
    (finish symbol config last bar_count st).positions = st.positions ∧
      (finish symbol config last bar_count st).orders = st.orders ∧
      (finish symbol config last bar_count st).warnings = st.warnings := by
  unfold finish
  split_ifs
  · simp only [liquidate]
    split_ifs <;> simp
  · exact ⟨rfl, rfl, rfl⟩

/-- **Targets are tracked.** On whole targets `simulate_targets` runs to its end,
    and every run is accounted for bar by bar. -/
theorem targets_tracked (strategy : String) (hfit : TargetsFit frame targets reasons)
    (hwhole : ∀ target ∈ targets, Whole target) :
    ∃ out, simulate_targets frame targets symbol reasons config strategy = .ok out ∧
      ∃ records, Tracks symbol config frame targets reasons out records := by
  obtain ⟨last, hlast⟩ : ∃ last, frame.getLast? = some last :=
    ⟨_, List.getLast?_eq_some_getLast hfit.bars⟩
  refine ⟨_, simulate_targets_eq hfit symbol config strategy hlast,
    journal symbol config frame targets reasons, ?_⟩
  -- The lists of the state at the end are those of the whole journal; `finish`
  -- adds at most the closing fill to them.
  have hall := journals_given_state symbol config targets reasons (le_refl frame.length)
  rw [List.take_of_length_le journal_length.le, given_state_length] at hall
  obtain ⟨hpositions, horders, hwarnings⟩ := lists_finish symbol config last frame.length
    (given_run symbol config frame targets reasons)
  obtain ⟨closing, hfills, hclosing⟩ := fills_finish symbol config last frame.length
    (given_run symbol config frame targets reasons)
  constructor
  case bars => exact journal_length
  case states =>
    intro j hj
    exact ⟨_, run_bars_targets hfit symbol config j,
      journals_given_state symbol config targets reasons hj⟩
  case output =>
    refine ⟨hpositions.trans hall.positions, horders.trans hall.orders,
      hwarnings.trans hall.warnings, closing, ?_, hclosing⟩
    rw [← hall.fills]
    exact hfills
  case quantity =>
    intro j bar hbar
    obtain ⟨step, hstep, rfl⟩ := journal_getElem? hbar
    have hj := (List.getElem?_eq_some_iff.mp hbar).1
    rw [journal_length] at hj
    rw [← (tracked_given_state symbol config reasons hwhole (show j + 1 ≤ frame.length from hj)).2,
      given_state_succ symbol config hstep, quantity_given_bar]
  case first =>
    intro bar hbar
    obtain ⟨step, -, rfl⟩ := journal_getElem? hbar
    exact ⟨rfl, rfl⟩
  case resolved => exact fun i bar order => resolved_at_next_bar
  case idle => exact fun i bar next => idle_at_next_bar
  case on_target => exact fun i next => on_target_at_next_bar hfit hwhole
  case last =>
    -- There is no bar after the last one to place an order for.
    intro bar hbar
    rw [List.getLast?_eq_getElem?, journal_length] at hbar
    refine order_of_last_bar ?_ hbar
    rw [List.getElem?_eq_none_iff]
    omega
  case closed =>
    intro hliquidate
    have hstate := (tracked_given_state symbol config reasons hwhole (le_refl frame.length)).1
    have hlength := equity_values_given_state symbol config targets reasons (le_refl frame.length)
    rw [given_state_length] at hstate hlength
    simp only [LoopState.output, finish, hliquidate, if_true]
    exact ⟨hstate.liquidate last frame.length,
      equity_of_liquidate hstate hlength hfit.bars last⟩

end Run

/-- The account of a run that holds ten units for two bars. -/
theorem targets_tracked_on_three_bars :
    ∃ out, simulate_targets three_bars [10, 10, 0] "SYNTHETIC" none default "targets" = .ok out ∧
      ∃ records, Tracks "SYNTHETIC" default three_bars [10, 10, 0] none out records :=
  targets_tracked "targets" ⟨by simp [three_bars], rfl, by simp⟩ (by decide +kernel)

end Quantora
