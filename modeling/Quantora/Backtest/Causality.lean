import Quantora.Framework.Outcome
import Quantora.Backtest.Steps

/-! # No look-ahead in the engine

    Two runs of `simulate` whose inputs agree up to bar `k` agree on everything
    decided or executed up to bar `k`, whatever the later bars contain.

    * `Appends` — what one iteration adds to the output, and how it is stamped.
    * `Extends` — what the iterations after bar `k` can do to the output of the
      first ones: only append, and only with later stamps.
    * `no_look_ahead` — the loop over the common bars is the same loop
      (`Loop.runE_congr`), and everything after it is later. -/

namespace Quantora

open Python (PyError)

/-! ## What one iteration appends -/

/-- The output of one iteration over `bar`. -/
structure Appends {σ : Type} (bar : Bar) (next : Option Timestamp) (st st' : LoopState σ) :
    Prop where
  fills : ∃ new, st'.fills = st.fills ++ new ∧ ∀ fill ∈ new, fill.timestamp = bar.timestamp ∧
    ∃ order ∈ st.pending, order.timestamp = fill.timestamp ∧ order.side = fill.side
  orders : ∃ new, st'.orders = st.orders ++ new ∧
    ∀ order ∈ new, order.decision_timestamp = bar.timestamp ∧ next = some order.timestamp
  pending : ∀ order ∈ st'.pending, order ∈ st'.orders
  positions : ∃ new, st'.positions = st.positions ++ [new]
  equity : ∃ new, st'.equity_values = st.equity_values ++ [new]
  exposure : ∃ new, st'.exposure_values = st.exposure_values ++ [new]
  warnings : ∃ new, st'.warnings = st.warnings ++ new

section Iteration

variable {σ : Type} {symbol : String} {config : BacktestConfig} {decide : DecisionFn σ} {i : ℕ}
  {bar : Bar} {next : Option Timestamp} {st st' : LoopState σ}

/-- A settled fill is stamped with the bar and executes the order that waited. -/
theorem of_settlement {market : MarketEvent} {fill : FillEvent}
    (h : fill ∈ (st.settlement config market).1) (hsched : st.Scheduled market.timestamp) :
    fill.timestamp = market.timestamp ∧
      ∃ order ∈ st.pending, order.timestamp = fill.timestamp ∧ order.side = fill.side := by
  unfold LoopState.settlement at h
  cases hpending : st.pending with
  | none => rw [hpending] at h; cases h
  | some order =>
    rw [hpending] at h
    obtain ⟨quantity, rfl, -, -⟩ := fill_order_eq_some h
    exact ⟨rfl, order, rfl, hsched order hpending, rfl⟩

theorem observe_appends (hsched : st.Scheduled bar.timestamp) :
    Appends bar next st (st.observe symbol config i (bar.market symbol)) := by
  constructor
  -- At most one fill and no order; one point on each curve.
  · refine ⟨(st.settlement config (bar.market symbol)).1.toList, ?_, ?_⟩
    · simp [LoopState.observe, LoopState.settle, LoopState.mark]
    · intro fill hfill
      exact of_settlement (Option.mem_toList.mp hfill) hsched
  · exact ⟨[], by simp [LoopState.observe, LoopState.settle, LoopState.mark], by simp⟩
  · intro order horder
    cases horder
  · exact ⟨_, by simp [LoopState.observe, LoopState.settle, LoopState.mark]; rfl⟩
  · exact ⟨_, by simp [LoopState.observe, LoopState.settle, LoopState.mark]; rfl⟩
  · exact ⟨_, by simp [LoopState.observe, LoopState.settle, LoopState.mark]; rfl⟩
  · exact ⟨_, by simp [LoopState.observe, LoopState.settle, LoopState.mark]; rfl⟩

theorem Appends.place {execution_timestamp : Timestamp}
    (h : Appends bar (some execution_timestamp) st st') (decision : TargetDecision × σ) :
    Appends bar (some execution_timestamp) st
      (st'.place symbol (bar.market symbol) execution_timestamp decision) := by
  refine { h with orders := ?_, pending := ?_ }
  · obtain ⟨new, hnew, hstamps⟩ := h.orders
    refine ⟨new ++ (pending_order bar.timestamp execution_timestamp symbol
      (decision.1.1 - st'.portfolio.quantity symbol) decision.1.2).toList, ?_, ?_⟩
    · simp [LoopState.place, hnew, Bar.market]
    · intro order horder
      rcases List.mem_append.mp horder with hold | hplaced
      · exact hstamps order hold
      · obtain ⟨hdecision, hexecution, -⟩ := pending_order_eq_some (Option.mem_toList.mp hplaced)
        exact ⟨hdecision, congrArg some hexecution.symm⟩
  · intro order horder
    exact List.mem_append_right _ (Option.mem_toList.mpr horder)

/-- **What one iteration does to the output**: it appends, stamped with its bar. -/
theorem run_bar_appends (h : run_bar symbol config decide i (bar, next) st = .ok st') :
    Appends bar next st st' := by
  have hsched := scheduled_of_run_bar h
  rw [run_bar_eq hsched] at h
  cases next with
  | none =>
    obtain rfl := Except.ok.inj h
    exact observe_appends hsched
  | some execution_timestamp =>
    simp only at h
    cases hdecide : decide _ _ _ _ _ _ with
    | error e => rw [hdecide] at h; cases h
    | ok decision =>
      rw [hdecide] at h
      obtain rfl := Except.ok.inj h
      exact (observe_appends hsched).place decision

end Iteration

/-! ## What later bars can do to earlier output -/

/-- `st` has the output of `past`, and more that is stamped after `t`. -/
structure Extends {σ : Type} (t : Timestamp) (past st : LoopState σ) : Prop where
  fills : ∃ later, st.fills = past.fills ++ later ∧ ∀ fill ∈ later, t < fill.timestamp
  orders : ∃ later, st.orders = past.orders ++ later ∧
    ∀ order ∈ later, t < order.decision_timestamp
  positions : past.positions <+: st.positions
  equity : past.equity_values <+: st.equity_values
  exposure : past.exposure_values <+: st.exposure_values
  warnings : past.warnings <+: st.warnings

theorem Extends.refl {σ : Type} (t : Timestamp) (st : LoopState σ) : Extends t st st :=
  ⟨⟨[], by simp⟩, ⟨[], by simp⟩, List.prefix_rfl, List.prefix_rfl, List.prefix_rfl, List.prefix_rfl⟩

section Later

variable {σ : Type} {t : Timestamp} {past st st' : LoopState σ} {bar : Bar}

/-- **Step lemma**: an iteration over a later bar. -/
theorem Extends.appends {next : Option Timestamp} (h : Extends t past st)
    (hlater : t < bar.timestamp)
    (happ : Appends bar next st st') : Extends t past st' := by
  obtain ⟨fills, hfills, hfts⟩ := h.fills
  obtain ⟨orders, horders, hots⟩ := h.orders
  obtain ⟨new_fills, hnew_fills, hnfts⟩ := happ.fills
  obtain ⟨new_orders, hnew_orders, hnots⟩ := happ.orders
  constructor
  · refine ⟨fills ++ new_fills, by rw [hnew_fills, hfills, List.append_assoc], ?_⟩
    intro fill hfill
    -- What is new is stamped with this bar, which is later than `t`.
    rcases List.mem_append.mp hfill with hold | hnew
    · exact hfts fill hold
    · exact (hnfts fill hnew).1.symm ▸ hlater
  · refine ⟨orders ++ new_orders, by rw [hnew_orders, horders, List.append_assoc], ?_⟩
    intro order horder
    rcases List.mem_append.mp horder with hold | hnew
    · exact hots order hold
    · exact (hnots order hnew).1.symm ▸ hlater
  · obtain ⟨new, hnew⟩ := happ.positions
    exact hnew ▸ h.positions.trans (List.prefix_append _ _)
  · obtain ⟨new, hnew⟩ := happ.equity
    exact hnew ▸ h.equity.trans (List.prefix_append _ _)
  · obtain ⟨new, hnew⟩ := happ.exposure
    exact hnew ▸ h.exposure.trans (List.prefix_append _ _)
  · obtain ⟨new, hnew⟩ := happ.warnings
    exact hnew ▸ h.warnings.trans (List.prefix_append _ _)

theorem prefix_dropLast_append {α : Type} {l l' : List α} (h : l <+: l')
    (hlt : l.length < l'.length) (x : α) : l <+: l'.dropLast ++ [x] := by
  obtain ⟨rest, rfl⟩ := h
  have hrest : rest ≠ [] := by
    rintro rfl
    simp at hlt
  rw [List.dropLast_append_of_ne_nil hrest, List.append_assoc]
  exact List.prefix_append _ _

/-- The close-out changes the last point only, and fills at the last bar. -/
theorem Extends.close_out {symbol : String} {frame : List Bar} {config : BacktestConfig}
    {last : Bar} (h : Extends t past st) (hlast : frame.getLast? = some last)
    (hlater : t < last.timestamp) (hequity : past.equity_values.length < st.equity_values.length)
    (hexposure : past.exposure_values.length < st.exposure_values.length)
    (hrun : close_out symbol frame config st = .ok st') : Extends t past st' := by
  rw [Quantora.close_out] at hrun
  split_ifs at hrun
  swap
  · obtain rfl := Except.ok.inj hrun
    exact h
  rw [hlast] at hrun
  obtain rfl := Except.ok.inj hrun
  by_cases hflat : (st.portfolio.position symbol).is_flat = true
  · simp only [liquidate, if_pos hflat]
    exact { h with
      equity := prefix_dropLast_append h.equity hequity _
      exposure := prefix_dropLast_append h.exposure hexposure _ }
  -- The liquidation fills at the last bar, after `t`.
  · simp only [liquidate, if_neg hflat]
    refine { h with
      fills := ?_
      equity := prefix_dropLast_append h.equity hequity _
      exposure := prefix_dropLast_append h.exposure hexposure _ }
    obtain ⟨later, hfills, hts⟩ := h.fills
    refine ⟨later ++ [_], by simp only [LoopState.book, hfills, List.append_assoc]; rfl, ?_⟩
    intro fill hfill
    rcases List.mem_append.mp hfill with hold | hnew
    · exact hts fill hold
    · obtain rfl := List.mem_singleton.mp hnew
      exact hlater

end Later

/-! ## The output up to a bar -/

/-- The state after the first `m` bars of a run of `simulate`. -/
def state_after (series : PriceSeries) (strategy : Strategy) (signals : SignalSet)
    (config : BacktestConfig) (m : ℕ) : Except PyError (LoopState (Option SignalDirection)) :=
  Loop.runE (run_bar series.symbol config (simulate_decide strategy config series.symbol signals)) 0
    ((Loop.withNext Bar.timestamp series.frame.bars).take m)
    { portfolio := Portfolio.new config.initial_cash, closure := none }

/-- What the run has put out after `m` bars: stamped with one of them, every
    order scheduled one bar after its decision, every fill at the bar for which
    its order is scheduled. -/
structure Within {σ : Type} (index : List Timestamp) (m : ℕ) (st : LoopState σ) : Prop where
  fills : ∀ fill ∈ st.fills, fill.timestamp ∈ index.take m
  orders : ∀ order ∈ st.orders, ∃ i < m,
    index[i]? = some order.decision_timestamp ∧ index[i + 1]? = some order.timestamp
  pending : ∀ order ∈ st.pending, order ∈ st.orders
  executed : ∀ fill ∈ st.fills,
    ∃ order ∈ st.orders, order.timestamp = fill.timestamp ∧ order.side = fill.side
  positions : st.positions.length = m
  equity : st.equity_values.length = m
  exposure : st.exposure_values.length = m

theorem Within.appends {σ : Type} {frame : List Bar} {m : ℕ} {st st' : LoopState σ} {bar : Bar}
    (h : Within (frame.map Bar.timestamp) m st) (hbar : frame[m]? = some bar)
    (happ : Appends bar (frame[m + 1]?.map Bar.timestamp) st st') :
    Within (frame.map Bar.timestamp) (m + 1) st' := by
  have hindex : (frame.map Bar.timestamp)[m]? = some bar.timestamp := by simp [hbar]
  obtain ⟨fills, hfills, hfts⟩ := happ.fills
  obtain ⟨orders, horders, hots⟩ := happ.orders
  constructor
  · intro fill hfill
    rw [hfills] at hfill
    rw [List.take_add_one, hindex]
    rcases List.mem_append.mp hfill with hold | hfresh
    · exact List.mem_append_left _ (h.fills fill hold)
    · exact List.mem_append_right _ (by simp [(hfts fill hfresh).1])
  · intro order horder
    rw [horders] at horder
    rcases List.mem_append.mp horder with hold | hfresh
    · obtain ⟨i, hi, hstamps⟩ := h.orders order hold
      exact ⟨i, by omega, hstamps⟩
    · obtain ⟨hdecision, hexecution⟩ := hots order hfresh
      refine ⟨m, by omega, ?_, ?_⟩
      · rw [hindex, hdecision]
      · rw [List.getElem?_map, hexecution]
  · exact happ.pending
  · intro fill hfill
    rw [hfills] at hfill
    rw [horders]
    -- A new fill executes the order that was waiting, and that one is recorded.
    rcases List.mem_append.mp hfill with hold | hfresh
    · obtain ⟨order, horder, hexec⟩ := h.executed fill hold
      exact ⟨order, List.mem_append_left _ horder, hexec⟩
    · obtain ⟨order, horder, hexec⟩ := (hfts fill hfresh).2
      exact ⟨order, List.mem_append_left _ (h.pending order horder), hexec⟩
  · obtain ⟨new, hnew⟩ := happ.positions
    simp [hnew, h.positions]
  · obtain ⟨new, hnew⟩ := happ.equity
    simp [hnew, h.equity]
  · obtain ⟨new, hnew⟩ := happ.exposure
    simp [hnew, h.exposure]

section Run

variable {series : PriceSeries} {strategy : Strategy} {signals : SignalSet}
  {config : BacktestConfig}

/-- **Run lemma**: the output after `m` bars is stamped with the first `m` bars. -/
theorem within_state_after {m : ℕ} {st : LoopState (Option SignalDirection)}
    (hm : m ≤ series.frame.bars.length)
    (h : state_after series strategy signals config m = .ok st) :
    Within series.frame.index m st := by
  have hinv := Loop.runE_invariant (fun j st => Within series.frame.index j st)
    (fun j step st st' hstep hwithin hrun => by
      rw [Nat.zero_add] at hwithin hrun ⊢
      have hitem := hstep
      rw [List.getElem?_take] at hitem
      split_ifs at hitem with hlt
      rw [Loop.withNext_getElem?] at hitem
      obtain ⟨bar, hbar, rfl⟩ := Option.map_eq_some_iff.mp hitem
      exact hwithin.appends hbar (run_bar_appends hrun))
    (by constructor <;> simp) h
  simpa [hm] using hinv

/-- A run of `simulate` is a run over its first `m` bars, a run over the others,
    and the close-out. -/
theorem simulate_eq_ok {out : SimulationOutput}
    (h : simulate series strategy signals config = .ok out) (m : ℕ) :
    ∃ past st st', state_after series strategy signals config m = .ok past ∧
      Loop.runE (run_bar series.symbol config
        (simulate_decide strategy config series.symbol signals))
        ((Loop.withNext Bar.timestamp series.frame.bars).take m).length
        ((Loop.withNext Bar.timestamp series.frame.bars).drop m) past = .ok st ∧
      close_out series.symbol series.frame.bars config st = .ok st' ∧
      out = st'.output series.symbol strategy.name (some signals) series.frame.bars := by
  unfold simulate at h
  split_ifs at h
  unfold run_execution run_bars at h
  cases hloop : Loop.runE (run_bar series.symbol config
      (simulate_decide strategy config series.symbol signals)) 0
      (Loop.withNext Bar.timestamp series.frame.bars)
      { portfolio := Portfolio.new config.initial_cash, closure := none } with
  | error e => simp [hloop, bind, Except.bind] at h
  | ok st =>
    simp only [hloop, bind, Except.bind] at h
    cases hclose : close_out series.symbol series.frame.bars config st with
    | error e => simp [hclose] at h
    | ok st' =>
      simp only [hclose] at h
      -- The loop over all bars is the one over the first `m`, then the rest.
      rw [← List.take_append_drop m (Loop.withNext Bar.timestamp series.frame.bars),
        Loop.runE_append_eq_ok] at hloop
      obtain ⟨past, hpast, hrest⟩ := hloop
      rw [Nat.zero_add] at hrest
      exact ⟨past, st, st', hpast, hrest, hclose, (Except.ok.inj h).symm⟩

/-- Timestamps up to bar `k` are at most bar `k`'s, those after it are later. -/
theorem index_le {frame : PriceFrame} {i k : ℕ} {s t : Timestamp} (hs : frame.index[i]? = some s)
    (ht : frame.index[k]? = some t) (hik : i ≤ k) : s ≤ t := by
  rcases Nat.eq_or_lt_of_le hik with rfl | hlt
  · exact (Option.some.inj (hs.symm.trans ht)).le
  · obtain ⟨hi, rfl⟩ := List.getElem?_eq_some_iff.mp hs
    obtain ⟨hk, rfl⟩ := List.getElem?_eq_some_iff.mp ht
    exact (List.pairwise_iff_getElem.mp frame.index_increasing i k hi hk hlt).le

theorem index_lt {frame : PriceFrame} {k i : ℕ} {s t : Timestamp} (ht : frame.index[k]? = some t)
    (hs : frame.index[i]? = some s) (hki : k < i) : t < s := by
  obtain ⟨hi, rfl⟩ := List.getElem?_eq_some_iff.mp hs
  obtain ⟨hk, rfl⟩ := List.getElem?_eq_some_iff.mp ht
  exact List.pairwise_iff_getElem.mp frame.index_increasing k i hk hi hki

/-- **Run lemma**: the bars after bar `k` and the close-out extend the output of
    the first `k + 1` bars. -/
theorem simulate_extends {out : SimulationOutput} {k : ℕ} {t : Timestamp}
    (h : simulate series strategy signals config = .ok out)
    (hlong : k + 1 < series.frame.bars.length) (ht : series.frame.index[k]? = some t) :
    ∃ past st, state_after series strategy signals config (k + 1) = .ok past ∧
      Within series.frame.index (k + 1) past ∧ Extends t past st ∧
      out = st.output series.symbol strategy.name (some signals) series.frame.bars := by
  obtain ⟨past, st, st', hpast, hrest, hclose, rfl⟩ := simulate_eq_ok h (k + 1)
  have hwithin := within_state_after (by omega) hpast
  have hlen : ((Loop.withNext Bar.timestamp series.frame.bars).take (k + 1)).length = k + 1 := by
    simp; omega
  rw [hlen] at hrest
  -- Every later iteration extends the output, and marks one more bar.
  have hinv := Loop.runE_invariant
    (fun j st => Extends t past st ∧ st.equity_values.length = j ∧ st.exposure_values.length = j)
    (fun j step st st' hstep hext hrun => by
      have hitem := hstep
      rw [List.getElem?_drop, Loop.withNext_getElem?] at hitem
      obtain ⟨bar, hbar, rfl⟩ := Option.map_eq_some_iff.mp hitem
      have happ := run_bar_appends hrun
      have hlater : t < bar.timestamp :=
        index_lt (i := k + 1 + j) ht (by simp [PriceFrame.index, hbar]) (by omega)
      obtain ⟨e, he⟩ := happ.equity
      obtain ⟨x, hx⟩ := happ.exposure
      refine ⟨hext.1.appends hlater happ, ?_, ?_⟩
      · simp [he, hext.2.1]
      · simp [hx, hext.2.2])
    ⟨Extends.refl t past, hwithin.equity, hwithin.exposure⟩ hrest
  obtain ⟨hext, hequity, hexposure⟩ := hinv
  have hn : (Loop.withNext Bar.timestamp series.frame.bars).drop (k + 1) ≠ [] := by
    intro hnil
    have := congrArg List.length hnil
    simp at this
    omega
  have hdrop : 0 < ((Loop.withNext Bar.timestamp series.frame.bars).drop (k + 1)).length :=
    List.length_pos_iff.mpr hn
  have hbars : series.frame.bars ≠ [] := by
    intro hnil
    simp [hnil] at hlong
  obtain ⟨last, hlast⟩ : ∃ last, series.frame.bars.getLast? = some last :=
    ⟨_, List.getLast?_eq_some_getLast hbars⟩
  have hlater : t < last.timestamp := by
    refine index_lt (i := series.frame.bars.length - 1) ht ?_ (by omega)
    rw [List.getLast?_eq_getElem?] at hlast
    simp [PriceFrame.index, hlast]
  refine ⟨past, st', hpast, hwithin, ?_, rfl⟩
  refine hext.close_out hlast hlater ?_ ?_ hclose
  · rw [hwithin.equity, hequity]
    omega
  · rw [hwithin.exposure, hexposure]
    omega

/-- Every order executes on the bar after the one it was decided on, and every
    fill executes an order of the run or liquidates at the last bar. -/
structure NextBar (index : List Timestamp) (out : SimulationOutput) : Prop where
  orders : ∀ order ∈ out.orders, ∃ i : ℕ,
    index[i]? = some order.decision_timestamp ∧ index[i + 1]? = some order.timestamp
  fills : ∀ fill ∈ out.fills,
    (∃ order ∈ out.orders, order.timestamp = fill.timestamp ∧ order.side = fill.side) ∨
      (fill.reason = LIQUIDATION_REASON ∧ index.getLast? = some fill.timestamp)

theorem simulate_next_bar {out : SimulationOutput}
    (h : simulate series strategy signals config = .ok out) : NextBar series.frame.index out := by
  obtain ⟨past, st, st', hpast, hrest, hclose, rfl⟩ := simulate_eq_ok h series.frame.bars.length
  have hwithin := within_state_after (le_refl _) hpast
  -- All bars are past: there is no later iteration.
  have hdrop : (Loop.withNext Bar.timestamp series.frame.bars).drop series.frame.bars.length
      = [] := List.drop_of_length_le (by simp)
  rw [hdrop, Loop.runE_nil] at hrest
  obtain rfl := Except.ok.inj hrest
  have hexecuted : ∀ fill ∈ past.fills, (∃ order ∈ past.orders,
      order.timestamp = fill.timestamp ∧ order.side = fill.side) ∨
      (fill.reason = LIQUIDATION_REASON ∧ series.frame.index.getLast? = some fill.timestamp) :=
    fun fill hfill => Or.inl (hwithin.executed fill hfill)
  have horders : ∀ order ∈ past.orders, ∃ i : ℕ,
      series.frame.index[i]? = some order.decision_timestamp ∧
        series.frame.index[i + 1]? = some order.timestamp := by
    intro order horder
    obtain ⟨i, -, hstamps⟩ := hwithin.orders order horder
    exact ⟨i, hstamps⟩
  rw [close_out] at hclose
  split_ifs at hclose
  swap
  · obtain rfl := Except.ok.inj hclose
    exact ⟨horders, hexecuted⟩
  cases hlast : series.frame.bars.getLast? with
  | none => rw [hlast] at hclose; cases hclose
  | some last =>
    rw [hlast] at hclose
    obtain rfl := Except.ok.inj hclose
    by_cases hflat : (past.portfolio.position series.symbol).is_flat = true
    · simp only [liquidate, if_pos hflat]
      exact ⟨horders, hexecuted⟩
    · simp only [liquidate, if_neg hflat]
      refine ⟨horders, fun fill hfill => ?_⟩
      rcases List.mem_append.mp hfill with hold | hliquidation
      · exact hexecuted fill hold
      · obtain rfl := List.mem_singleton.mp hliquidation
        exact Or.inr ⟨rfl, by simp [PriceFrame.index, hlast, liquidation_fill]⟩

end Run

/-! ## Two runs that share a past -/

/-- Two inputs that agree on bars `0 … k`: prices, signals, indicators and the
    stamp of the bar on which the last common decision executes. -/
structure AgreeThrough (k : ℕ) (series series' : PriceSeries) (signals signals' : SignalSet) :
    Prop where
  symbol : series'.symbol = series.symbol
  bars : series'.frame.bars.take (k + 1) = series.frame.bars.take (k + 1)
  next : series'.frame.index[k + 1]? = series.frame.index[k + 1]?
  rows : signals'.frame.take (k + 1) = signals.frame.take (k + 1)
  indicators : ∀ t ∈ series.frame.index.take (k + 1),
    indicator_row signals'.indicators t = indicator_row signals.indicators t

/-- The closure reads one signal row and one indicator row. -/
theorem simulate_decide_congr {strategy : Strategy} {config : BacktestConfig} {symbol : String}
    {signals signals' : SignalSet} {i : ℕ} {market : MarketEvent}
    (hrow : signals'.frame[i]? = signals.frame[i]?)
    (hindicators : indicator_row signals'.indicators market.timestamp
      = indicator_row signals.indicators market.timestamp)
    (portfolio : Portfolio) (suppressed : Option SignalDirection) (equity : ℚ)
    (position : PositionState) :
    simulate_decide strategy config symbol signals' portfolio suppressed i market equity position
      = simulate_decide strategy config symbol signals portfolio suppressed i market equity
          position := by
  simp only [simulate_decide, exit_reason, sizing_context, hrow, hindicators]

theorem run_bar_congr {σ : Type} {symbol : String} {config : BacktestConfig}
    {decide decide' : DecisionFn σ} {i : ℕ} {step : Bar × Option Timestamp}
    (h : ∀ portfolio closure equity position,
      decide' portfolio closure i (step.1.market symbol) equity position
        = decide portfolio closure i (step.1.market symbol) equity position)
    (st : LoopState σ) :
    run_bar symbol config decide' i step st = run_bar symbol config decide i step st := by
  simp only [run_bar, h]

section TwoRuns

variable {series series' : PriceSeries} {strategy : Strategy} {signals signals' : SignalSet}
  {config : BacktestConfig} {k : ℕ} {t : Timestamp} {out out' : SimulationOutput}

/-- **The common past**: the loop over the common bars is one and the same. -/
theorem AgreeThrough.state_after (h : AgreeThrough k series series' signals signals') :
    state_after series' strategy signals' config (k + 1)
      = state_after series strategy signals config (k + 1) := by
  have hnext : series'.frame.bars[k + 1]?.map Bar.timestamp
      = series.frame.bars[k + 1]?.map Bar.timestamp := by
    have := h.next
    simpa [PriceFrame.index] using this
  unfold Quantora.state_after
  rw [Loop.withNext_take_eq Bar.timestamp h.bars hnext, h.symbol]
  refine Loop.runE_congr fun j step st hstep => ?_
  rw [Nat.zero_add]
  refine run_bar_congr (fun portfolio closure equity position => ?_) st
  rw [List.getElem?_take] at hstep
  split_ifs at hstep with hj
  rw [Loop.withNext_getElem?] at hstep
  obtain ⟨bar, hbar, rfl⟩ := Option.map_eq_some_iff.mp hstep
  -- Bar `j` is a common one, so its signal row and its indicator row agree.
  refine simulate_decide_congr ?_ ?_ portfolio closure equity position
  · have := congrArg (fun rows => rows[j]?) h.rows
    simpa [List.getElem?_take, hj] using this
  · refine h.indicators bar.timestamp (List.mem_of_getElem? (i := j) ?_)
    rw [List.getElem?_take, if_pos hj]
    simp [PriceFrame.index, hbar]

/-- What two outputs share up to bar `k`, which is stamped `t`. -/
structure SamePast (k : ℕ) (t : Timestamp) (out out' : SimulationOutput) : Prop where
  orders : out'.orders.filter (fun order => order.decision_timestamp ≤ t)
    = out.orders.filter (fun order => order.decision_timestamp ≤ t)
  fills : out'.fills.filter (fun fill => fill.timestamp ≤ t)
    = out.fills.filter (fun fill => fill.timestamp ≤ t)
  positions : out'.positions.take (k + 1) = out.positions.take (k + 1)
  equity : out'.equity_curve.take (k + 1) = out.equity_curve.take (k + 1)
  exposure : out'.exposure.take (k + 1) = out.exposure.take (k + 1)

theorem filter_append_eq {α : Type} {p : α → Bool} {past later : List α}
    (hpast : ∀ a ∈ past, p a = true) (hlater : ∀ a ∈ later, p a = false) :
    (past ++ later).filter p = past := by
  rw [List.filter_append, List.filter_eq_self.mpr hpast,
    List.filter_eq_nil_iff.mpr (fun a ha => by simp [hlater a ha]), List.append_nil]

/-- The output up to bar `k`, read off the state after bar `k`. -/
theorem Extends.output {past st : LoopState (Option SignalDirection)}
    (hext : Extends t past st) (hwithin : Within series.frame.index (k + 1) past)
    (ht : series.frame.index[k]? = some t) :
    st.orders.filter (fun order => order.decision_timestamp ≤ t) = past.orders ∧
      st.fills.filter (fun fill => fill.timestamp ≤ t) = past.fills ∧
      st.positions.take (k + 1) = past.positions ∧
      (series.frame.index.zip st.equity_values).take (k + 1)
        = (series.frame.index.take (k + 1)).zip past.equity_values ∧
      (series.frame.index.zip st.exposure_values).take (k + 1)
        = (series.frame.index.take (k + 1)).zip past.exposure_values := by
  refine ⟨?_, ?_, ?_, ?_, ?_⟩
  · obtain ⟨later, heq, hlater⟩ := hext.orders
    rw [heq]
    -- What is past is decided by bar `k`, the rest after it.
    refine filter_append_eq (fun order horder => ?_) (fun order horder => ?_)
    · obtain ⟨i, hi, hdecision, -⟩ := hwithin.orders order horder
      simpa using index_le hdecision ht (by omega)
    · simpa using hlater order horder
  · obtain ⟨later, heq, hlater⟩ := hext.fills
    rw [heq]
    refine filter_append_eq (fun fill hfill => ?_) (fun fill hfill => ?_)
    · obtain ⟨i, hi⟩ := List.mem_iff_getElem?.mp (hwithin.fills fill hfill)
      rw [List.getElem?_take] at hi
      split_ifs at hi with hik
      simpa using index_le hi ht (by omega)
    · simpa using hlater fill hfill
  · rw [List.prefix_iff_eq_take.mp hext.positions, hwithin.positions]
  · rw [List.zip, List.take_zipWith, List.prefix_iff_eq_take.mp hext.equity, hwithin.equity]
  · rw [List.zip, List.take_zipWith, List.prefix_iff_eq_take.mp hext.exposure, hwithin.exposure]

/-- **No look-ahead.** Two runs of one strategy under one configuration, on
    inputs that agree through bar `k` and go on for longer: the orders decided,
    and the fills, warnings, position events, equity and exposure recorded up to
    bar `k` are the same. Every order executes exactly one bar after its
    decision. -/
theorem no_look_ahead (hagree : AgreeThrough k series series' signals signals')
    (hlong : k + 1 < series.frame.bars.length) (hlong' : k + 1 < series'.frame.bars.length)
    (ht : series.frame.index[k]? = some t)
    (hrun : simulate series strategy signals config = .ok out)
    (hrun' : simulate series' strategy signals' config = .ok out') :
    SamePast k t out out' ∧
      (∃ past, state_after series strategy signals config (k + 1) = .ok past ∧
        state_after series' strategy signals' config (k + 1) = .ok past ∧
        past.warnings <+: out.warnings ∧ past.warnings <+: out'.warnings) ∧
      NextBar series.frame.index out ∧ NextBar series'.frame.index out' := by
  have hindex : series'.frame.index.take (k + 1) = series.frame.index.take (k + 1) := by
    simp only [PriceFrame.index, ← List.map_take, hagree.bars]
  have ht' : series'.frame.index[k]? = some t := by
    have := congrArg (fun index => index[k]?) hindex
    simpa [List.getElem?_take, ht] using this
  obtain ⟨past, st, hpast, hwithin, hext, rfl⟩ := simulate_extends hrun hlong ht
  obtain ⟨past', st', hpast', hwithin', hext', rfl⟩ := simulate_extends hrun' hlong' ht'
  have hsame := hpast'
  rw [hagree.state_after, hpast] at hsame
  obtain rfl := Except.ok.inj hsame
  obtain ⟨horders, hfills, hpositions, hequity, hexposure⟩ := hext.output hwithin ht
  obtain ⟨horders', hfills', hpositions', hequity', hexposure'⟩ := hext'.output hwithin' ht'
  refine ⟨⟨horders'.trans horders.symm, hfills'.trans hfills.symm,
    hpositions'.trans hpositions.symm, ?_, ?_⟩,
    ⟨past, hpast, hpast', hext.warnings, hext'.warnings⟩,
    simulate_next_bar hrun, simulate_next_bar hrun'⟩
  · rw [hindex] at hequity'
    exact hequity'.trans hequity.symm
  · rw [hindex] at hexposure'
    exact hexposure'.trans hexposure.symm

end TwoRuns

/-- Four daily bars; only the last close is a parameter. -/
def four_bars (last_close : ℚ) : PriceSeries where
  symbol := "TCS.NS"
  interval := "1d"
  frame :=
    { bars :=
        [ { timestamp := 0, open_ := 100, high := 102, low := 99, close := 101, adj_close := 101,
            volume := 1000 },
          { timestamp := 1, open_ := 102, high := 104, low := 101, close := 103, adj_close := 103,
            volume := 1000 },
          { timestamp := 2, open_ := 103, high := 103, low := 97, close := 98, adj_close := 98,
            volume := 1000 },
          { timestamp := 3, open_ := 98, high := 99, low := 90, close := last_close,
            adj_close := last_close, volume := 1000 } ]
      increasing := by simp }
  provenance :=
    { provider := "yfinance", provider_ticker := "TCS.NS", adjustment_policy := "raw",
      requested_start := "2024-01-01", requested_end := "2024-01-05" }

/-- Long from the first bar until the third one. -/
def four_signals (last_direction : SignalDirection) : SignalSet where
  symbol := "TCS.NS"
  strategy := "demo"
  parameters := []
  frame :=
    [ { timestamp := 0, direction := .LONG, strength := 1, reason := "enter" },
      { timestamp := 1, direction := .LONG, strength := 1, reason := "" },
      { timestamp := 2, direction := .FLAT, strength := 0, reason := "leave" },
      { timestamp := 3, direction := last_direction, strength := 1, reason := "" } ]
  indicators := []
  warmup_bars := 0
  monotonic := by simp

/-- Corrupting the last bar leaves the past of this run alone. -/
theorem no_look_ahead_on_four_bars :
    ∃ out out', simulate (four_bars 95) { name := "demo" } (four_signals .FLAT) default = .ok out ∧
      simulate (four_bars 500) { name := "demo" } (four_signals .LONG) default = .ok out' ∧
      SamePast 2 2 out out' := by
  obtain ⟨out, hout⟩ := Outcome.exists_eq_ok
    (x := simulate (four_bars 95) { name := "demo" } (four_signals .FLAT) default)
    (by decide +kernel)
  obtain ⟨out', hout'⟩ := Outcome.exists_eq_ok
    (x := simulate (four_bars 500) { name := "demo" } (four_signals .LONG) default)
    (by decide +kernel)
  have hagree : AgreeThrough 2 (four_bars 95) (four_bars 500) (four_signals .FLAT)
      (four_signals .LONG) := ⟨rfl, rfl, rfl, rfl, fun _ _ => rfl⟩
  exact ⟨out, out', hout, hout',
    (no_look_ahead hagree (by decide) (by decide) rfl hout hout').1⟩

end Quantora
