import Quantora.Backtest.Causality
import Quantora.Backtest.OneDataset
import Quantora.Strategy.Causality

/-! # No hindsight

    A backtest that goes on for longer says the same about the past. Two requests
    that differ in their last day, to providers that report one history up to
    `t`, get the same signals, orders, fills, trades, positions and equity up to
    `t`, whatever happens afterwards.

    * `ClosedOver` — the trades that a piece of a run closes, and when. A step
      lemma for one bar, a run lemma for many.
    * `SameHistory` — what the two providers share. The window, the adjustment
      and the validation work row by row, so `load_prices` keeps it.
    * `run_backtest_no_hindsight` — from the request to the result. -/

namespace Quantora

open Causal
open Python (PyError)

/-! ## When a trade is closed -/

/-- The trade that a fill closes is stamped with the fill. -/
theorem exit_timestamp_of_take_fill {position : PositionState} {fill : FillEvent} {bar_index : ℕ}
    {trade : Trade} (h : trade ∈ (position.take_fill fill bar_index).2) :
    trade.exit_timestamp = fill.timestamp := by
  unfold PositionState.take_fill at h
  by_cases hflat : position.is_flat = true
  · rw [if_pos hflat] at h
    cases h
  rw [if_neg hflat] at h
  by_cases hsame : position.sign = fill.side.sign
  · rw [if_pos hsame] at h
    cases h
  rw [if_neg hsame] at h
  -- Reversed or only reduced, the position closes one trade.
  simp only at h
  split_ifs at h
  · rw [List.mem_singleton.mp h]
    rfl
  · rw [List.mem_singleton.mp h]
    rfl

/-- Between two states trades are closed, all of them at stamps that satisfy `P`. -/
def ClosedOver {σ : Type} (P : Timestamp → Prop) (st st' : LoopState σ) : Prop :=
  ∃ new, st'.portfolio.trades = st.portfolio.trades ++ new ∧
    ∀ trade ∈ new, P trade.exit_timestamp

section Closed

variable {σ : Type} {P : Timestamp → Prop} {st st' st'' : LoopState σ} {symbol : String}
  {config : BacktestConfig} {decide : DecisionFn σ}

theorem ClosedOver.refl (st : LoopState σ) : ClosedOver P st st :=
  ⟨[], (List.append_nil _).symm, by simp⟩

theorem ClosedOver.trans (h : ClosedOver P st st') (h' : ClosedOver P st' st'') :
    ClosedOver P st st'' := by
  obtain ⟨new, hnew, hstamps⟩ := h
  obtain ⟨new', hnew', hstamps'⟩ := h'
  refine ⟨new ++ new', by rw [hnew', hnew, List.append_assoc], ?_⟩
  intro trade htrade
  rcases List.mem_append.mp htrade with hold | hlast
  · exact hstamps trade hold
  · exact hstamps' trade hlast

theorem closed_book {i : ℕ} {fill : Option FillEvent} (h : ∀ f ∈ fill, P f.timestamp) :
    ClosedOver P st (st.book i fill) := by
  cases fill with
  | none => exact ClosedOver.refl st
  | some fill =>
    refine ⟨((st.portfolio.position fill.symbol).take_fill fill i).2, rfl, ?_⟩
    intro trade htrade
    rw [exit_timestamp_of_take_fill htrade]
    exact h fill rfl

/-- **Step lemma**: an iteration closes trades at its own bar. -/
theorem closed_run_bar {i : ℕ} {bar : Bar} {next : Option Timestamp} (hbar : P bar.timestamp)
    (h : run_bar symbol config decide i (bar, next) st = .ok st') : ClosedOver P st st' := by
  have hsched := scheduled_of_run_bar h
  have hobserve : ClosedOver P st (st.observe symbol config i (bar.market symbol)) := by
    have hfills : ∀ fill ∈ (st.settlement config (bar.market symbol)).1, P fill.timestamp := by
      intro fill hfill
      rw [(of_settlement hfill hsched).1]
      exact hbar
    exact closed_book hfills
  cases next with
  | none =>
    rw [run_bar_last h]
    exact hobserve
  | some execution_timestamp =>
    obtain ⟨decision, -, rfl⟩ := run_bar_mid h
    exact hobserve

/-- **Run lemma**: so do the iterations over a list of bars. -/
theorem closed_runE {steps : List (Bar × Option Timestamp)} {i : ℕ}
    (hsteps : ∀ step ∈ steps, P step.1.timestamp)
    (h : Loop.runE (run_bar symbol config decide) i steps st = .ok st') : ClosedOver P st st' := by
  refine Loop.runE_invariant (fun _ now => ClosedOver P st now) ?_ (ClosedOver.refl st) h
  intro j step now now' hstep hclosed hrun
  exact hclosed.trans (closed_run_bar (hsteps step (List.mem_of_getElem? hstep)) hrun)

/-- The close-out closes its trade at the last bar. -/
theorem closed_close_out {frame : List Bar}
    (hlast : ∀ last, frame.getLast? = some last → P last.timestamp)
    (h : close_out symbol frame config st = .ok st') : ClosedOver P st st' := by
  rw [close_out] at h
  by_cases hliquidate : config.liquidate_at_end = true
  · rw [if_pos hliquidate] at h
    cases hframe : frame.getLast? with
    | none =>
      rw [hframe] at h
      cases h
    | some last =>
      rw [hframe] at h
      obtain rfl := Except.ok.inj h
      by_cases hflat : (st.portfolio.position symbol).is_flat = true
      · simp only [liquidate, if_pos hflat]
        exact ClosedOver.refl st
      · simp only [liquidate, if_neg hflat]
        have hfills : ∀ fill ∈ some (liquidation_fill symbol last config
            (st.portfolio.position symbol)), P fill.timestamp := by
          intro fill hfill
          obtain rfl := Option.some.inj hfill
          exact hlast last hframe
        exact closed_book hfills
  · rw [if_neg hliquidate] at h
    obtain rfl := Except.ok.inj h
    exact ClosedOver.refl st

end Closed

/-! ## Two simulations -/

section Simulations

variable {series series' : PriceSeries} {strategy : Strategy} {signals signals' : SignalSet}
  {config : BacktestConfig} {k : ℕ} {t : Timestamp} {out out' : SimulationOutput}

/-- The bars of the first iterations, and those of the later ones. -/
theorem timestamp_of_mem_take {step : Bar × Option Timestamp}
    (ht : series.frame.index[k]? = some t)
    (hstep : step ∈ (Loop.withNext Bar.timestamp series.frame.bars).take (k + 1)) :
    step.1.timestamp ≤ t := by
  obtain ⟨j, hj⟩ := List.mem_iff_getElem?.mp hstep
  rw [List.getElem?_take] at hj
  split_ifs at hj with hjk
  rw [Loop.withNext_getElem?] at hj
  obtain ⟨bar, hbar, rfl⟩ := Option.map_eq_some_iff.mp hj
  exact index_le (i := j) (by simp [PriceFrame.index, hbar]) ht (by omega)

theorem timestamp_of_mem_drop {step : Bar × Option Timestamp}
    (ht : series.frame.index[k]? = some t)
    (hstep : step ∈ (Loop.withNext Bar.timestamp series.frame.bars).drop (k + 1)) :
    t < step.1.timestamp := by
  obtain ⟨j, hj⟩ := List.mem_iff_getElem?.mp hstep
  rw [List.getElem?_drop, Loop.withNext_getElem?] at hj
  obtain ⟨bar, hbar, rfl⟩ := Option.map_eq_some_iff.mp hj
  exact index_lt (i := k + 1 + j) ht (by simp [PriceFrame.index, hbar]) (by omega)

/-- The trades closed by bar `k` are those of the state after it. -/
theorem trades_of_simulate (h : simulate series strategy signals config = .ok out)
    (hlong : k + 1 < series.frame.bars.length) (ht : series.frame.index[k]? = some t) :
    ∃ past, state_after series strategy signals config (k + 1) = .ok past ∧
      out.portfolio.trades.filter (fun trade => trade.exit_timestamp ≤ t)
        = past.portfolio.trades := by
  obtain ⟨past, st, st', hpast, hrest, hclose, rfl⟩ := simulate_eq_ok h (k + 1)
  refine ⟨past, hpast, ?_⟩
  obtain ⟨first, hfirst, hearly⟩ :=
    closed_runE (P := fun s => s ≤ t) (fun step hstep => timestamp_of_mem_take ht hstep) hpast
  have hafter : ClosedOver (fun s => t < s) past st' := by
    refine (closed_runE (fun step hstep => timestamp_of_mem_drop ht hstep) hrest).trans ?_
    refine closed_close_out (fun last hlast => ?_) hclose
    rw [List.getLast?_eq_getElem?] at hlast
    exact index_lt (i := series.frame.bars.length - 1) ht (by simp [PriceFrame.index, hlast])
      (by omega)
  obtain ⟨later, hlater, hlate⟩ := hafter
  show st'.portfolio.trades.filter _ = _
  rw [hlater]
  refine filter_append_eq (fun trade htrade => ?_) (fun trade htrade => ?_)
  · rw [hfirst] at htrade
    simpa using hearly trade (by simpa [Portfolio.new] using htrade)
  · simpa using hlate trade htrade

/-- Two simulations with a common past record it alike. -/
theorem samePast_of_agreeThrough (hagree : AgreeThrough k series series' signals signals')
    (hlong : k + 1 < series.frame.bars.length) (hlong' : k + 1 < series'.frame.bars.length)
    (ht : series.frame.index[k]? = some t) (ht' : series'.frame.index[k]? = some t)
    (hrun : simulate series strategy signals config = .ok out)
    (hrun' : simulate series' strategy signals' config = .ok out') :
    SamePast k t out out' ∧
      out'.portfolio.trades.filter (fun trade => trade.exit_timestamp ≤ t)
        = out.portfolio.trades.filter (fun trade => trade.exit_timestamp ≤ t) := by
  have hindex : series'.frame.index.take (k + 1) = series.frame.index.take (k + 1) := by
    simp only [PriceFrame.index, ← List.map_take, hagree.bars]
  constructor
  · obtain ⟨past, st, hpast, hwithin, hext, rfl⟩ := simulate_extends hrun hlong ht
    obtain ⟨past', st', hpast', hwithin', hext', rfl⟩ := simulate_extends hrun' hlong' ht'
    rw [hagree.state_after, hpast] at hpast'
    obtain rfl := Except.ok.inj hpast'
    obtain ⟨horders, hfills, hpositions, hequity, hexposure⟩ := hext.output hwithin ht
    obtain ⟨horders', hfills', hpositions', hequity', hexposure'⟩ := hext'.output hwithin' ht'
    rw [hindex] at hequity' hexposure'
    exact
      { orders := horders'.trans horders.symm
        fills := hfills'.trans hfills.symm
        positions := hpositions'.trans hpositions.symm
        equity := hequity'.trans hequity.symm
        exposure := hexposure'.trans hexposure.symm }
  · obtain ⟨past, hpast, htrades⟩ := trades_of_simulate hrun hlong ht
    obtain ⟨past', hpast', htrades'⟩ := trades_of_simulate hrun' hlong' ht'
    rw [hagree.state_after, hpast] at hpast'
    obtain rfl := Except.ok.inj hpast'
    exact htrades'.trans htrades.symm

/-- Signals that agree up to the stamp of bar `k` agree through bar `k`. -/
theorem agreeThrough_of_rows (hsymbol : series'.symbol = series.symbol)
    (hbars : series.AgreeUpTo t series') (hrows : signals.rows_upTo t = signals'.rows_upTo t)
    (hindex : series.frame.index = signals.frame.map SignalRow.timestamp)
    (hindex' : series'.frame.index = signals'.frame.map SignalRow.timestamp)
    (ht : series.frame.index[k]? = some t) (ht' : series'.frame.index[k]? = some t)
    (hnext : series'.frame.index[k + 1]? = series.frame.index[k + 1]?) :
    AgreeThrough k series series' signals signals' := by
  have hfirst_bars : ∀ {s : PriceSeries}, s.frame.index[k]? = some t →
      upTo Bar.timestamp t s.frame.bars = s.frame.bars.take (k + 1) := by
    intro s hs
    rw [PriceFrame.index, List.getElem?_map] at hs
    obtain ⟨bar, hbar, rfl⟩ := Option.map_eq_some_iff.mp hs
    exact upTo_eq_take_of_getElem? s.frame.increasing hbar
  have hfirst_rows : ∀ {s : PriceSeries} {sig : SignalSet},
      s.frame.index = sig.frame.map SignalRow.timestamp → s.frame.index[k]? = some t →
      upTo SignalRow.timestamp t sig.frame = sig.frame.take (k + 1) := by
    intro s sig hsig hs
    have hsorted : sig.frame.Pairwise (fun a b => a.timestamp < b.timestamp) := by
      rw [← List.pairwise_map (f := SignalRow.timestamp) (R := (· < ·)), ← hsig]
      exact s.frame.index_increasing
    rw [hsig, List.getElem?_map] at hs
    obtain ⟨row, hrow, rfl⟩ := Option.map_eq_some_iff.mp hs
    exact upTo_eq_take_of_getElem? hsorted hrow
  have hframes := (Prod.mk.inj hrows).1
  have hindicators := (Prod.mk.inj hrows).2
  have hsame : upTo Bar.timestamp t series.frame.bars = upTo Bar.timestamp t series'.frame.bars :=
    hbars
  constructor
  · exact hsymbol
  · rw [← hfirst_bars ht', ← hfirst_bars ht, hsame]
  · exact hnext
  · rw [← hfirst_rows hindex' ht', ← hfirst_rows hindex ht, hframes]
  · intro s hs
    obtain ⟨i, hi⟩ := List.mem_iff_getElem?.mp hs
    rw [List.getElem?_take] at hi
    split_ifs at hi with hik
    have hle : s ≤ t := index_le hi ht (by omega)
    rw [indicator_row, indicator_row, ← find?_upTo hle signals.indicators,
      ← find?_upTo hle signals'.indicators, hindicators]

end Simulations

/-! ## Two providers with one history -/

/-- The window that ends with the day `last` takes `t` in. -/
def Reaches (t : Timestamp) (last : Python.Date) : Prop := t < last.midnight + 86400000000000

/-- Up to `t` the providers report one history: what they fetch from one day on,
    past `t`, has the same rows up to `t`. -/
def SameHistory (t : Timestamp) (provider provider' : PriceProvider) : Prop :=
  ∀ (ticker start interval : String) (last last' next next' : Python.Date)
    (fetched fetched' : RawFrame), last.next_day = some next → last'.next_day = some next' →
    Reaches t last → Reaches t last' →
    provider.fetch ticker start next.isoformat interval = .ok fetched →
    provider'.fetch ticker start next'.isoformat interval = .ok fetched' →
    upTo RawBar.timestamp t fetched = upTo RawBar.timestamp t fetched'

section Prices

variable {rt : Runtime} {provider provider' : PriceProvider}
  {symbol start end_ end_' interval : String} {series series' : PriceSeries} {t : Timestamp}

/-- Each row of a window is in it. -/
theorem mem_trim_window {first last : Python.Date} {frame : RawFrame} {row : RawBar} :
    row ∈ trim_window first last frame ↔
      row ∈ frame ∧ first.midnight ≤ row.timestamp ∧ Reaches row.timestamp last := by
  simp [trim_window, Reaches]

/-- Up to `t` only the start of a window that takes `t` in matters. -/
theorem upTo_trim_window {first last : Python.Date} (h : Reaches t last) (frame : RawFrame) :
    upTo RawBar.timestamp t (trim_window first last frame)
      = (upTo RawBar.timestamp t frame).filter (fun row => first.midnight ≤ row.timestamp) := by
  rw [upTo, upTo, trim_window, List.filter_filter, List.filter_filter]
  refine List.filter_congr fun row _ => ?_
  by_cases hrow : row.timestamp ≤ t
  · have hin : row.timestamp < last.midnight + 86400000000000 := lt_of_le_of_lt hrow h
    simp [hrow, hin]
  · simp [hrow]

/-- The adjustment works row by row. -/
theorem upTo_apply (adjustment : AdjustmentPolicy) (frame : RawFrame) :
    upTo RawBar.timestamp t (adjustment.apply frame)
      = adjustment.apply (upTo RawBar.timestamp t frame) := by
  cases adjustment with
  | raw => rfl
  | split_and_dividend_adjusted => exact upTo_map (fun _ => rfl) t frame

/-- Rows keep their stamps. -/
theorem timestamp_of_to_bar {raw : RawBar} {bar : Bar} (h : raw.to_bar = some bar) :
    bar.timestamp = raw.timestamp := by
  rw [RawBar.of_to_bar h]

theorem mapM_of_of_raw {raw : RawFrame} {frame : PriceFrame}
    (h : PriceFrame.of_raw raw = some frame) :
    raw.mapM RawBar.to_bar = some frame.bars := by
  unfold PriceFrame.of_raw at h
  cases hbars : raw.mapM RawBar.to_bar with
  | none =>
    rw [hbars] at h
    cases h
  | some bars =>
    rw [hbars] at h
    simp only at h
    split_ifs at h
    obtain rfl := Option.some.inj h
    rfl

/-- The window of a request takes in the stamps of its bars. -/
theorem reaches_of_load_prices (h : load_prices rt provider symbol start end_ interval = .ok series)
    (ht : t ∈ series.frame.index) {last : Python.Date}
    (hlast : Python.Date.fromisoformat end_ = some last) : Reaches t last := by
  obtain ⟨instrument, first, last', fetch_end, fetched, frame, -, -, -, hlast', -, -, -, -, hframe,
    rfl⟩ := exists_fetched_of_load_prices h
  obtain rfl : last = last' := Option.some.inj (hlast.symm.trans hlast')
  obtain ⟨bar, hbar, rfl⟩ := List.mem_map.mp ht
  obtain ⟨row, hrow, hto_bar⟩ := exists_raw_of_mapM (mapM_of_of_raw hframe) bar hbar
  rw [timestamp_of_to_bar hto_bar]
  obtain ⟨raw, hraw, rfl⟩ := List.mem_map.mp hrow
  exact (mem_trim_window.mp hraw).2.2

/-- **What is fetched up to `t`** does not depend on how far past `t` the request
    goes. -/
theorem agreeUpTo_of_load_prices (hhistory : SameHistory t provider provider')
    (hseries : load_prices rt provider symbol start end_ interval = .ok series)
    (hseries' : load_prices rt provider' symbol start end_' interval = .ok series')
    (hreaches : ∀ last, Python.Date.fromisoformat end_ = some last → Reaches t last)
    (hreaches' : ∀ last, Python.Date.fromisoformat end_' = some last → Reaches t last) :
    series.AgreeUpTo t series' := by
  obtain ⟨instrument, first, last, next, fetched, frame, hinstrument, -, hfirst, hlast, -, hnext,
    hfetched, -, hframe, rfl⟩ := exists_fetched_of_load_prices hseries
  obtain ⟨instrument', first', last', next', fetched', frame', hinstrument', -, hfirst', hlast', -,
    hnext', hfetched', -, hframe', rfl⟩ := exists_fetched_of_load_prices hseries'
  obtain rfl := Except.ok.inj (hinstrument.symm.trans hinstrument')
  obtain rfl := Option.some.inj (hfirst.symm.trans hfirst')
  have hrows := hhistory _ _ _ _ _ _ _ _ _ hnext hnext' (hreaches last hlast)
    (hreaches' last' hlast') hfetched hfetched'
  have hbars := mapM_upTo (fun _ _ => timestamp_of_to_bar) t (mapM_of_of_raw hframe)
  have hbars' := mapM_upTo (fun _ _ => timestamp_of_to_bar) t (mapM_of_of_raw hframe')
  rw [upTo_apply, upTo_trim_window (hreaches last hlast), hrows] at hbars
  rw [upTo_apply, upTo_trim_window (hreaches' last' hlast')] at hbars'
  exact Option.some.inj (hbars.symm.trans hbars')

end Prices

/-- Series that agree up to bar `k` of one of them have that bar in common. -/
theorem index_of_agreeUpTo {a b : PriceSeries} {k : ℕ} {t : Timestamp} (h : a.AgreeUpTo t b)
    (ht : a.frame.index[k]? = some t) : b.frame.index[k]? = some t := by
  rw [PriceFrame.index, List.getElem?_map] at ht ⊢
  obtain ⟨bar, hbar, rfl⟩ := Option.map_eq_some_iff.mp ht
  have hfirst := upTo_eq_take_of_getElem? a.frame.increasing hbar
  have hsame : (upTo Bar.timestamp bar.timestamp b.frame.bars)[k]? = some bar := by
    have hagree : upTo Bar.timestamp bar.timestamp a.frame.bars
        = upTo Bar.timestamp bar.timestamp b.frame.bars := h
    rw [← hagree, hfirst, List.getElem?_take, if_pos (by omega), hbar]
  rw [upTo_eq_take b.frame.increasing, List.getElem?_take] at hsame
  split_ifs at hsame
  rw [hsame]
  rfl

/-! ## Two backtests -/

/-- A strategy says the same about the bars up to `t`. -/
theorem rows_upTo_of_agreeUpTo {rt : Runtime} {strategy : RegisteredStrategy} {t : Timestamp}
    {a b : PriceSeries} {pair pair' : Option PriceSeries} {signals signals' : SignalSet}
    (hsymbol : b.symbol = a.symbol) (hbars : a.AgreeUpTo t b)
    (hpair : Option.Rel (PriceSeries.AgreeUpTo t) pair pair')
    (ha : strategy.generate_signals rt pair a = .ok signals)
    (hb : strategy.generate_signals rt pair' b = .ok signals') :
    signals.rows_upTo t = signals'.rows_upTo t := by
  cases strategy with
  | macd p => exact rows_upTo_eq_of_causal (MACD.causal_bar_signals p) hbars ha hb
  | bollinger p => exact rows_upTo_eq_of_causal (Bollinger.causal_bar_signals rt p) hbars ha hb
  | dual_thrust p => exact rows_upTo_eq_of_causal (DualThrust.causal_bar_signals p) hbars ha hb
  | pair_trading p =>
    cases hpair with
    | none => cases ha
    | some hlegs =>
      have hlegs : upTo Bar.timestamp t _ = upTo Bar.timestamp t _ := hlegs
      rw [pair_rows_upTo ha, pair_rows_upTo hb, hsymbol, hbars, hlegs]

/-- What two backtests say alike about the bars up to bar `k`, stamped `t`. -/
structure BacktestRun.SamePast (k : ℕ) (t : Timestamp) (run run' : BacktestRun) : Prop where
  bars : run.series.AgreeUpTo t run'.series
  rows : run.signals.rows_upTo t = run'.signals.rows_upTo t
  simulation : Quantora.SamePast k t run.simulation run'.simulation
  trades : run'.simulation.portfolio.trades.filter (fun trade => trade.exit_timestamp ≤ t)
    = run.simulation.portfolio.trades.filter (fun trade => trade.exit_timestamp ≤ t)

section Backtests

variable {rt : Runtime} {provider provider' : PriceProvider} {request : RunRequest} {end_ : String}
  {run run' : BacktestRun} {k : ℕ} {t next : Timestamp}

/-- A simulation has one signal row per bar. -/
theorem index_of_simulate {series : PriceSeries} {strategy : Strategy} {signals : SignalSet}
    {config : BacktestConfig} {out : SimulationOutput}
    (h : simulate series strategy signals config = .ok out) :
    series.frame.index = signals.frame.map SignalRow.timestamp := by
  unfold simulate at h
  by_contra hne
  rw [if_pos hne] at h
  split_ifs at h

/-- The second legs of two requests that differ in their last day. -/
theorem second_legs_agree {strategy : RegisteredStrategy} {start end_' interval symbol : String}
    {pair pair' : Option PriceSeries} (hhistory : SameHistory t provider provider')
    (hpair : resolve_auxiliary_series rt provider strategy start end_ interval symbol = .ok pair)
    (hpair' : resolve_auxiliary_series rt provider' strategy start end_' interval symbol
      = .ok pair')
    (hreaches : ∀ last, Python.Date.fromisoformat end_ = some last → Reaches t last)
    (hreaches' : ∀ last, Python.Date.fromisoformat end_' = some last → Reaches t last) :
    Option.Rel (PriceSeries.AgreeUpTo t) pair pair' := by
  rcases resolve_auxiliary_series_eq_ok hpair with ⟨hnone, rfl⟩ | ⟨leg, legs, hleg, rfl, hlegs⟩
  · rcases resolve_auxiliary_series_eq_ok hpair' with ⟨-, rfl⟩ | ⟨leg', legs', hleg', -, -⟩
    · exact .none
    · rw [hnone] at hleg'
      cases hleg'
  · rcases resolve_auxiliary_series_eq_ok hpair' with ⟨hnone, -⟩ | ⟨leg', legs', hleg', rfl, hlegs'⟩
    · rw [hnone] at hleg
      cases hleg
    · rw [hleg] at hleg'
      obtain rfl := List.head_eq_of_cons_eq hleg'
      exact .some (agreeUpTo_of_load_prices hhistory hlegs hlegs' hreaches hreaches')

/-- **No hindsight**: two requests that differ in their last day only, to
    providers that report one history up to bar `k`, get the same past up to that
    bar, if both go on to the same next bar. -/
theorem run_backtest_no_hindsight (hhistory : SameHistory t provider provider')
    (hrun : run_backtest_for_symbol rt provider request = .ok run)
    (hrun' : run_backtest_for_symbol rt provider' { request with end_ := end_ } = .ok run')
    (ht : run.series.frame.index[k]? = some t)
    (hnext : run.series.frame.index[k + 1]? = some next)
    (hnext' : run'.series.frame.index[k + 1]? = some next) :
    BacktestRun.SamePast k t run run' := by
  obtain ⟨pair, hseries, hstrategy, hpair, hback⟩ := run_backtest_for_symbol_eq_ok hrun
  obtain ⟨pair', hseries', hstrategy', hpair', hback'⟩ := run_backtest_for_symbol_eq_ok hrun'
  have hsame : run'.strategy = run.strategy := Except.ok.inj (hstrategy'.symm.trans hstrategy)
  have hlater : t < next := index_lt ht hnext (by omega)
  -- Both windows take `t` in: the second one has the next bar.
  have hreaches : ∀ last, Python.Date.fromisoformat request.end_ = some last → Reaches t last :=
    fun last hlast => reaches_of_load_prices hseries (List.mem_of_getElem? ht) hlast
  have hreaches' : ∀ last, Python.Date.fromisoformat end_ = some last → Reaches t last :=
    fun last hlast =>
      hlater.trans (reaches_of_load_prices hseries' (List.mem_of_getElem? hnext') hlast)
  have hbars := agreeUpTo_of_load_prices hhistory hseries hseries' hreaches hreaches'
  have hsymbol : run'.series.symbol = run.series.symbol := by
    rw [(answers_of_load_prices hseries').symbol_eq, (answers_of_load_prices hseries).symbol_eq]
  have hlegs := second_legs_agree hhistory hpair (hsame ▸ hpair') hreaches hreaches'
  obtain ⟨-, hsignals, hsimulate, -⟩ := run_backtest_steps hback
  obtain ⟨-, hsignals', hsimulate', -⟩ := run_backtest_steps hback'
  rw [hsame] at hsignals' hsimulate'
  have hrows := rows_upTo_of_agreeUpTo hsymbol hbars hlegs hsignals hsignals'
  have ht' := index_of_agreeUpTo hbars ht
  have hagree := agreeThrough_of_rows hsymbol hbars hrows (index_of_simulate hsimulate)
    (index_of_simulate hsimulate') ht ht' (hnext'.trans hnext.symm)
  have hlength := (List.getElem?_eq_some_iff.mp hnext).1
  have hlength' := (List.getElem?_eq_some_iff.mp hnext').1
  rw [PriceFrame.index, List.length_map] at hlength hlength'
  obtain ⟨hpast, htrades⟩ :=
    samePast_of_agreeThrough hagree hlength hlength' ht ht' hsimulate hsimulate'
  exact ⟨hbars, hrows, hpast, htrades⟩

end Backtests

/-! ## Three days later -/

/-- Every instrument trades at these prices, from the first day of 2024 on. -/
def traded_at (prices : List ℚ) : PriceProvider where
  name := "yfinance"
  fetch _ _ _ _ := .ok (List.zipWith level_bar prices (List.range prices.length))

/-- Thirteen days of a fast average. -/
def first_request : RunRequest where
  symbol := "INFY.NS"
  strategy := "macd"
  start := "2024-01-01"
  end_ := "2024-01-13"
  interval := "1d"
  parameters := [("fast", .int 2), ("slow", .int 3), ("signal", .int 2)]
  config := default

/-- Up to the twelfth day, with a crash on the thirteenth that the first request
    did not see. -/
theorem no_hindsight_after_twelve_days :
    ∃ run run', run_backtest_for_symbol default
        (traded_at [1, 2, 3, 2, 1, 1, 4, 5, 6, 3, 2, 1, 2]) first_request = .ok run ∧
      run_backtest_for_symbol default
        (traded_at [1, 2, 3, 2, 1, 1, 4, 5, 6, 3, 2, 1, 1 / 2, 1, 4, 9])
        { first_request with end_ := "2024-01-16" } = .ok run' ∧
      run.series.frame.index[11]? = some 1705017600000000000 ∧
      BacktestRun.SamePast 11 1705017600000000000 run run' := by
  obtain ⟨run, hrun, hstamps⟩ := Outcome.exists_of_any
    (show (run_backtest_for_symbol default
        (traded_at [1, 2, 3, 2, 1, 1, 4, 5, 6, 3, 2, 1, 2]) first_request).toOption.any
      (fun run => run.series.frame.index[11]? = some 1705017600000000000 ∧
        run.series.frame.index[12]? = some 1705104000000000000) = true by decide +kernel)
  obtain ⟨run', hrun', hnext'⟩ := Outcome.exists_of_any
    (show (run_backtest_for_symbol default
        (traded_at [1, 2, 3, 2, 1, 1, 4, 5, 6, 3, 2, 1, 1 / 2, 1, 4, 9])
        { first_request with end_ := "2024-01-16" }).toOption.any
      (fun run' => run'.series.frame.index[12]? = some 1705104000000000000) = true
        by decide +kernel)
  obtain ⟨ht, hnext⟩ := of_decide_eq_true hstamps
  have hhistory : SameHistory 1705017600000000000
      (traded_at [1, 2, 3, 2, 1, 1, 4, 5, 6, 3, 2, 1, 2])
      (traded_at [1, 2, 3, 2, 1, 1, 4, 5, 6, 3, 2, 1, 1 / 2, 1, 4, 9]) := by
    intro _ _ _ _ _ _ _ fetched fetched' _ _ _ _ hfetched hfetched'
    obtain rfl := Except.ok.inj hfetched
    obtain rfl := Except.ok.inj hfetched'
    decide +kernel
  exact ⟨run, run', hrun, hrun', ht, run_backtest_no_hindsight hhistory hrun hrun' ht hnext
    (of_decide_eq_true hnext')⟩

end Quantora
