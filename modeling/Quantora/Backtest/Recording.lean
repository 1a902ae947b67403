import Quantora.Backtest.Causality
import Quantora.Backtest.Targets

/-! # A strategy's run is a run over its targets

    `simulate` refines `simulate_targets`: what a strategy decides, recorded and
    handed over as given targets, leads to the same output. This is what lets an
    executor that knows no strategy stand in for one that does.

    * `recording` — a decision step that keeps a log of what it returned.
      Keeping it changes nothing else (`run_execution_recording`).
    * `LoopState.map` — a state with another closure. The loop touches the
      closure in `decide` only, so every other part of a bar commutes with it.
    * `replay_bars` — the loop over targets that agree with the log goes through
      the same states. -/

namespace Quantora

open Python (PyError)

/-! ## States up to the closure -/

namespace LoopState

variable {σ τ : Type}

/-- The state, with `f` of its closure. -/
def map (f : σ → τ) (st : LoopState σ) : LoopState τ where
  portfolio := st.portfolio
  closure := f st.closure
  pending := st.pending
  equity_values := st.equity_values
  exposure_values := st.exposure_values
  positions := st.positions
  orders := st.orders
  fills := st.fills
  warnings := st.warnings

variable (f : σ → τ) (st : LoopState σ)

@[simp] theorem portfolio_map : (st.map f).portfolio = st.portfolio := rfl

@[simp] theorem closure_map : (st.map f).closure = f st.closure := rfl

@[simp] theorem equity_map (symbol : String) (market : MarketEvent) :
    (st.map f).equity symbol market = st.equity symbol market := rfl

theorem book_map (i : ℕ) (fill : Option FillEvent) :
    (st.map f).book i fill = (st.book i fill).map f := by
  cases fill <;> rfl

theorem mark_map (symbol : String) (market : MarketEvent) :
    (st.map f).mark symbol market = (st.mark symbol market).map f := rfl

theorem settle_map (config : BacktestConfig) (i : ℕ) (market : MarketEvent) :
    (st.map f).settle config i market = (st.settle config i market).map f := by
  simp only [settle, book_map]
  rfl

theorem observe_map (symbol : String) (config : BacktestConfig) (i : ℕ) (market : MarketEvent) :
    (st.map f).observe symbol config i market = (st.observe symbol config i market).map f := by
  simp only [observe, settle_map]
  rfl

theorem closure_observe (symbol : String) (config : BacktestConfig) (i : ℕ)
    (market : MarketEvent) : (st.observe symbol config i market).closure = st.closure := by
  simp [observe, settle, mark]

end LoopState

section Map

variable {σ τ : Type} (f : σ → τ)

theorem execute_pending_map (config : BacktestConfig) (i : ℕ) (market : MarketEvent)
    (st : LoopState σ) :
    execute_pending config i market (st.map f)
      = (execute_pending config i market st).map (LoopState.map f) := by
  cases hpending : st.pending with
  | none =>
    have hmapped : (st.map f).pending = none := hpending
    simp only [execute_pending, hpending, hmapped]
    rfl
  | some order =>
    have hmapped : (st.map f).pending = some order := hpending
    simp only [execute_pending, hpending, hmapped, LoopState.portfolio_map]
    cases execute order market st.portfolio config with
    | error e => rfl
    | ok settled =>
      simp only [bind, Except.bind, LoopState.book_map]
      rfl

theorem liquidate_map (symbol : String) (last : Bar) (config : BacktestConfig) (bar_count : ℕ)
    (st : LoopState σ) :
    liquidate symbol last config bar_count (st.map f)
      = (liquidate symbol last config bar_count st).map f := by
  by_cases hflat : (st.portfolio.position symbol).is_flat = true
  · have hmapped : ((st.map f).portfolio.position symbol).is_flat = true := hflat
    simp only [liquidate, if_pos hflat, if_pos hmapped]
    rfl
  · have hmapped : ¬ ((st.map f).portfolio.position symbol).is_flat = true := hflat
    simp only [liquidate, if_neg hflat, if_neg hmapped, LoopState.book_map]
    rfl

theorem finish_map (symbol : String) (config : BacktestConfig) (last : Bar) (bar_count : ℕ)
    (st : LoopState σ) :
    finish symbol config last bar_count (st.map f)
      = (finish symbol config last bar_count st).map f := by
  unfold finish
  split_ifs
  · exact liquidate_map f symbol last config bar_count st
  · rfl

theorem closure_finish (symbol : String) (config : BacktestConfig) (last : Bar) (bar_count : ℕ)
    (st : LoopState σ) : (finish symbol config last bar_count st).closure = st.closure := by
  unfold finish
  split_ifs
  · simp only [liquidate]
    split_ifs <;> simp
  · rfl

end Map

/-! ## Recording -/

section Record

variable {σ : Type}

/-- The decision step that keeps a log of what it returned. -/
def recording (decide : DecisionFn σ) : DecisionFn (σ × List TargetDecision) :=
  fun portfolio closure i market equity position =>
    (decide portfolio closure.1 i market equity position).map fun decision =>
      (decision.1, (decision.2, closure.2 ++ [decision.1]))

/-- **Step lemma**: an iteration that records is an iteration. -/
theorem run_bar_recording (symbol : String) (config : BacktestConfig) (decide : DecisionFn σ)
    (i : ℕ) (step : Bar × Option Timestamp) (st : LoopState (σ × List TargetDecision)) :
    (run_bar symbol config (recording decide) i step st).map (LoopState.map Prod.fst)
      = run_bar symbol config decide i step (st.map Prod.fst) := by
  obtain ⟨bar, next⟩ := step
  simp only [run_bar, execute_pending_map]
  cases execute_pending config i (bar.market symbol) st with
  | error e => rfl
  | ok executed =>
    cases next with
    | none => rfl
    | some execution_timestamp =>
      simp only [bind, Except.bind, Except.map, recording, LoopState.mark_map,
        LoopState.portfolio_map, LoopState.closure_map, LoopState.equity_map]
      cases decide _ _ _ _ _ _ <;> rfl

theorem run_bars_recording (symbol : String) (config : BacktestConfig) (decide : DecisionFn σ)
    (frame : List Bar) (st : LoopState (σ × List TargetDecision)) :
    (run_bars symbol config (recording decide) frame st).map (LoopState.map Prod.fst)
      = run_bars symbol config decide frame (st.map Prod.fst) :=
  Loop.runE_project (LoopState.map Prod.fst) (run_bar_recording symbol config decide) 0 _ st

/-! ## Replaying -/

/-- The targets and reasons of a log of decisions prescribe its decisions. -/
theorem given_decision_of_log (log : List TargetDecision) {i : ℕ} {decision : TargetDecision}
    (h : log[i]? = some decision) :
    given_decision (log.map Prod.fst) (some (log.map Prod.snd)) i = decision := by
  simp [given_decision, h]

/-- The state of a run over targets that corresponds to `st`. -/
def LoopState.forget (st : LoopState (σ × List TargetDecision)) : LoopState Unit :=
  st.map fun _ => ()

/-- **Step lemma**: given what it decided, an iteration over targets does what the
    recorded iteration did. -/
theorem replay_bar {symbol : String} {config : BacktestConfig} {decide : DecisionFn σ} {i : ℕ}
    {bar : Bar} {execution_timestamp : Timestamp} {st st' : LoopState (σ × List TargetDecision)}
    (h : run_bar symbol config (recording decide) i (bar, some execution_timestamp) st = .ok st') :
    ∃ decision, st'.closure.2 = st.closure.2 ++ [decision] ∧
      ∀ targets reasons, given_decision targets reasons i = decision →
        given_bar symbol config targets reasons i (bar, some execution_timestamp) st.forget
          = st'.forget := by
  obtain ⟨recorded, hrecorded, rfl⟩ := run_bar_mid h
  -- A recorded decision is one that did not fail.
  unfold recording at hrecorded
  cases hdecide : decide (st.observe symbol config i (bar.market symbol)).portfolio st.closure.1 i
      (bar.market symbol)
      ((st.settle config i (bar.market symbol)).equity symbol (bar.market symbol))
      ((st.settle config i (bar.market symbol)).portfolio.position symbol) with
  | error e =>
    rw [hdecide] at hrecorded
    cases hrecorded
  | ok decision =>
    rw [hdecide] at hrecorded
    obtain rfl := Except.ok.inj hrecorded
    refine ⟨decision.1, rfl, ?_⟩
    intro targets reasons hgiven
    unfold given_bar LoopState.forget
    simp only [hgiven, LoopState.observe_map]
    rfl

/-- **Run lemma**: a loop over `frame` logs one decision for each bar but the
    last, and the loop over targets that agree with the log ends in the same
    state. The induction is on the bars, the log of the later ones being the part
    that is still to come. -/
theorem replay_bars (symbol : String) (config : BacktestConfig) (decide : DecisionFn σ)
    (frame : List Bar) (i : ℕ) {st st' : LoopState (σ × List TargetDecision)}
    (h : Loop.runE (run_bar symbol config (recording decide)) i
      (Loop.withNext Bar.timestamp frame) st = .ok st') :
    ∃ log, st'.closure.2 = st.closure.2 ++ log ∧ log.length = frame.length - 1 ∧
      ∀ targets reasons,
        (∀ k decision, log[k]? = some decision →
          given_decision targets reasons (i + k) = decision) →
        Loop.run (given_bar symbol config targets reasons) i (Loop.withNext Bar.timestamp frame)
          st.forget = st'.forget := by
  induction frame generalizing i st with
  | nil =>
    obtain rfl := Except.ok.inj h
    exact ⟨[], by simp, rfl, fun _ _ _ => rfl⟩
  | cons bar frame ih =>
    obtain ⟨s, hbar, hrest⟩ := Loop.runE_cons_eq_ok.mp h
    obtain ⟨log, hlog, hlength, hreplay⟩ := ih (i + 1) hrest
    cases frame with
    | nil =>
      -- The last bar decides nothing.
      obtain rfl := run_bar_last hbar
      obtain rfl : log = [] := List.length_eq_zero_iff.mp hlength
      rw [LoopState.closure_observe] at hlog
      refine ⟨[], hlog, rfl, fun targets reasons _ => ?_⟩
      rw [← hreplay targets reasons (by simp)]
      simp only [Loop.withNext_cons, List.head?_nil, Option.map_none, Loop.run_cons, given_bar,
        LoopState.forget, LoopState.observe_map]
    | cons next frame =>
      obtain ⟨decision, hdecision, hgiven⟩ := replay_bar hbar
      refine ⟨decision :: log, ?_, ?_, fun targets reasons hagree => ?_⟩
      · rw [hlog, hdecision, List.append_assoc]
        rfl
      · simpa using hlength
      · have hfirst := hgiven targets reasons (hagree 0 decision rfl)
        have hlater := hreplay targets reasons fun k later hk => by
          have := hagree (k + 1) later hk
          rwa [show i + (k + 1) = i + 1 + k from by omega] at this
        rw [← hlater, ← hfirst]
        rfl

end Record

/-! ## The refinement -/

/-- `simulate`, together with what its `decide` step returned at each bar. -/
def recorded_simulate (series : PriceSeries) (strategy : Strategy) (signals : SignalSet)
    (config : BacktestConfig) : Except PyError (SimulationOutput × List TargetDecision) :=
  if series.frame.bars.isEmpty then
    .error (.ValueError "cannot simulate a backtest over an empty price series")
  else if series.frame.index ≠ signals.frame.map SignalRow.timestamp then
    .error (.ValueError
      "signal index does not match the price index; the strategy must emit one row per bar")
  else do
    let st ← run_execution series.symbol series.frame.bars config
      (recording (simulate_decide strategy config series.symbol signals)) (none, [])
    .ok (st.output series.symbol strategy.name (some signals) series.frame.bars, st.closure.2)

section Refinement

variable {series : PriceSeries} {strategy : Strategy} {signals : SignalSet}
  {config : BacktestConfig} {out : SimulationOutput}

theorem accepted_of_simulate (h : simulate series strategy signals config = .ok out) :
    series.frame.bars ≠ [] ∧ series.frame.index = signals.frame.map SignalRow.timestamp := by
  unfold simulate at h
  split_ifs at h with hempty hindex
  exact ⟨by simpa using hempty, not_not.mp hindex⟩

/-- A run of `simulate` ends its loop, and closes out. -/
theorem run_bars_of_simulate (h : simulate series strategy signals config = .ok out) :
    ∃ last st, series.frame.bars.getLast? = some last ∧
      run_bars series.symbol config (simulate_decide strategy config series.symbol signals)
        series.frame.bars (LoopState.start config none) = .ok st ∧
      out = (finish series.symbol config last series.frame.bars.length st).output series.symbol
        strategy.name (some signals) series.frame.bars := by
  have hlast := List.getLast?_eq_some_getLast (accepted_of_simulate h).1
  unfold simulate at h
  split_ifs at h
  -- Only the loop can fail: the series has a last bar to close out at.
  unfold run_execution at h
  cases hrun : run_bars series.symbol config
      (simulate_decide strategy config series.symbol signals) series.frame.bars
      { portfolio := Portfolio.new config.initial_cash, closure := none } with
  | error e =>
    rw [hrun] at h
    cases h
  | ok st =>
    simp only [hrun, bind, Except.bind, close_out_eq_ok st hlast] at h
    exact ⟨_, st, hlast, hrun, (Except.ok.inj h).symm⟩

/-- **`simulate` refines `simulate_targets`.** The decisions of a run, recorded at
    each bar and handed over with anything for the last one, lead
    `simulate_targets` to the same output. -/
theorem simulate_refines_targets (h : simulate series strategy signals config = .ok out) :
    ∃ log, recorded_simulate series strategy signals config = .ok (out, log) ∧
      log.length = series.frame.bars.length - 1 ∧
      ∀ last : TargetDecision,
        simulate_targets series.frame.bars ((log ++ [last]).map Prod.fst) series.symbol
            (some ((log ++ [last]).map Prod.snd)) config strategy.name
          = .ok { out with signals := none } := by
  obtain ⟨last_bar, st, hlast, hrun, rfl⟩ := run_bars_of_simulate h
  obtain ⟨hbars, hindex⟩ := accepted_of_simulate h
  -- The run that records ends in a state that is `st` but for the log.
  have hproject := run_bars_recording series.symbol config
    (simulate_decide strategy config series.symbol signals) series.frame.bars
    (LoopState.start config (none, []))
  obtain ⟨recorded, hrecorded, rfl⟩ := Outcome.map_eq_ok.mp (hproject.trans hrun)
  obtain ⟨log, hlog, hlength, hreplay⟩ := replay_bars series.symbol config _ series.frame.bars 0
    hrecorded
  have hlog_eq : recorded.closure.2 = log := hlog
  refine ⟨log, ?_, hlength, fun last => ?_⟩
  · have hexecution : run_execution series.symbol series.frame.bars config
        (recording (simulate_decide strategy config series.symbol signals)) (none, [])
        = .ok (finish series.symbol config last_bar series.frame.bars.length recorded) := by
      unfold LoopState.start at hrecorded
      simp only [run_execution, hrecorded, bind, Except.bind, close_out_eq_ok recorded hlast]
    have hempty : ¬ (series.frame.bars.isEmpty = true) := by simpa using hbars
    rw [recorded_simulate, if_neg hempty, if_neg (not_not.mpr hindex), hexecution]
    simp only [bind, Except.bind, finish_map, closure_finish, hlog_eq]
    rfl
  · -- One decision a bar, the last one included.
    have hpos : 0 < series.frame.bars.length := List.length_pos_iff.mpr hbars
    have hfit : TargetsFit series.frame.bars ((log ++ [last]).map Prod.fst)
        (some ((log ++ [last]).map Prod.snd)) := by
      refine ⟨hbars, ?_, ?_⟩
      · simp only [List.length_map, List.length_append, List.length_singleton]
        omega
      · intro r hr
        obtain rfl := Option.some.inj hr
        simp only [List.length_map, List.length_append, List.length_singleton]
        omega
    have hagree : ∀ k decision, log[k]? = some decision →
        given_decision ((log ++ [last]).map Prod.fst) (some ((log ++ [last]).map Prod.snd)) (0 + k)
          = decision := by
      intro k decision hk
      rw [Nat.zero_add]
      apply given_decision_of_log
      rw [List.getElem?_append_left (List.getElem?_eq_some_iff.mp hk).1, hk]
    have hstates := hreplay _ _ hagree
    rw [simulate_targets_eq hfit series.symbol config strategy.name hlast]
    have hgiven : given_run series.symbol config series.frame.bars ((log ++ [last]).map Prod.fst)
        (some ((log ++ [last]).map Prod.snd)) = recorded.forget := hstates
    rw [hgiven, LoopState.forget, finish_map, finish_map]
    rfl

end Refinement

/-- The refinement on a run that enters, keeps its position and leaves. -/
theorem simulate_refines_targets_on_four_bars :
    ∃ out, simulate (four_bars 95) { name := "demo" } (four_signals .FLAT) default = .ok out ∧
      ∃ log, recorded_simulate (four_bars 95) { name := "demo" } (four_signals .FLAT) default
          = .ok (out, log) ∧
        log.length = 3 ∧
        ∀ last : TargetDecision,
          simulate_targets (four_bars 95).frame.bars ((log ++ [last]).map Prod.fst) "TCS.NS"
              (some ((log ++ [last]).map Prod.snd)) default "demo"
            = .ok { out with signals := none } := by
  obtain ⟨out, hout⟩ := Outcome.exists_eq_ok
    (x := simulate (four_bars 95) { name := "demo" } (four_signals .FLAT) default)
    (by decide +kernel)
  exact ⟨out, hout, simulate_refines_targets hout⟩

end Quantora
