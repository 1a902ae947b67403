import Quantora.Backtest.Runner

/-! # Volumes are not read

    A run on a series whose volumes are erased is the run on the series itself:
    no strategy and no step of the simulation looks at them.

    * `without_volume` — the same bars, with volume zero.
    * `generate_signals_without_volume` — one case per registered strategy.
    * `run_bar_without_volume` — the step lemma of the simulation, and
      `simulate_without_volume` the run lemma. -/

namespace Quantora

def Bar.without_volume (bar : Bar) : Bar := { bar with volume := 0 }

def PriceFrame.without_volume (frame : PriceFrame) : PriceFrame where
  bars := frame.bars.map Bar.without_volume
  increasing := List.pairwise_map.mpr frame.increasing

def PriceSeries.without_volume (series : PriceSeries) : PriceSeries :=
  { series with frame := series.frame.without_volume }

theorem PriceFrame.index_without_volume (frame : PriceFrame) :
    frame.without_volume.index = frame.index := by
  simp only [index, without_volume, List.map_map]
  rfl

/-! ## Signals -/

/-- Facts that a decision cannot tell apart give the same signals. -/
theorem held_signals_map {φ ψ : Type} (event : ψ → Option SignalDirection)
    (reason : Bool → ψ → String) (columns : ψ → List (String × Cell)) (f : φ → ψ)
    (facts : List φ) :
    held_signals event reason columns (facts.map f)
      = held_signals (fun x => event (f x)) (fun b x => reason b (f x)) (fun x => columns (f x))
          facts := by
  unfold held_signals
  rw [List.map_map, List.zipWith_map_right]
  rfl

/-- A signal set names the timestamps of the bars and nothing else of them. -/
theorem SignalSet.of_bars_without_volume (series : PriceSeries) (strategy : String)
    (parameters : List (String × ParameterValue)) (warmup_bars : ℕ) (signals : List BarSignal)
    (h : signals.length = series.without_volume.frame.bars.length)
    (h' : signals.length = series.frame.bars.length) :
    SignalSet.of_bars series.without_volume strategy parameters warmup_bars signals h
      = SignalSet.of_bars series strategy parameters warmup_bars signals h' := by
  simp only [SignalSet.of_bars, PriceSeries.without_volume, PriceFrame.without_volume,
    List.zipWith_map_left]
  rfl

theorem require_warmup_without_volume (strategy : String) (warmup_bars : ℕ)
    (series : PriceSeries) :
    require_warmup strategy warmup_bars series.without_volume
      = require_warmup strategy warmup_bars series := by
  simp only [require_warmup, PriceSeries.without_volume, PriceFrame.without_volume,
    List.length_map]

/-- The strategies of one series, from what they say about its bars. -/
theorem of_bars_without_volume_of_eq {F : List Bar → List BarSignal} (hF : Causal F)
    (series : PriceSeries) (strategy : String) (parameters : List (String × ParameterValue))
    (warmup_bars : ℕ) (hsame : F (series.frame.bars.map Bar.without_volume) = F series.frame.bars) :
    (do require_warmup strategy warmup_bars series.without_volume
        .ok (SignalSet.of_bars series.without_volume strategy parameters warmup_bars
          (F series.without_volume.frame.bars) (hF.length _)) : Except StrategyError SignalSet)
      = (do require_warmup strategy warmup_bars series
            .ok (SignalSet.of_bars series strategy parameters warmup_bars (F series.frame.bars)
              (hF.length _))) := by
  rw [require_warmup_without_volume]
  congr 1
  funext _
  have hbars : F series.without_volume.frame.bars = F series.frame.bars := hsame
  simp only [hbars]
  rw [SignalSet.of_bars_without_volume series strategy parameters warmup_bars _ _ (hF.length _)]

/-- The common bars, without their volumes. -/
theorem align_without_volume (primary pair : List Bar) :
    PairTrading.align (primary.map Bar.without_volume) (pair.map Bar.without_volume)
      = (PairTrading.align primary pair).map
          (fun legs => (legs.1.without_volume, legs.2.without_volume)) := by
  induction primary with
  | nil => rfl
  | cons bar primary ih =>
    have hfind : (pair.map Bar.without_volume).find?
        (fun other => other.timestamp = bar.without_volume.timestamp)
        = (pair.find? (fun other => other.timestamp = bar.timestamp)).map Bar.without_volume := by
      rw [List.find?_map]
      rfl
    rw [List.map_cons, PairTrading.align, PairTrading.align, List.filterMap_cons,
      List.filterMap_cons, hfind]
    cases pair.find? (fun other => other.timestamp = bar.timestamp) with
    | none => exact ih
    | some other => exact congrArg _ ih

theorem common_signals_without_volume (rt : Runtime) (p : PairTrading.Parameters)
    (symbol : String) (common : List (Bar × Bar)) :
    PairTrading.common_signals rt p symbol
        (common.map (fun legs => (legs.1.without_volume, legs.2.without_volume)))
      = PairTrading.common_signals rt p symbol common := by
  have hprimary : PairTrading.log_primary rt
      (common.map (fun legs => (legs.1.without_volume, legs.2.without_volume)))
      = PairTrading.log_primary rt common := by
    simp only [PairTrading.log_primary, List.map_map]
    rfl
  have hpair : PairTrading.log_pair rt
      (common.map (fun legs => (legs.1.without_volume, legs.2.without_volume)))
      = PairTrading.log_pair rt common := by
    simp only [PairTrading.log_pair, List.map_map]
    rfl
  have hone : (common.map (fun legs => (legs.1.without_volume, legs.2.without_volume))).map
      (fun _ => (some 1 : Cell)) = common.map (fun _ => some 1) := by
    rw [List.map_map]
    rfl
  simp only [PairTrading.common_signals, PairTrading.facts, PairTrading.spread,
    PairTrading.correlation, PairTrading.beta, hprimary, hpair, hone, List.map_map]
  rfl

theorem generate_signals_without_volume (rt : Runtime) (strategy : RegisteredStrategy)
    (pair : Option PriceSeries) (series : PriceSeries) :
    strategy.generate_signals rt (pair.map PriceSeries.without_volume) series.without_volume
      = strategy.generate_signals rt pair series := by
  cases strategy with
  | macd p =>
    apply of_bars_without_volume_of_eq (MACD.causal_bar_signals p)
    simp only [MACD.bar_signals, MACD.facts, List.map_map]
    rfl
  | bollinger p =>
    apply of_bars_without_volume_of_eq (Bollinger.causal_bar_signals rt p)
    simp only [Bollinger.bar_signals, Bollinger.facts, List.map_map]
    rfl
  | dual_thrust p =>
    apply of_bars_without_volume_of_eq (DualThrust.causal_bar_signals p)
    have hprior : ∀ statistic (column : Bar → ℚ), (∀ bar : Bar, column bar.without_volume
        = column bar) → DualThrust.prior p statistic column
          (series.frame.bars.map Bar.without_volume)
          = DualThrust.prior p statistic column series.frame.bars := by
      intro statistic column hcolumn
      simp only [DualThrust.prior, List.map_map, Function.comp_def, hcolumn]
    have hfacts : DualThrust.facts p (series.frame.bars.map Bar.without_volume)
        = (DualThrust.facts p series.frame.bars).map
            (fun f => ⟨f.bar.without_volume, f.range⟩) := by
      simp only [DualThrust.facts, DualThrust.range]
      rw [hprior _ Bar.high (fun _ => rfl), hprior _ Bar.low (fun _ => rfl),
        hprior _ Bar.close (fun _ => rfl), hprior _ Bar.close (fun _ => rfl),
        List.zipWith_map_left, List.map_zipWith]
    rw [DualThrust.bar_signals, hfacts, held_signals_map]
    rfl
  | pair_trading p =>
    cases pair with
    | none => rfl
    | some pair =>
      have hcommon : PairTrading.align series.without_volume.frame.bars
          pair.without_volume.frame.bars
          = (PairTrading.align series.frame.bars pair.frame.bars).map
            (fun legs => (legs.1.without_volume, legs.2.without_volume)) :=
        align_without_volume _ _
      have hreindexed : ∀ table, PairTrading.reindexed table series.without_volume.frame.bars
          = PairTrading.reindexed table series.frame.bars := by
        intro table
        simp only [PairTrading.reindexed, PriceSeries.without_volume, PriceFrame.without_volume,
          List.map_map]
        rfl
      simp only [RegisteredStrategy.generate_signals, PairTrading.generate_signals,
        Option.map_some, hcommon, common_signals_without_volume, hreindexed, List.length_map,
        require_warmup_without_volume]
      have hset := SignalSet.of_bars_without_volume series "pair_trading" p.as_dict p.warmup_bars
      have hsymbol : series.without_volume.symbol = series.symbol := rfl
      have hpair_symbol : pair.without_volume.symbol = pair.symbol := rfl
      simp only [hsymbol, hpair_symbol]
      congr 2
      funext _
      congr 2
      exact hset _ _ _

/-! ## The simulation -/

/-- **Step lemma**: no iteration looks at the volume of its bar. -/
theorem run_bar_without_volume (strategy : RegisteredStrategy) (config : BacktestConfig)
    (symbol : String) (signals : SignalSet) (i : ℕ) (step : Bar × Option Timestamp)
    (st : LoopState (Option SignalDirection)) :
    run_bar symbol config (simulate_decide strategy.contract config symbol signals) i
        (step.1.without_volume, step.2) st
      = run_bar symbol config (simulate_decide strategy.contract config symbol signals) i step
          st := by
  rfl

/-- **Run lemma**: the simulation of a registered strategy. -/
theorem simulate_without_volume (series : PriceSeries) (strategy : RegisteredStrategy)
    (signals : SignalSet) (config : BacktestConfig) :
    simulate series.without_volume strategy.contract signals config
      = simulate series strategy.contract signals config := by
  have hindex : series.without_volume.frame.index = series.frame.index :=
    series.frame.index_without_volume
  have hbars : series.without_volume.frame.bars = series.frame.bars.map Bar.without_volume := rfl
  have hempty : series.without_volume.frame.bars.isEmpty = series.frame.bars.isEmpty := by
    rw [hbars, List.isEmpty_map]
  have hrun : run_bars series.symbol config
        (simulate_decide strategy.contract config series.symbol signals)
        series.without_volume.frame.bars
      = run_bars series.symbol config
        (simulate_decide strategy.contract config series.symbol signals) series.frame.bars := by
    funext st
    rw [run_bars, hbars, Loop.withNext_map, Loop.runE_map]
    exact Loop.runE_congr fun i step st _ =>
      run_bar_without_volume strategy config series.symbol signals (0 + i) step st
  have hclose : ∀ st : LoopState (Option SignalDirection),
      close_out series.symbol series.without_volume.frame.bars config st
        = close_out series.symbol series.frame.bars config st := by
    intro st
    rw [hbars, close_out, close_out, List.getLast?_map, List.length_map]
    cases series.frame.bars.getLast? <;> rfl
  have houtput : ∀ st : LoopState (Option SignalDirection),
      st.output series.symbol strategy.contract.name (some signals)
          series.without_volume.frame.bars
        = st.output series.symbol strategy.contract.name (some signals) series.frame.bars := by
    intro st
    have htimes : series.without_volume.frame.bars.map Bar.timestamp
        = series.frame.bars.map Bar.timestamp := hindex
    simp only [LoopState.output, htimes]
  have hsymbol : series.without_volume.symbol = series.symbol := rfl
  simp only [simulate, run_execution, hsymbol, hempty, hindex, hrun, hclose, houtput]

/-- **Main result**: erasing the volumes of both legs changes nothing but the
    series that the run records. -/
theorem run_backtest_without_volume (rt : Runtime) (series : PriceSeries)
    (strategy : RegisteredStrategy) (pair : Option PriceSeries) (config : BacktestConfig) :
    run_backtest rt series.without_volume strategy (pair.map PriceSeries.without_volume) config
      = (run_backtest rt series strategy pair config).map
          (fun run => { run with series := series.without_volume }) := by
  have hsymbol : series.without_volume.symbol = series.symbol := rfl
  have hinterval : series.without_volume.interval = series.interval := rfl
  rw [run_backtest, run_backtest, generate_signals_without_volume]
  cases strategy.generate_signals rt pair series with
  | error e => rfl
  | ok signals =>
    simp only [Except.mapError, bind, Except.bind, simulate_without_volume, hsymbol, hinterval]
    cases simulate series strategy.contract signals config with
    | error e => rfl
    | ok simulation =>
      cases hmetrics : metrics_of rt series.interval config simulation with
      | error e => simp only [hmetrics, Except.map]
      | ok metrics => simp only [hmetrics, Except.map]

end Quantora
