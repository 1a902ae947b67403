import Quantora.Strategy.Indicators
import Quantora.Strategy.Parameters

/-! # From events to signals

    Every strategy family ends alike: some bars carry an event (a target that
    the strategy decides there), the last event is held until the next one, and
    the held target gets its strength, its reason and the indicator values it
    was made from.

    * `held_signals` — that ending, as a causal function of the facts per bar.
    * `SignalSet.of_bars` — the signal set, one row per bar of the series.
-/

namespace Quantora

open Column

/-- What a strategy says about one bar. -/
structure BarSignal where
  direction : SignalDirection
  reason : String
  indicators : List (String × Cell)
  deriving DecidableEq

/-- `target.ffill().fillna(FLAT)`. -/
def hold (events : List (Option SignalDirection)) : List SignalDirection :=
  (ffill events).map (·.getD .FLAT)

/-- `direction.ne(direction.shift())`. -/
def changed (directions : List SignalDirection) : List Bool :=
  List.zipWith (fun direction before => before ≠ some direction) directions (shift directions)

/-- Hold the events of the bars; the reason may depend on whether the target
    changes here. -/
def held_signals {φ : Type} (event : φ → Option SignalDirection) (reason : Bool → φ → String)
    (columns : φ → List (String × Cell)) (facts : List φ) : List BarSignal :=
  let directions := hold (facts.map event)
  List.zipWith (fun target fact => ⟨target.1, reason target.2 fact, columns fact⟩)
    (directions.zip (changed directions)) facts

theorem causal_held_signals {φ : Type} (event : φ → Option SignalDirection)
    (reason : Bool → φ → String) (columns : φ → List (String × Cell)) :
    Causal (held_signals event reason columns) := by
  have hdirections : Causal (fun facts : List φ => hold (facts.map event)) :=
    (Causal.ffill.comp (Causal.id.map event)).map _
  have hchanged : Causal (fun facts : List φ => changed (hold (facts.map event))) :=
    hdirections.zipWith _ (Causal.shift.comp hdirections)
  exact (hdirections.zip hchanged).zipWith _ Causal.id

/-! ## Signal sets -/

/-- Binary conviction: full while positioned, zero while flat. -/
def BarSignal.row (bar : Bar) (signal : BarSignal) : SignalRow where
  timestamp := bar.timestamp
  direction := signal.direction
  strength := if signal.direction ≠ .FLAT then 1 else 0
  reason := signal.reason

def BarSignal.indicator_row (bar : Bar) (signal : BarSignal) : IndicatorRow :=
  ⟨bar.timestamp, signal.indicators⟩

theorem map_timestamp_row {bars : List Bar} {signals : List BarSignal}
    (h : signals.length = bars.length) :
    (List.zipWith BarSignal.row bars signals).map SignalRow.timestamp
      = bars.map Bar.timestamp := by
  induction bars generalizing signals with
  | nil => simp
  | cons bar bars ih =>
    cases signals with
    | nil => cases h
    | cons signal signals => simp [BarSignal.row, ih (Nat.succ.inj h)]

theorem map_timestamp_indicator_row {bars : List Bar} {signals : List BarSignal}
    (h : signals.length = bars.length) :
    (List.zipWith BarSignal.indicator_row bars signals).map IndicatorRow.timestamp
      = bars.map Bar.timestamp := by
  induction bars generalizing signals with
  | nil => simp
  | cons bar bars ih =>
    cases signals with
    | nil => cases h
    | cons signal signals => simp [BarSignal.indicator_row, ih (Nat.succ.inj h)]

/-- The signal set with one row per bar. -/
def SignalSet.of_bars (series : PriceSeries) (strategy : String)
    (parameters : List (String × ParameterValue)) (warmup_bars : ℕ) (signals : List BarSignal)
    (h : signals.length = series.frame.bars.length) : SignalSet where
  symbol := series.symbol
  strategy := strategy
  parameters := parameters
  frame := List.zipWith BarSignal.row series.frame.bars signals
  indicators := List.zipWith BarSignal.indicator_row series.frame.bars signals
  warmup_bars := warmup_bars
  monotonic := by
    rw [map_timestamp_row h]
    exact series.frame.index_increasing.imp le_of_lt

/-- Only the rows at which the target changes, the first one included. -/
def SignalSet.transitions (signals : SignalSet) : List SignalRow :=
  ((signals.frame.zip (changed (signals.frame.map SignalRow.direction))).filter Prod.snd).map
    Prod.fst

/-- `require_warmup`. -/
def require_warmup (strategy : String) (warmup_bars : ℕ) (series : PriceSeries) :
    Except StrategyError Unit :=
  if series.frame.bars.length < warmup_bars then
    .error (.InsufficientDataError strategy warmup_bars series.frame.bars.length)
  else .ok ()

end Quantora
