import Quantora.Strategy.Signals

/-! # MACD

    Trade the MACD line's crossovers of its signal line. A crossover is a sign
    change of the histogram between the previous bar and this one. -/

namespace Quantora

namespace MACD

def fast : IntSpec where
  name := "fast"
  default := 12
  minimum := 2
  maximum := 200

def slow : IntSpec where
  name := "slow"
  default := 26
  minimum := 3
  maximum := 400

def signal : IntSpec where
  name := "signal"
  default := 9
  minimum := 2
  maximum := 100

def allow_short : BoolSpec := ⟨"allow_short", false⟩

def require_zero_line : BoolSpec := ⟨"require_zero_line", false⟩

/-- The names of the specs. -/
def specs : List String := ["fast", "slow", "signal", "allow_short", "require_zero_line"]

/-- Resolved parameters. -/
structure Parameters where
  fast : MACD.fast.Value
  slow : MACD.slow.Value
  signal : MACD.signal.Value
  allow_short : Bool
  require_zero_line : Bool
  fast_lt_slow : fast.1 < slow.1
  deriving DecidableEq

def fast_not_below_slow (fast slow : ℤ) : String :=
  "fast (" ++ toString fast ++ ") must be strictly less than slow (" ++ toString slow
    ++ "); otherwise every crossover signal is inverted and the strategy trades its own opposite."

/-- The constructor. -/
def create (rt : Runtime) (parameters : List (String × Json)) :
    Except StrategyError Parameters := do
  reject_unknown "macd" specs parameters
  let fast ← MACD.fast.resolve rt parameters
  let slow ← MACD.slow.resolve rt parameters
  let signal ← MACD.signal.resolve rt parameters
  if h : fast.1 < slow.1 then
    .ok
      { fast := fast
        slow := slow
        signal := signal
        allow_short := MACD.allow_short.resolve parameters
        require_zero_line := MACD.require_zero_line.resolve parameters
        fast_lt_slow := h }
  else .error (.InvalidParametersError (fast_not_below_slow fast.1 slow.1))

namespace Parameters

variable (p : Parameters)

def as_dict : List (String × ParameterValue) :=
  [("fast", .int p.fast.1), ("slow", .int p.slow.1), ("signal", .int p.signal.1),
    ("allow_short", .bool p.allow_short), ("require_zero_line", .bool p.require_zero_line)]

def warmup_bars : ℕ := p.slow.1.toNat + p.signal.1.toNat

end Parameters

/-! ## Signals -/

/-- What the decision at one bar looks at. -/
structure Facts where
  macd : Cell
  signal : Cell
  histogram : Cell
  previous : Cell

section Decide

variable (p : Parameters)

/-- The facts of every bar. -/
def facts (bars : List Bar) : List Facts :=
  let result := indicators.macd (bars.map Bar.close) p.fast.1.toNat p.slow.1.toNat p.signal.1.toNat
  List.zipWith (fun lines histograms => ⟨lines.1, lines.2, histograms.1, histograms.2⟩)
    (result.macd.zip result.signal) (result.histogram.zip (indicators.shift result.histogram))

/-- NaN compares false, so both histograms are known at a crossover. -/
def crossed_up (f : Facts) : Bool :=
  Cell.le f.previous (some 0) ∧ Cell.lt (some 0) f.histogram ∧
    (p.require_zero_line → Cell.lt (some 0) f.macd)

def crossed_down (f : Facts) : Bool :=
  Cell.le (some 0) f.previous ∧ Cell.lt f.histogram (some 0) ∧
    (p.require_zero_line → Cell.lt f.macd (some 0))

/-- The later assignment wins. -/
def event (f : Facts) : Option SignalDirection :=
  if crossed_down p f then some (if p.allow_short then .SHORT else .FLAT)
  else if crossed_up p f then some .LONG
  else none

def reason (f : Facts) : String :=
  if crossed_down p f then
    if p.allow_short then "MACD crossed below its signal line — reversing short"
    else "MACD crossed below its signal line — exiting"
  else if crossed_up p f then "MACD crossed above its signal line"
  else ""

def columns (f : Facts) : List (String × Cell) :=
  [("macd", f.macd), ("macd_signal", f.signal), ("macd_histogram", f.histogram)]

def bar_signals (bars : List Bar) : List BarSignal :=
  held_signals (event p) (fun _ => reason p) columns (facts p bars)

theorem causal_facts : Causal (facts p) := by
  have hfast : 1 ≤ p.fast.1.toNat := by
    have : (2 : ℤ) ≤ p.fast.1 := p.fast.2.1
    omega
  have hslow : 1 ≤ p.slow.1.toNat := by
    have : (3 : ℤ) ≤ p.slow.1 := p.slow.2.1
    omega
  have hsignal : 1 ≤ p.signal.1.toNat := by
    have : (2 : ℤ) ≤ p.signal.1 := p.signal.2.1
    omega
  obtain ⟨hline, hsignal, hhistogram⟩ := indicators.causal_macd
    (Causal.id.map Bar.close) hfast hslow hsignal
  exact (hline.zip hsignal).zipWith _ (hhistogram.zip (indicators.causal_shift hhistogram))

theorem causal_bar_signals : Causal (bar_signals p) :=
  (causal_held_signals _ _ _).comp (causal_facts p)

def generate_signals (series : PriceSeries) : Except StrategyError SignalSet := do
  require_warmup "macd" p.warmup_bars series
  .ok (SignalSet.of_bars series "macd" p.as_dict p.warmup_bars (bar_signals p series.frame.bars)
    ((causal_bar_signals p).length _))

end Decide

end MACD

end Quantora
