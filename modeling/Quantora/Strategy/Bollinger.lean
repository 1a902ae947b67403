import Quantora.Strategy.Signals

/-! # Bollinger bands

    Trade the close's excursions outside its own bands: a band touch is an
    entry, a crossing of the middle band an exit (with `exit_at_middle`). -/

namespace Quantora

namespace Bollinger

def window : IntSpec where
  name := "window"
  default := 20
  minimum := 2
  maximum := 400

def num_std : FloatSpec where
  name := "num_std"
  default := 2
  minimum := 1 / 10
  maximum := 5

def exit_at_middle : BoolSpec := ⟨"exit_at_middle", true⟩

def allow_short : BoolSpec := ⟨"allow_short", false⟩

/-- The names of the specs. -/
def specs : List String := ["window", "num_std", "exit_at_middle", "allow_short"]

/-- Resolved parameters. -/
structure Parameters where
  window : Bollinger.window.Value
  num_std : Bollinger.num_std.Value
  exit_at_middle : Bool
  allow_short : Bool
  deriving DecidableEq

/-- The constructor. -/
def create (rt : Runtime) (parameters : List (String × Json)) :
    Except StrategyError Parameters := do
  reject_unknown "bollinger" specs parameters
  let window ← Bollinger.window.resolve rt parameters
  let num_std ← Bollinger.num_std.resolve rt parameters
  .ok
    { window := window
      num_std := num_std
      exit_at_middle := Bollinger.exit_at_middle.resolve parameters
      allow_short := Bollinger.allow_short.resolve parameters }

namespace Parameters

variable (p : Parameters)

def as_dict : List (String × ParameterValue) :=
  [("window", .int p.window.1), ("num_std", .float p.num_std.1),
    ("exit_at_middle", .bool p.exit_at_middle), ("allow_short", .bool p.allow_short)]

def warmup_bars : ℕ := p.window.1.toNat

end Parameters

/-! ## Signals -/

/-- What the decision at one bar looks at. -/
structure Facts where
  close : Cell
  previous_close : Cell
  middle : Cell
  previous_middle : Cell
  upper : Cell
  lower : Cell
  bandwidth : Cell
  percent_b : Cell

section Decide

variable (rt : Runtime) (p : Parameters)

/-- The facts of every bar. -/
def facts (bars : List Bar) : List Facts :=
  let close : List Cell := bars.map (fun bar => some bar.close)
  let result := indicators.bollinger_bands rt close p.window.1.toNat p.num_std.1
  List.zipWith
    (fun prices bands =>
      { close := prices.1
        previous_close := prices.2
        middle := bands.1.1.1
        previous_middle := bands.1.1.2
        upper := bands.1.2.1
        lower := bands.1.2.2
        bandwidth := bands.2.1
        percent_b := bands.2.2 })
    (close.zip (indicators.shift close))
    (((result.middle.zip (indicators.shift result.middle)).zip (result.upper.zip result.lower)).zip
      (result.bandwidth.zip result.percent_b))

def below_lower (f : Facts) : Bool := f.middle.isSome ∧ Cell.lt f.close f.lower

def above_upper (f : Facts) : Bool := f.middle.isSome ∧ Cell.lt f.upper f.close

/-- Previous close against previous middle, current close against current
    middle. -/
def crossed_above_middle (f : Facts) : Bool :=
  Cell.le f.previous_close f.previous_middle ∧ Cell.lt f.middle f.close

def crossed_below_middle (f : Facts) : Bool :=
  Cell.le f.previous_middle f.previous_close ∧ Cell.lt f.close f.middle

/-- Band touches are assigned after the middle-band exits and win over them. -/
def event (f : Facts) : Option SignalDirection :=
  if above_upper f then some (if p.allow_short then .SHORT else .FLAT)
  else if below_lower f then some .LONG
  else if p.exit_at_middle ∧ (crossed_above_middle f ∨ crossed_below_middle f) then some .FLAT
  else none

/-- Only a bar at which the target changes is explained. -/
def reason (changed : Bool) (f : Facts) : String :=
  if ¬ changed then ""
  else if above_upper f then
    if p.allow_short then "close above the upper band — overbought, entering short"
    else "close above the upper band — overbought, exiting/staying flat"
  else if below_lower f then "close below the lower band — oversold, entering long"
  else if p.exit_at_middle ∧ crossed_below_middle f then
    "close crossed below the middle band — exiting short"
  else if p.exit_at_middle ∧ crossed_above_middle f then
    "close crossed above the middle band — exiting long"
  else ""

def columns (f : Facts) : List (String × Cell) :=
  [("bb_middle", f.middle), ("bb_upper", f.upper), ("bb_lower", f.lower),
    ("bb_bandwidth", f.bandwidth), ("bb_percent_b", f.percent_b)]

def bar_signals (bars : List Bar) : List BarSignal :=
  held_signals (event p) (reason p) columns (facts rt p bars)

theorem causal_facts : Causal (facts rt p) := by
  have hclose : Causal (fun bars : List Bar => bars.map (fun bar => (some bar.close : Cell))) :=
    Causal.id.map _
  obtain ⟨hmiddle, hupper, hlower, hbandwidth, hpercent⟩ :=
    indicators.causal_bollinger_bands rt hclose p.window.1.toNat p.num_std.1
  exact (hclose.zip (indicators.causal_shift hclose)).zipWith _
    (((hmiddle.zip (indicators.causal_shift hmiddle)).zip (hupper.zip hlower)).zip
      (hbandwidth.zip hpercent))

theorem causal_bar_signals : Causal (bar_signals rt p) :=
  (causal_held_signals _ _ _).comp (causal_facts rt p)

def generate_signals (series : PriceSeries) : Except StrategyError SignalSet := do
  require_warmup "bollinger" p.warmup_bars series
  .ok (SignalSet.of_bars series "bollinger" p.as_dict p.warmup_bars
    (bar_signals rt p series.frame.bars) ((causal_bar_signals rt p).length _))

end Decide

end Bollinger

end Quantora
