import Quantora.Strategy.Signals

/-! # Dual Thrust

    Trade breakouts of a range that is built from the bars before this one and
    projected off this bar's open. -/

namespace Quantora

namespace DualThrust

def lookback : IntSpec where
  name := "lookback"
  default := 4
  minimum := 2
  maximum := 200

def k_upper : FloatSpec where
  name := "k_upper"
  default := 1 / 2
  minimum := 1 / 20
  maximum := 3

def k_lower : FloatSpec where
  name := "k_lower"
  default := 1 / 2
  minimum := 1 / 20
  maximum := 3

def allow_short : BoolSpec := ⟨"allow_short", false⟩

def trigger_on : StrSpec where
  name := "trigger_on"
  default := "close"
  choices := some ["close", "intrabar"]
  default_valid := by decide +kernel
  choices_stripped := by
    intro allowed hallowed s hs
    obtain rfl := Option.some.inj hallowed
    simp only [List.mem_cons, List.not_mem_nil, or_false] at hs
    rcases hs with rfl | rfl <;> decide +kernel

/-- The names of the specs. -/
def specs : List String := ["lookback", "k_upper", "k_lower", "allow_short", "trigger_on"]

/-- Resolved parameters. -/
structure Parameters where
  lookback : DualThrust.lookback.Value
  k_upper : DualThrust.k_upper.Value
  k_lower : DualThrust.k_lower.Value
  allow_short : Bool
  trigger_on : DualThrust.trigger_on.Value
  deriving DecidableEq

/-- The constructor. -/
def create (rt : Runtime) (parameters : List (String × Json)) :
    Except StrategyError Parameters := do
  reject_unknown "dual_thrust" specs parameters
  let lookback ← DualThrust.lookback.resolve rt parameters
  let k_upper ← DualThrust.k_upper.resolve rt parameters
  let k_lower ← DualThrust.k_lower.resolve rt parameters
  let trigger_on ← DualThrust.trigger_on.resolve rt parameters
  .ok
    { lookback := lookback
      k_upper := k_upper
      k_lower := k_lower
      allow_short := DualThrust.allow_short.resolve parameters
      trigger_on := trigger_on }

namespace Parameters

variable (p : Parameters)

def as_dict : List (String × ParameterValue) :=
  [("lookback", .int p.lookback.1), ("k_upper", .float p.k_upper.1),
    ("k_lower", .float p.k_lower.1), ("allow_short", .bool p.allow_short),
    ("trigger_on", .str p.trigger_on.1)]

/-- The range is built from bars shifted one back, which costs one more bar. -/
def warmup_bars : ℕ := p.lookback.1.toNat + 1

end Parameters

/-! ## Signals -/

/-- What the decision at one bar looks at. -/
structure Facts where
  bar : Bar
  range : Cell

section Decide

variable (p : Parameters)

/-- `column.shift(1).rolling(lookback)` with a statistic of the window. -/
def prior (statistic : List ℚ → Cell) (column : Bar → ℚ) (bars : List Bar) : List Cell :=
  indicators.rolling p.lookback.1.toNat statistic
    (indicators.shift (bars.map (fun bar => some (column bar))))

/-- `max(HH - LC, HC - LL)`. -/
def range (bars : List Bar) : List Cell :=
  let hh := prior p List.max? Bar.high bars
  let hc := prior p List.max? Bar.close bars
  let lc := prior p List.min? Bar.close bars
  let ll := prior p List.min? Bar.low bars
  List.zipWith Cell.maximum (List.zipWith Cell.sub hh lc) (List.zipWith Cell.sub hc ll)

def facts (bars : List Bar) : List Facts := List.zipWith Facts.mk bars (range p bars)

def upper_trigger (f : Facts) : Cell := Cell.add (some f.bar.open_) (Cell.mul p.k_upper.1 f.range)

def lower_trigger (f : Facts) : Cell := Cell.sub (some f.bar.open_) (Cell.mul p.k_lower.1 f.range)

def broke_up (f : Facts) : Bool :=
  -- Without a range both triggers are the open.
  Cell.lt (some 0) f.range ∧
    Cell.le (upper_trigger p f)
      (some (if p.trigger_on.1 = "close" then f.bar.close else f.bar.high))

def broke_down (f : Facts) : Bool :=
  Cell.lt (some 0) f.range ∧
    Cell.le (some (if p.trigger_on.1 = "close" then f.bar.close else f.bar.low)) (lower_trigger p f)

/-- A bar that touches both triggers counts as the one assigned last. -/
def event (f : Facts) : Option SignalDirection :=
  if broke_down p f then some (if p.allow_short then .SHORT else .FLAT)
  else if broke_up p f then some .LONG
  else none

def up_reason : String :=
  if p.trigger_on.1 = "intrabar" then "high touched the upper trigger — long breakout (intrabar)"
  else "close broke above the upper trigger — long breakout"

def down_reason : String :=
  if p.trigger_on.1 = "intrabar" then
    if p.allow_short then "low touched the lower trigger — reversing short (intrabar)"
    else "low touched the lower trigger — exiting (intrabar)"
  else if p.allow_short then "close broke below the lower trigger — reversing short"
  else "close broke below the lower trigger — exiting"

def reason (f : Facts) : String :=
  if broke_down p f then down_reason p else if broke_up p f then up_reason p else ""

def columns (f : Facts) : List (String × Cell) :=
  [("dt_range", f.range), ("dt_upper_trigger", upper_trigger p f),
    ("dt_lower_trigger", lower_trigger p f)]

def bar_signals (bars : List Bar) : List BarSignal :=
  held_signals (event p) (fun _ => reason p) (columns p) (facts p bars)

theorem causal_prior (statistic : List ℚ → Cell) (column : Bar → ℚ) :
    Causal (prior p statistic column) :=
  (indicators.causal_rolling _ _).comp (indicators.causal_shift (Causal.id.map _))

theorem causal_bar_signals : Causal (bar_signals p) := by
  have hhighs := (causal_prior p List.max? Bar.high).zipWith Cell.sub
    (causal_prior p List.min? Bar.close)
  have hlows := (causal_prior p List.max? Bar.close).zipWith Cell.sub
    (causal_prior p List.min? Bar.low)
  have hfacts : Causal (facts p) := Causal.id.zipWith _ (hhighs.zipWith _ hlows)
  exact (causal_held_signals _ _ _).comp hfacts

def generate_signals (series : PriceSeries) : Except StrategyError SignalSet := do
  require_warmup "dual_thrust" p.warmup_bars series
  .ok (SignalSet.of_bars series "dual_thrust" p.as_dict p.warmup_bars
    (bar_signals p series.frame.bars) ((causal_bar_signals p).length _))

end Decide

end DualThrust

end Quantora
