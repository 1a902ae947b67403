import Quantora.Data.Types
import Quantora.Python.Cells

/-! # The strategy contract

    `strategies/base.py`: what a strategy emits (a target direction per bar),
    what it may look at when it sizes or exits a position (closed contexts that
    describe the present bar only), and the default sizing rule.

    A signal is a *target state*, not an action: the engine diffs it against the
    current position. -/

namespace Quantora

/-- The position a strategy wants to hold from the next bar onwards. -/
inductive SignalDirection where
  | SHORT
  | FLAT
  | LONG
  deriving DecidableEq, Repr

namespace SignalDirection

/-- `int(direction)`. -/
def value : SignalDirection → ℤ
  | SHORT => -1
  | FLAT => 0
  | LONG => 1

def label : SignalDirection → String
  | SHORT => "short"
  | FLAT => "flat"
  | LONG => "long"

@[simp] theorem value_SHORT : SHORT.value = -1 := rfl
@[simp] theorem value_FLAT : FLAT.value = 0 := rfl
@[simp] theorem value_LONG : LONG.value = 1 := rfl

end SignalDirection

/-! ## Signal sets -/

/-- A resolved strategy parameter. -/
inductive ParameterValue where
  | int (value : ℤ)
  | float (value : Cell)
  | bool (value : Bool)
  | str (value : String)
  deriving DecidableEq, Repr

/-- One row of a signal frame. -/
structure SignalRow where
  timestamp : Timestamp
  direction : SignalDirection
  /-- Conviction, between zero and one. -/
  strength : ℚ
  reason : String
  deriving DecidableEq, Repr

/-- One row of an indicator frame. -/
structure IndicatorRow where
  timestamp : Timestamp
  values : List (String × Cell)
  deriving DecidableEq, Repr

/-- A strategy's output for one instrument. -/
structure SignalSet where
  symbol : String
  strategy : String
  parameters : List (String × ParameterValue)
  frame : List SignalRow
  indicators : List IndicatorRow
  warmup_bars : ℕ
  /-- `__post_init__` rejects timestamps that are out of order. -/
  monotonic : (frame.map SignalRow.timestamp).Pairwise (· ≤ ·)
  deriving DecidableEq

/-! ## What a strategy may look at -/

/-- An open position, as the strategy sees it. -/
structure Position where
  symbol : String
  quantity : ℚ
  entry_price : ℚ
  entry_timestamp : Timestamp
  bars_held : ℕ
  deriving DecidableEq, Repr

/-- Everything `position_size` may look at. -/
structure SizingContext where
  timestamp : Timestamp
  symbol : String
  direction : SignalDirection
  strength : ℚ
  price : ℚ
  equity : ℚ
  cash : ℚ
  position : Position
  indicators : List (String × ℚ)
  deriving DecidableEq, Repr

/-- Everything `exit_signal` may look at. -/
structure ExitContext where
  timestamp : Timestamp
  symbol : String
  position : Position
  price : ℚ
  bar : List (String × ℚ)
  unrealized_pnl : ℚ
  unrealized_return : ℚ
  indicators : List (String × ℚ)
  deriving DecidableEq, Repr

/-- Whether to close a position now, and why. -/
structure ExitDecision where
  should_exit : Bool
  reason : String := ""
  deriving DecidableEq, Repr

def ExitDecision.hold : ExitDecision := { should_exit := false }

def ExitDecision.exit (reason : String) : ExitDecision := { should_exit := true, reason := reason }

/-! ## The strategy -/

/-- `Strategy.position_size`: allocate a fraction of current equity, scaled by
    conviction, in whole units. -/
def base_position_size (default_allocation : ℚ) (context : SizingContext) : ℚ :=
  if context.direction = .FLAT ∨ context.price ≤ 0 then 0
  else
    let strength := min (max context.strength 0) 1
    let notional := context.equity * default_allocation * strength
    Python.truncate (notional / context.price) * context.direction.value

/-- What the engine uses of a strategy. A strategy overrides either method by
    giving its own function of the context. -/
structure Strategy where
  name : String
  rebalances_continuously : Bool := false
  default_allocation : ℚ := 19 / 20
  position_size : SizingContext → ℚ := base_position_size default_allocation
  exit_signal : ExitContext → ExitDecision := fun _ => ExitDecision.hold

/-- The strategy keeps the default sizing rule. -/
def Strategy.BaseSized (strategy : Strategy) : Prop :=
  strategy.position_size = base_position_size strategy.default_allocation

end Quantora
