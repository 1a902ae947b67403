import Quantora.Strategy.Bollinger
import Quantora.Strategy.DualThrust
import Quantora.Strategy.MACD
import Quantora.Strategy.PairTrading

/-! # The strategy registry

    * `RegisteredStrategy` — an instance of one of the four registered classes.
    * `create` — an instance by name, from the parameters of a request.
    * `generate_signals` — on the primary series and, for pair trading, on the
      second leg that was injected.
-/

namespace Quantora

/-- An instance of a registered strategy. -/
inductive RegisteredStrategy where
  | macd (p : MACD.Parameters)
  | bollinger (p : Bollinger.Parameters)
  | dual_thrust (p : DualThrust.Parameters)
  | pair_trading (p : PairTrading.Parameters)
  deriving DecidableEq

/-- `available()`. -/
def available : List String := ["bollinger", "dual_thrust", "macd", "pair_trading"]

namespace RegisteredStrategy

/-- `create(name, parameters)`. -/
def create (rt : Runtime) (name : String) (parameters : List (String × Json)) :
    Except StrategyError RegisteredStrategy :=
  if name = "macd" then (MACD.create rt parameters).map macd
  else if name = "bollinger" then (Bollinger.create rt parameters).map bollinger
  else if name = "dual_thrust" then (DualThrust.create rt parameters).map dual_thrust
  else if name = "pair_trading" then (PairTrading.create rt parameters).map pair_trading
  else .error (.UnknownStrategyError name available)

def name : RegisteredStrategy → String
  | macd _ => "macd"
  | bollinger _ => "bollinger"
  | dual_thrust _ => "dual_thrust"
  | pair_trading _ => "pair_trading"

def parameters : RegisteredStrategy → List (String × ParameterValue)
  | macd p => p.as_dict
  | bollinger p => p.as_dict
  | dual_thrust p => p.as_dict
  | pair_trading p => p.as_dict

/-- Bars consumed before the first tradable signal. -/
def warmup_bars : RegisteredStrategy → ℕ
  | macd p => p.warmup_bars
  | bollinger p => p.warmup_bars
  | dual_thrust p => p.warmup_bars
  | pair_trading p => p.warmup_bars

/-- The instruments a strategy needs beyond the primary series. -/
def auxiliary_symbols : RegisteredStrategy → List String
  | pair_trading p => [p.pair_symbol.1]
  | _ => []

/-- Only pair trading reads the injected second leg. -/
def generate_signals (rt : Runtime) (pair : Option PriceSeries) (series : PriceSeries) :
    RegisteredStrategy → Except StrategyError SignalSet
  | macd p => MACD.generate_signals p series
  | bollinger p => Bollinger.generate_signals rt p series
  | dual_thrust p => DualThrust.generate_signals p series
  | pair_trading p => PairTrading.generate_signals rt p pair series

/-- What the engine uses of it. No registered strategy overrides the defaults. -/
def contract (strategy : RegisteredStrategy) : Strategy := { name := strategy.name }

/-- A strategy goes by the name it was created under. -/
theorem create_name {rt : Runtime} {name : String} {parameters : List (String × Json)}
    {strategy : RegisteredStrategy}
    (h : create rt name parameters = .ok strategy) : strategy.name = name := by
  unfold create at h
  split_ifs at h with hmacd hbollinger hdual hpair
  · obtain ⟨p, -, rfl⟩ := Outcome.map_eq_ok.mp h
    exact hmacd.symm
  · obtain ⟨p, -, rfl⟩ := Outcome.map_eq_ok.mp h
    exact hbollinger.symm
  · obtain ⟨p, -, rfl⟩ := Outcome.map_eq_ok.mp h
    exact hdual.symm
  · obtain ⟨p, -, rfl⟩ := Outcome.map_eq_ok.mp h
    exact hpair.symm

end RegisteredStrategy

end Quantora
