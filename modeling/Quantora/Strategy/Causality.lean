import Quantora.Framework.Outcome
import Quantora.Strategy.Registry

/-! # Strategies are causal

    Two runs of `generate_signals` on series that agree up to a time emit the
    same rows up to that time: the same direction, strength, reason and
    indicator values.

    * `PriceSeries.AgreeUpTo` — the same bars up to a time. The later bars may
      differ in number, timestamps and prices.
    * `SignalSet.rows_upTo` — the rows of a signal set up to a time.
    * `signals_causal` — one case per registered strategy.
-/

namespace Quantora

open Causal

/-- The same bars up to time `T`. -/
def PriceSeries.AgreeUpTo (T : Timestamp) (a b : PriceSeries) : Prop :=
  upTo Bar.timestamp T a.frame.bars = upTo Bar.timestamp T b.frame.bars

instance (T : Timestamp) (a b : PriceSeries) : Decidable (a.AgreeUpTo T b) :=
  inferInstanceAs (Decidable (_ = _))

/-- The signal rows and indicator rows up to time `T`. -/
def SignalSet.rows_upTo (T : Timestamp) (signals : SignalSet) :
    List SignalRow × List IndicatorRow :=
  (upTo SignalRow.timestamp T signals.frame, upTo IndicatorRow.timestamp T signals.indicators)

/-- The rows of a causal strategy on the bars up to a time. -/
theorem SignalSet.rows_upTo_of_bars {F : List Bar → List BarSignal} (hF : Causal F)
    (series : PriceSeries) (strategy : String) (parameters : List (String × ParameterValue))
    (warmup_bars : ℕ) (T : Timestamp) :
    (SignalSet.of_bars series strategy parameters warmup_bars (F series.frame.bars)
        (hF.length _)).rows_upTo T
      = (List.zipWith BarSignal.row (upTo Bar.timestamp T series.frame.bars)
            (F (upTo Bar.timestamp T series.frame.bars)),
          List.zipWith BarSignal.indicator_row (upTo Bar.timestamp T series.frame.bars)
            (F (upTo Bar.timestamp T series.frame.bars))) := by
  have hrows := (Causal.id.zipWith BarSignal.row hF).upTo_eq
    (fun bars => map_timestamp_row (hF.length bars)) series.frame.increasing T
  have hindicators := (Causal.id.zipWith BarSignal.indicator_row hF).upTo_eq
    (fun bars => map_timestamp_indicator_row (hF.length bars)) series.frame.increasing T
  exact Prod.ext hrows hindicators

/-- The rows of a strategy that says something about each bar of the index. -/
theorem SignalSet.rows_upTo_of_map (f : Bar → BarSignal)
    (series : PriceSeries) (strategy : String) (parameters : List (String × ParameterValue))
    (warmup_bars : ℕ) (T : Timestamp) :
    (SignalSet.of_bars series strategy parameters warmup_bars (series.frame.bars.map f)
        (List.length_map _)).rows_upTo T
      = (List.zipWith BarSignal.row (upTo Bar.timestamp T series.frame.bars)
            ((upTo Bar.timestamp T series.frame.bars).map f),
          List.zipWith BarSignal.indicator_row (upTo Bar.timestamp T series.frame.bars)
            ((upTo Bar.timestamp T series.frame.bars).map f)) :=
  SignalSet.rows_upTo_of_bars (Causal.id.map f) series strategy parameters warmup_bars T

section Families

variable {rt : Runtime} {T : Timestamp} {a b : PriceSeries} {signals signals' : SignalSet}

/-- `require_warmup` passes or fails; past it, the rest of a strategy is total. -/
theorem eq_of_require_warmup {strategy : String} {warmup_bars : ℕ} {series : PriceSeries}
    {signals signals' : SignalSet}
    (h : (do require_warmup strategy warmup_bars series; .ok signals') = Except.ok signals) :
    signals = signals' := by
  obtain ⟨-, -, h⟩ := Outcome.bind_eq_ok.mp h
  exact (Except.ok.inj h).symm

/-- The strategies of one series: their rows are a causal function of the bars. -/
theorem rows_upTo_eq_of_causal {F : List Bar → List BarSignal} (hF : Causal F)
    (hbars : a.AgreeUpTo T b) {strategy : String} {parameters : List (String × ParameterValue)}
    {warmup_bars : ℕ}
    (ha : (do require_warmup strategy warmup_bars a
              .ok (SignalSet.of_bars a strategy parameters warmup_bars (F a.frame.bars)
                (hF.length _))) = Except.ok signals)
    (hb : (do require_warmup strategy warmup_bars b
              .ok (SignalSet.of_bars b strategy parameters warmup_bars (F b.frame.bars)
                (hF.length _))) = Except.ok signals') :
    signals.rows_upTo T = signals'.rows_upTo T := by
  rw [eq_of_require_warmup ha, eq_of_require_warmup hb, SignalSet.rows_upTo_of_bars hF,
    SignalSet.rows_upTo_of_bars hF, hbars]

/-- The rows of pair trading, from the two legs up to a time. -/
theorem pair_rows_upTo {p : PairTrading.Parameters} {pair : PriceSeries}
    (h : PairTrading.generate_signals rt p (some pair) a = .ok signals) :
    signals.rows_upTo T =
      let primary := upTo Bar.timestamp T a.frame.bars
      let table := PairTrading.common_signals rt p a.symbol
        (PairTrading.align primary (upTo Bar.timestamp T pair.frame.bars))
      (List.zipWith BarSignal.row primary (PairTrading.reindexed table primary),
        List.zipWith BarSignal.indicator_row primary (PairTrading.reindexed table primary)) := by
  obtain rfl := PairTrading.generate_signals_eq rt p h
  simp only [← PairTrading.reindexed_upTo rt p a.symbol pair.frame.bars a.frame.increasing T]
  exact SignalSet.rows_upTo_of_map _ a _ _ _ T

end Families

/-- **Main result**: what a registered strategy says about the bars up to a time
    depends on the bars up to that time only. -/
theorem signals_causal {rt : Runtime} {strategy : RegisteredStrategy} {T : Timestamp}
    {a b : PriceSeries} {pair pair' : Option PriceSeries} {signals signals' : SignalSet}
    (hsymbol : a.symbol = b.symbol) (hbars : a.AgreeUpTo T b)
    (hpair : Option.Rel (PriceSeries.AgreeUpTo T) pair pair')
    (ha : strategy.generate_signals rt pair a = .ok signals)
    (hb : strategy.generate_signals rt pair' b = .ok signals') :
    signals.rows_upTo T = signals'.rows_upTo T := by
  cases strategy with
  | macd p => exact rows_upTo_eq_of_causal (MACD.causal_bar_signals p) hbars ha hb
  | bollinger p => exact rows_upTo_eq_of_causal (Bollinger.causal_bar_signals rt p) hbars ha hb
  | dual_thrust p => exact rows_upTo_eq_of_causal (DualThrust.causal_bar_signals p) hbars ha hb
  | pair_trading p =>
    cases hpair with
    | none => cases ha
    | some hpair =>
      have hpair : _ = _ := hpair
      rw [pair_rows_upTo ha, pair_rows_upTo hb, hsymbol, hbars, hpair]

/-- Bars of consecutive days with the given closes. -/
def daily_frame (closes : List ℚ) : PriceFrame where
  bars := (List.range closes.length).map fun day =>
    let close := closes.getD day 0
    ⟨day * 86400000000000, close, close, close, close, close, 0⟩
  increasing := by
    rw [List.pairwise_map]
    refine List.pairwise_lt_range.imp ?_
    intro i j hij
    have : (i : ℤ) < j := by exact_mod_cast hij
    simpa using this

def daily_series (symbol : String) (closes : List ℚ) : PriceSeries where
  symbol := symbol
  interval := "1d"
  frame := daily_frame closes
  provenance := ⟨"yfinance", symbol, "split_and_dividend_adjusted", "2024-01-01", "2024-06-30"⟩

/-- The shortest pair that can be traded. -/
def short_pair : PairTrading.Parameters where
  pair_symbol := ⟨PairTrading.pair_symbol.default, PairTrading.pair_symbol.default_valid⟩
  lookback := ⟨10, by decide +kernel⟩
  entry_z := ⟨some 2, by simp [PairTrading.entry_z]; norm_num⟩
  exit_z := ⟨some (1 / 2), by simp [PairTrading.exit_z]; norm_num⟩
  min_correlation := ⟨some (1 / 2), by simp [PairTrading.min_correlation]; norm_num⟩
  use_hedge_ratio := false
  exit_below_entry := by decide +kernel

/-! ## A runtime for concrete pairs -/

namespace PairTrading

/-- Newton's iteration for the integer part of a root, from above. -/
def root_steps : ℕ → ℕ → ℕ → ℕ
  | 0, _, guess => guess
  | fuel + 1, n, guess =>
    let next := (guess + n / guess) / 2
    if next < guess then root_steps fuel n next else guess

/-- Logarithms of powers of two and roots, to sixteen decimal places. -/
def decimal_runtime : Runtime where
  log := fun x => (Nat.log2 x.num.toNat - Nat.log2 x.den) * (6931471805599453 / 10 ^ 16)
  sqrt := fun x =>
    let n := x.num.toNat * 10 ^ 32 / x.den
    root_steps 300 n (n + 1) / 10 ^ 16
  pow := fun x _ => x
  casefold := id
  int_of_str := fun _ => none
  float_of_str := fun _ => none
  repr := fun _ => ""

/-- A second leg that alternates between two prices. -/
def alternating : List ℚ := [1, 2, 1, 2, 1, 2, 1, 2, 1, 2, 1]

/-- A primary leg that alternates with it, until the last day. -/
def alternating_then_cheap : List ℚ := [8, 32, 8, 32, 8, 32, 8, 32, 8, 32, 1]

end PairTrading

/-- Both legs of a pair, over the same days. -/
def primary_leg (later : List ℚ) : PriceSeries :=
  daily_series "INFY.NS" (PairTrading.alternating_then_cheap ++ later)

def second_leg (later : List ℚ) : PriceSeries :=
  daily_series "TCS.NS" (PairTrading.alternating ++ later)

/-- Two pairs that part after the eleventh bar, when the spread has been bought. -/
theorem signals_causal_on_pairs :
    ∃ signals signals',
      (RegisteredStrategy.pair_trading short_pair).generate_signals PairTrading.decimal_runtime
        (some (second_leg [2])) (primary_leg [32]) = .ok signals ∧
      (RegisteredStrategy.pair_trading short_pair).generate_signals PairTrading.decimal_runtime
        (some (second_leg [1])) (primary_leg [2]) = .ok signals' ∧
      signals.frame[10]?.map SignalRow.direction = some .LONG ∧
      signals.rows_upTo 864000000000000 = signals'.rows_upTo 864000000000000 := by
  obtain ⟨signals, hsignals, hlong⟩ := Outcome.exists_of_any
    (show ((RegisteredStrategy.pair_trading short_pair).generate_signals
      PairTrading.decimal_runtime (some (second_leg [2])) (primary_leg [32])).toOption.any
        (fun signals => signals.frame[10]?.map SignalRow.direction = some .LONG) = true
      by decide +kernel)
  obtain ⟨signals', hsignals'⟩ := Outcome.exists_eq_ok
    (x := (RegisteredStrategy.pair_trading short_pair).generate_signals
      PairTrading.decimal_runtime (some (second_leg [1])) (primary_leg [2])) (by decide +kernel)
  have hbars : (primary_leg [32]).AgreeUpTo 864000000000000 (primary_leg [2]) := by decide +kernel
  have hpair : Option.Rel (PriceSeries.AgreeUpTo 864000000000000) (some (second_leg [2]))
      (some (second_leg [1])) := .some (by decide +kernel)
  have hsymbol : (primary_leg [32]).symbol = (primary_leg [2]).symbol := rfl
  exact ⟨signals, signals', hsignals, hsignals', of_decide_eq_true hlong,
    signals_causal hsymbol hbars hpair hsignals hsignals'⟩

end Quantora
