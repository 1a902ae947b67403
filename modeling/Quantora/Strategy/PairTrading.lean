import Quantora.Framework.Outcome
import Quantora.Strategy.Signals

/-! # Pair trading

    Trade the mean reversion of the log-price spread between two instruments.

    * The legs are aligned on their common timestamps; everything between is a
      column over the common bars.
    * A bar of the primary series without a counterpart gets a flat signal and
      no indicators (`reindexed`).
    * `reindexed_upTo` — what is said about the bars up to a time depends on
      both series up to that time only.
-/

namespace Quantora

namespace PairTrading

def pair_symbol : StrSpec where
  name := "pair_symbol"
  default := "TCS.NS"
  default_valid := ⟨by decide +kernel, by decide +kernel, by simp⟩
  choices_stripped := by simp

def lookback : IntSpec where
  name := "lookback"
  default := 60
  minimum := 10
  maximum := 500

def entry_z : FloatSpec where
  name := "entry_z"
  default := 2
  minimum := 1 / 2
  maximum := 5

def exit_z : FloatSpec where
  name := "exit_z"
  default := 1 / 2
  minimum := 0
  maximum := 3

def min_correlation : FloatSpec where
  name := "min_correlation"
  default := 1 / 2
  minimum := -1
  maximum := 1

def use_hedge_ratio : BoolSpec := ⟨"use_hedge_ratio", true⟩

/-- The names of the specs. -/
def specs : List String :=
  ["pair_symbol", "lookback", "entry_z", "exit_z", "min_correlation", "use_hedge_ratio"]

/-- Resolved parameters. -/
structure Parameters where
  pair_symbol : PairTrading.pair_symbol.Value
  lookback : PairTrading.lookback.Value
  entry_z : PairTrading.entry_z.Value
  exit_z : PairTrading.exit_z.Value
  min_correlation : PairTrading.min_correlation.Value
  use_hedge_ratio : Bool
  /-- `exit_z >= entry_z` is rejected. -/
  exit_below_entry : Cell.le entry_z.1 exit_z.1 = false
  deriving DecidableEq

/-- A resolved float as `str` shows it. -/
def show_float (rt : Runtime) (x : Cell) : String :=
  rt.repr (.float (x.elim .nan .num))

def exit_not_below_entry (rt : Runtime) (exit_z entry_z : Cell) : String :=
  "exit_z (" ++ show_float rt exit_z ++ ") must be strictly less than entry_z ("
    ++ show_float rt entry_z ++ "); an exit band at least as wide as the entry band closes a "
    ++ "position on the very bar it was opened, so the strategy would pay costs to hold nothing."

/-- The constructor, without its keyword `pair_series`. -/
def create_parameters (rt : Runtime) (parameters : List (String × Json)) :
    Except StrategyError Parameters := do
  reject_unknown "pair_trading" specs parameters
  let pair_symbol ← PairTrading.pair_symbol.resolve rt parameters
  let lookback ← PairTrading.lookback.resolve rt parameters
  let entry_z ← PairTrading.entry_z.resolve rt parameters
  let exit_z ← PairTrading.exit_z.resolve rt parameters
  let min_correlation ← PairTrading.min_correlation.resolve rt parameters
  if h : Cell.le entry_z.1 exit_z.1 = false then
    .ok
      { pair_symbol := pair_symbol
        lookback := lookback
        entry_z := entry_z
        exit_z := exit_z
        min_correlation := min_correlation
        use_hedge_ratio := PairTrading.use_hedge_ratio.resolve parameters
        exit_below_entry := h }
  else .error (.InvalidParametersError (exit_not_below_entry rt exit_z.1 entry_z.1))

/-- The constructor. A request can name its keyword `pair_series`: null is the
    keyword's default, and no other JSON value has a `symbol`. -/
def create (rt : Runtime) (parameters : List (String × Json)) :
    Except StrategyError Parameters := do
  let resolved ← create_parameters rt (parameters.filter (fun field => field.1 ≠ "pair_series"))
  match given parameters "pair_series" with
  | none => .ok resolved
  | some .null => .ok resolved
  | some _ => .error (.AttributeError "symbol")

namespace Parameters

variable (p : Parameters)

def as_dict : List (String × ParameterValue) :=
  [("pair_symbol", .str p.pair_symbol.1), ("lookback", .int p.lookback.1),
    ("entry_z", .float p.entry_z.1), ("exit_z", .float p.exit_z.1),
    ("min_correlation", .float p.min_correlation.1), ("use_hedge_ratio", .bool p.use_hedge_ratio)]

def warmup_bars : ℕ := p.lookback.1.toNat + 1

end Parameters

/-! ## The common bars -/

/-- The inner join on the timestamps, as pairs of primary and pair bar. -/
def align (primary pair : List Bar) : List (Bar × Bar) :=
  primary.filterMap fun bar =>
    (pair.find? (fun other => other.timestamp = bar.timestamp)).map (bar, ·)

/-- What the decision at one common bar looks at. -/
structure Facts where
  spread : Cell
  z : Cell
  correlation : Cell
  beta : Cell

section Decide

variable (rt : Runtime) (p : Parameters) (symbol : String)

def log_primary (common : List (Bar × Bar)) : List Cell :=
  common.map (fun legs => some (rt.log legs.1.close))

def log_pair (common : List (Bar × Bar)) : List Cell :=
  common.map (fun legs => some (rt.log legs.2.close))

def beta (common : List (Bar × Bar)) : List Cell :=
  if p.use_hedge_ratio then
    indicators.hedge_ratio (log_primary rt common) (log_pair rt common) p.lookback.1.toNat
  else common.map (fun _ => some 1)

def spread (common : List (Bar × Bar)) : List Cell :=
  List.zipWith Cell.sub (log_primary rt common)
    (List.zipWith Cell.mul (beta rt p common) (log_pair rt common))

/-- The correlation of the legs' log returns. -/
def correlation (common : List (Bar × Bar)) : List Cell :=
  indicators.rolling_correlation rt (indicators.diff (log_primary rt common))
    (indicators.diff (log_pair rt common)) p.lookback.1.toNat

def facts (common : List (Bar × Bar)) : List Facts :=
  List.zipWith (fun spread rest => ⟨spread.1, spread.2, rest.1, rest.2⟩)
    ((spread rt p common).zip
      (indicators.rolling_zscore rt (spread rt p common) p.lookback.1.toNat))
    ((correlation rt p common).zip (beta rt p common))

/-! ## The decision at a common bar -/

def decoupled (f : Facts) : Bool := Cell.lt f.correlation p.min_correlation.1

def unusable (f : Facts) : Bool := f.z.isNone ∨ f.correlation.isNone ∨ decoupled p f

def enter_long (f : Facts) : Bool := Cell.le f.z (Cell.neg p.entry_z.1) ∧ ¬ unusable p f

def enter_short (f : Facts) : Bool := Cell.le p.entry_z.1 f.z ∧ ¬ unusable p f

def revert_flat (f : Facts) : Bool := Cell.le (Cell.abs f.z) p.exit_z.1 ∧ ¬ unusable p f

/-- A forced flat is assigned last, so that it is carried forward. -/
def event (f : Facts) : Option SignalDirection :=
  -- In the order of the masks, last assignment first.
  if unusable p f then some .FLAT
  else if revert_flat p f then some .FLAT
  else if enter_short p f then some .SHORT
  else if enter_long p f then some .LONG
  else none

def reason (f : Facts) : String :=
  let z_text := Cell.format_z f.z
  let pair := p.pair_symbol.1
  -- `decoupled` is written over the other texts; a NaN blocks silently.
  if decoupled p f then
    toString p.lookback.1 ++ "-bar return correlation with " ++ pair ++ " "
      ++ Cell.format_z f.correlation ++ " is below min_correlation "
      ++ Cell.fmt_g p.min_correlation.1 ++ ": the pair has decoupled — flat"
  else if revert_flat p f then
    "spread z " ++ z_text ++ " within ±" ++ Cell.fmt_g p.exit_z.1 ++ ": the " ++ symbol ++ "/"
      ++ pair ++ " spread has reverted — flat"
  else if enter_short p f then
    "spread z " ++ z_text ++ " >= +" ++ Cell.fmt_g p.entry_z.1 ++ ": " ++ symbol
      ++ " is rich versus " ++ pair ++ " — short the spread"
  else if enter_long p f then
    "spread z " ++ z_text ++ " <= -" ++ Cell.fmt_g p.entry_z.1 ++ ": " ++ symbol
      ++ " is cheap versus " ++ pair ++ " — long the spread"
  else ""

def columns (f : Facts) : List (String × Cell) :=
  [("pair_spread", f.spread), ("pair_zscore", f.z), ("pair_correlation", f.correlation),
    ("pair_hedge_ratio", f.beta)]

/-- The signals on the common bars, with their timestamps. -/
def common_signals (common : List (Bar × Bar)) : List (Timestamp × BarSignal) :=
  (common.map (fun legs => legs.1.timestamp)).zip
    (held_signals (event p) (fun _ => reason p symbol) columns (facts rt p common))

/-! ## Back onto the index of the primary series -/

/-- A bar with no second leg: no spread, and no view. -/
def no_view : BarSignal where
  direction := .FLAT
  reason := ""
  indicators := [("pair_spread", none), ("pair_zscore", none), ("pair_correlation", none),
    ("pair_hedge_ratio", none)]

/-- `table.reindex(index)`, with the defaults of a missing row. -/
def reindexed (table : List (Timestamp × BarSignal)) (primary : List Bar) : List BarSignal :=
  primary.map fun bar =>
    ((table.find? (fun row => row.1 = bar.timestamp)).map Prod.snd).getD no_view

def generate_signals (pair : Option PriceSeries) (series : PriceSeries) :
    Except StrategyError SignalSet :=
  match pair with
  | none => .error (.PairDataMissingError "pair_trading" p.pair_symbol.1)
  | some pair =>
    if rt.casefold pair.symbol = rt.casefold series.symbol then
      .error (.InvalidParametersError ("pair_symbol " ++ rt.repr (.str p.pair_symbol.1)
        ++ " is the same instrument as the primary leg " ++ rt.repr (.str series.symbol)
        ++ ". The spread of a series against itself is identically zero, so its z-score is "
        ++ "undefined and there is nothing to trade."))
    else do
      require_warmup "pair_trading" p.warmup_bars series
      let common := align series.frame.bars pair.frame.bars
      -- The common bars have to warm up too, not only the primary series.
      if common.length < p.warmup_bars then
        .error (.InsufficientDataError "pair_trading" p.warmup_bars common.length)
      else
        .ok (SignalSet.of_bars series "pair_trading" p.as_dict p.warmup_bars
          (reindexed (common_signals rt p series.symbol common) series.frame.bars)
          (List.length_map _))

/-- A pair that is not rejected is put back on the index of the primary series. -/
theorem generate_signals_eq {pair series : PriceSeries} {signals : SignalSet}
    (h : generate_signals rt p (some pair) series = .ok signals) :
    signals = SignalSet.of_bars series "pair_trading" p.as_dict p.warmup_bars
      (reindexed (common_signals rt p series.symbol (align series.frame.bars pair.frame.bars))
        series.frame.bars) (List.length_map _) := by
  unfold generate_signals at h
  simp only at h
  by_cases hsame : rt.casefold pair.symbol = rt.casefold series.symbol
  · rw [if_pos hsame] at h
    cases h
  rw [if_neg hsame] at h
  obtain ⟨-, -, h⟩ := Outcome.bind_eq_ok.mp h
  by_cases hcommon : (align series.frame.bars pair.frame.bars).length < p.warmup_bars
  · rw [if_pos hcommon] at h
    cases h
  rw [if_neg hcommon] at h
  exact (Except.ok.inj h).symm

end Decide

/-! ## Causality -/

section Causality

open Causal

variable (rt : Runtime) (p : Parameters) (symbol : String)

theorem causal_facts : Causal (facts rt p) := by
  have hprimary : Causal (log_primary rt) := Causal.id.map _
  have hpair : Causal (log_pair rt) := Causal.id.map _
  have hbeta : Causal (beta rt p) := by
    unfold beta
    split_ifs
    · exact indicators.causal_hedge_ratio hprimary hpair _
    · exact Causal.id.map _
  have hspread : Causal (spread rt p) := hprimary.zipWith _ (hbeta.zipWith _ hpair)
  have hz : Causal (fun common =>
      indicators.rolling_zscore rt (spread rt p common) p.lookback.1.toNat) :=
    indicators.causal_rolling_zscore rt hspread _
  have hcorrelation : Causal (correlation rt p) :=
    indicators.causal_rolling_correlation rt (indicators.causal_diff hprimary)
      (indicators.causal_diff hpair) _
  exact (hspread.zip hz).zipWith _ (hcorrelation.zip hbeta)

theorem causal_common_signals : Causal (common_signals rt p symbol) :=
  (Causal.id.map _).zip ((causal_held_signals _ _ _).comp (causal_facts rt p))

theorem map_fst_common_signals (common : List (Bar × Bar)) :
    (common_signals rt p symbol common).map Prod.fst
      = common.map (fun legs => legs.1.timestamp) := by
  have hlen := (causal_common_signals rt p symbol).length common
  rw [common_signals, List.length_zip, List.length_map] at hlen
  rw [common_signals, List.map_fst_zip]
  rw [List.length_map]
  omega

/-- Joining up to a time is joining the series up to that time. -/
theorem align_upTo (T : Timestamp) (primary pair : List Bar) :
    upTo (fun legs => legs.1.timestamp) T (align primary pair)
      = align (upTo Bar.timestamp T primary) (upTo Bar.timestamp T pair) := by
  induction primary with
  | nil => rfl
  | cons bar primary ih =>
    by_cases hbar : bar.timestamp ≤ T
    · have hcut : upTo Bar.timestamp T (bar :: primary) = bar :: upTo Bar.timestamp T primary :=
        List.filter_cons_of_pos (by simpa)
      rw [hcut, align, align, List.filterMap_cons, List.filterMap_cons, find?_upTo hbar]
      cases pair.find? (fun other => other.timestamp = bar.timestamp) with
      | none => exact ih
      | some other =>
        have hkept : upTo (fun legs : Bar × Bar => legs.1.timestamp) T
            ((bar, other) :: align primary pair)
            = (bar, other) :: upTo (fun legs => legs.1.timestamp) T (align primary pair) :=
          List.filter_cons_of_pos (by simpa)
        exact hkept.trans (congrArg _ ih)
    · have hcut : upTo Bar.timestamp T (bar :: primary) = upTo Bar.timestamp T primary :=
        List.filter_cons_of_neg (by simpa using hbar)
      rw [hcut, align, List.filterMap_cons]
      cases pair.find? (fun other => other.timestamp = bar.timestamp) with
      | none => exact ih
      | some other =>
        have hdropped : upTo (fun legs : Bar × Bar => legs.1.timestamp) T
            ((bar, other) :: align primary pair)
            = upTo (fun legs => legs.1.timestamp) T (align primary pair) :=
          List.filter_cons_of_neg (by simpa using hbar)
        exact hdropped.trans ih

theorem align_increasing {primary : List Bar} (pair : List Bar)
    (h : primary.Pairwise (fun a b => a.timestamp < b.timestamp)) :
    (align primary pair).Pairwise (fun a b => a.1.timestamp < b.1.timestamp) := by
  rw [align, List.pairwise_filterMap]
  refine h.imp ?_
  intro a b hab legs hlegs legs' hlegs'
  obtain ⟨other, -, rfl⟩ := Option.map_eq_some_iff.mp hlegs
  obtain ⟨other', -, rfl⟩ := Option.map_eq_some_iff.mp hlegs'
  exact hab

/-- The signals of the bars up to a time depend on both series up to that time
    only. -/
theorem reindexed_upTo {primary : List Bar} (pair : List Bar)
    (h : primary.Pairwise (fun a b => a.timestamp < b.timestamp)) (T : Timestamp) :
    reindexed (common_signals rt p symbol (align primary pair)) (upTo Bar.timestamp T primary)
      = reindexed (common_signals rt p symbol
          (align (upTo Bar.timestamp T primary) (upTo Bar.timestamp T pair)))
          (upTo Bar.timestamp T primary) := by
  have htable : upTo Prod.fst T (common_signals rt p symbol (align primary pair))
      = common_signals rt p symbol
          (align (upTo Bar.timestamp T primary) (upTo Bar.timestamp T pair)) := by
    rw [(causal_common_signals rt p symbol).upTo_eq (map_fst_common_signals rt p symbol)
      (align_increasing pair h), align_upTo]
  apply List.map_congr_left
  intro bar hbar
  have hT : bar.timestamp ≤ T := by simpa using (List.mem_filter.mp hbar).2
  rw [← htable, find?_upTo hT]

end Causality

end PairTrading

end Quantora
