import Quantora.Framework.Causal
import Quantora.Python.Rounded
import Quantora.Backtest.Portfolio

/-! # Metrics

    `metrics.py`: the performance and risk metrics of an equity curve and its
    closed trades. A metric that is undefined is `none`, and `unavailable` says
    why.

    The curve is the column of its values. Roots and powers are those of the
    runtime; everything else is exact. A power may be past the largest float, and
    then `**` raises: the functions under `raising` do, and otherwise return what
    those of `metrics` are. -/

namespace Quantora

namespace metrics

def EPSILON : ℚ := 1 / 1000000000000

/-! ## Curves -/

/-- `equity.pct_change().dropna()`: a step from a zero equity is infinite, or
    NaN and dropped. -/
def returns_from_equity (equity : List ℚ) : List Python.Float :=
  (List.zipWith (fun before now => ((Python.Float.num now).div (.num before)).sub (.num 1))
    equity equity.tail).filter (· ≠ .nan)

/-- `equity.cummax()`. -/
def cummax (equity : List ℚ) : List ℚ :=
  Column.scan (fun peak x => (some (peak.elim x (max · x)), peak.elim x (max · x))) none equity

/-- Fractional drawdown from the running peak, at every bar. -/
def drawdown_curve (equity : List ℚ) : List Python.Float :=
  List.zipWith (fun value peak => ((Python.Float.num value).div (.num peak)).sub (.num 1))
    equity (cummax equity)

/-- Worst peak-to-trough decline, as a negative fraction. -/
def max_drawdown (equity : List ℚ) : Python.Float :=
  if equity.isEmpty then .num 0 else Python.Float.minimum (drawdown_curve equity)

/-- `equity < equity.cummax()`. -/
def underwater (equity : List ℚ) : List Bool :=
  List.zipWith (fun value peak => decide (value < peak)) equity (cummax equity)

/-- The loop over the bars; the state is `(longest, current)`. -/
def longest_run (flags : List Bool) : ℕ × ℕ :=
  flags.foldl
    (fun state is_under =>
      let current := if is_under then state.2 + 1 else 0
      (max state.1 current, current))
    (0, 0)

/-- Longest run of bars spent below a previous peak. -/
def max_drawdown_duration (equity : List ℚ) : ℕ :=
  if equity.isEmpty then 0 else (longest_run (underwater equity)).1

/-! ## Single metrics -/

section Metrics

variable (rt : Runtime)

/-- Compound annual growth rate. Where its power is past the largest float, see
    `raising.cagr`. -/
def cagr (equity : List ℚ) (periods_per_year : ℚ) : Option ℚ :=
  if equity.length < 2 ∨ periods_per_year ≤ 0 then none
  else
    let start := equity.head?.getD 0
    let end_ := equity.getLast?.getD 0
    -- An equity that reached zero has no annual rate.
    if start ≤ 0 ∨ end_ ≤ 0 then none
    else
      let years := ((equity.length : ℚ) - 1) / periods_per_year
      if years < EPSILON then none else some (rt.pow (end_ / start) (1 / years) - 1)

def annualized_volatility (returns : List Python.Float) (periods_per_year : ℚ) :
    Option Python.Float :=
  if returns.length < 2 then none
  else some ((Python.Float.std rt returns).mul (.num (rt.sqrt periods_per_year)))

/-- The returns over the risk-free rate of one period. -/
def excess (returns : List Python.Float) (periods_per_year risk_free_rate : ℚ) :
    List Python.Float :=
  let period_rf := rt.pow (1 + risk_free_rate) (1 / periods_per_year) - 1
  returns.map (fun r => r.sub (.num period_rf))

/-- Annualised Sharpe ratio. -/
def sharpe (returns : List Python.Float) (periods_per_year risk_free_rate : ℚ) :
    Option Python.Float :=
  if returns.length < 2 then none
  else
    let excess := excess rt returns periods_per_year risk_free_rate
    let std := Python.Float.std rt excess
    -- `np.isfinite`, which neither the volatility nor `sortino` asks.
    if ¬ std.is_finite ∨ std.lt (.num EPSILON) then none
    else some (((Python.Float.mean excess).div std).mul (.num (rt.sqrt periods_per_year)))

/-- Annualised Sortino ratio: excess return over downside deviation. -/
def sortino (returns : List Python.Float) (periods_per_year risk_free_rate : ℚ) :
    Option Python.Float :=
  if returns.length < 2 then none
  else
    let excess := excess rt returns periods_per_year risk_free_rate
    let downside := excess.map Python.Float.clip_upper_zero
    let downside_deviation := (Python.Float.mean (downside.map fun d => d.mul d)).sqrt rt
    -- NaN is not less than anything.
    if downside_deviation.lt (.num EPSILON) then none
    else
      some (((Python.Float.mean excess).div downside_deviation).mul
        (.num (rt.sqrt periods_per_year)))

def calmar (cagr : Option ℚ) (drawdown : Python.Float) : Option Python.Float :=
  match cagr with
  | some cagr =>
    if (Python.Float.num EPSILON).lt drawdown.abs then
      some ((Python.Float.num cagr).div drawdown.abs)
    else none
  | none => none

def win_rate (trades : List Trade) : Option ℚ :=
  if trades.isEmpty then none
  else some (((trades.filter Trade.is_win).length : ℚ) / trades.length)

/-- `t.pnl for t in trades if t.pnl > 0`. -/
def wins (trades : List Trade) : List ℚ := (trades.map Trade.pnl).filter (0 < ·)

/-- `t.pnl for t in trades if t.pnl < 0`. -/
def losses (trades : List Trade) : List ℚ := (trades.map Trade.pnl).filter (· < 0)

/-- Gross profit divided by gross loss. -/
def profit_factor (trades : List Trade) : Option ℚ :=
  if trades.isEmpty then none
  else
    let gross_profit := (wins trades).sum
    let gross_loss := -(losses trades).sum
    if gross_loss < EPSILON then none else some (gross_profit / gross_loss)

/-- `float(np.mean(values)) if values else None`. -/
def average (values : List ℚ) : Option ℚ :=
  if values.isEmpty then none else some (values.sum / values.length)

/-- Traded notional relative to average equity, per year. -/
def turnover (equity : List ℚ) (periods_per_year initial_cash traded_notional : ℚ) : Option ℚ :=
  if initial_cash > 0 ∧ equity.length > 1 then
    let years := ((equity.length : ℚ) - 1) / periods_per_year
    let average_equity := equity.sum / equity.length
    if years > EPSILON ∧ average_equity > EPSILON then
      some (traded_notional / average_equity / years)
    else none
  else none

/-- `exposure.abs().mean()`, zero without a curve. -/
def mean_exposure : Option (List ℚ) → ℚ
  | none => 0
  | some exposure =>
    if exposure.isEmpty then 0 else (exposure.map (|·|)).sum / exposure.length

end Metrics

end metrics

/-! ## The metric set -/

structure Metrics where
  total_return : ℚ
  cagr : Option ℚ
  annualized_volatility : Option Python.Float
  sharpe : Option Python.Float
  sortino : Option Python.Float
  max_drawdown : Python.Float
  max_drawdown_duration_bars : ℕ
  calmar : Option Python.Float
  win_rate : Option ℚ
  profit_factor : Option ℚ
  trade_count : ℕ
  winning_trades : ℕ
  losing_trades : ℕ
  average_win : Option ℚ
  average_loss : Option ℚ
  turnover : Option ℚ
  exposure : ℚ
  total_costs : ℚ
  /-- Total costs as a fraction of starting capital. -/
  cost_drag : ℚ
  final_equity : ℚ
  /-- Explains any metric that came back `none`. -/
  unavailable : List (String × String)
  deriving DecidableEq

namespace metrics

/-- `record`: the entry of a metric in `unavailable`. -/
def record {α : Type} (name : String) (value : Option α) (reason : String) :
    List (String × String) :=
  if value.isNone then [(name, reason)] else []

def too_few : String :=
  "Fewer than two return observations — the period is too short to measure."

def flat : String :=
  "The return series has no variance, so the ratio is undefined (not zero)."

def no_trades : String := "The strategy produced no completed trades in this period."

/-- Compute the full metric set, recording why anything is unavailable. The
    number of periods in a year is positive, as every entry of its table is. -/
def compute (rt : Runtime) (equity : List ℚ) (trades : List Trade)
    (periods_per_year : {p : ℚ // 0 < p}) (risk_free_rate initial_cash total_costs
    traded_notional : ℚ) (exposure : Option (List ℚ)) : Metrics :=
  let periods := periods_per_year.1
  let returns := returns_from_equity equity
  let final_equity := equity.getLast?.getD initial_cash
  let cagr := cagr rt equity periods
  let volatility := annualized_volatility rt returns periods
  let sharpe := sharpe rt returns periods risk_free_rate
  let sortino := sortino rt returns periods risk_free_rate
  let drawdown := max_drawdown equity
  let calmar := calmar cagr drawdown
  let win_rate := win_rate trades
  let profit_factor := profit_factor trades
  let average_win := average (wins trades)
  let average_loss := average (losses trades)
  let turnover := turnover equity periods initial_cash traded_notional
  { total_return := if initial_cash = 0 then 0 else final_equity / initial_cash - 1
    cagr := cagr
    annualized_volatility := volatility
    sharpe := sharpe
    sortino := sortino
    max_drawdown := drawdown
    max_drawdown_duration_bars := max_drawdown_duration equity
    calmar := calmar
    win_rate := win_rate
    profit_factor := profit_factor
    trade_count := trades.length
    winning_trades := (wins trades).length
    losing_trades := (losses trades).length
    average_win := average_win
    average_loss := average_loss
    turnover := turnover
    exposure := mean_exposure exposure
    total_costs := total_costs
    cost_drag := if initial_cash = 0 then 0 else total_costs / initial_cash
    final_equity := final_equity
    unavailable :=
      record "cagr" cagr
          "Too few bars, or equity reached zero — an annualised rate would be meaningless."
        ++ record "annualized_volatility" volatility too_few
        ++ record "sharpe" sharpe (if 2 ≤ returns.length then flat else too_few)
        ++ record "sortino" sortino
          (if 2 ≤ returns.length then
            "No downside deviation in the period, so the ratio is undefined."
          else too_few)
        ++ record "calmar" calmar "Requires a CAGR and a non-zero maximum drawdown."
        ++ record "win_rate" win_rate no_trades
        ++ record "profit_factor" profit_factor
          (if trades.isEmpty then no_trades
          else "There were no losing trades, so the ratio is unbounded.")
        ++ record "average_win" average_win "No winning trades."
        ++ record "average_loss" average_loss "No losing trades."
        ++ record "turnover" turnover
          "Requires more than one bar and non-zero average equity." }

/-! ## Powers out of range -/

/-- `cagr` comes to its power, and the power overflows. -/
def AnnualOverflows (equity : List ℚ) (periods_per_year : ℚ) : Prop :=
  let start := equity.head?.getD 0
  let end_ := equity.getLast?.getD 0
  let years := ((equity.length : ℚ) - 1) / periods_per_year
  (2 ≤ equity.length ∧ 0 < periods_per_year ∧ 0 < start ∧ 0 < end_ ∧ EPSILON ≤ years) ∧
    Python.PowerOverflows (end_ / start) (1 / years)

instance (equity : List ℚ) (periods_per_year : ℚ) :
    Decidable (AnnualOverflows equity periods_per_year) :=
  inferInstanceAs (Decidable ((_ ∧ _ ∧ _ ∧ _ ∧ _) ∧ _))

/-- The ratios come to the power of their risk-free rate, and it overflows. -/
def RateOverflows (returns : List Python.Float) (periods_per_year risk_free_rate : ℚ) : Prop :=
  2 ≤ returns.length ∧ Python.PowerOverflows (1 + risk_free_rate) (1 / periods_per_year)

instance (returns : List Python.Float) (periods_per_year risk_free_rate : ℚ) :
    Decidable (RateOverflows returns periods_per_year risk_free_rate) :=
  inferInstanceAs (Decidable (_ ∧ _))

namespace raising

variable (rt : Runtime)

def cagr (equity : List ℚ) (periods_per_year : ℚ) : Except Python.PyError (Option ℚ) :=
  if equity.length < 2 ∨ periods_per_year ≤ 0 then .ok none
  else
    let start := equity.head?.getD 0
    let end_ := equity.getLast?.getD 0
    if start ≤ 0 ∨ end_ ≤ 0 then .ok none
    else
      let years := ((equity.length : ℚ) - 1) / periods_per_year
      if years < EPSILON then .ok none
      else do
        let growth ← Python.power rt (end_ / start) (1 / years)
        .ok (some (growth - 1))

/-- Nothing but the rate of one period raises in `sharpe`. -/
def sharpe (returns : List Python.Float) (periods_per_year risk_free_rate : ℚ) :
    Except Python.PyError (Option Python.Float) :=
  if returns.length < 2 then .ok none
  else do
    let _ ← Python.power rt (1 + risk_free_rate) (1 / periods_per_year)
    .ok (metrics.sharpe rt returns periods_per_year risk_free_rate)

/-- Nor in `sortino`. -/
def sortino (returns : List Python.Float) (periods_per_year risk_free_rate : ℚ) :
    Except Python.PyError (Option Python.Float) :=
  if returns.length < 2 then .ok none
  else do
    let _ ← Python.power rt (1 + risk_free_rate) (1 / periods_per_year)
    .ok (metrics.sortino rt returns periods_per_year risk_free_rate)

/-- `compute` calls the three in this order. -/
def compute (equity : List ℚ) (trades : List Trade) (periods_per_year : {p : ℚ // 0 < p})
    (risk_free_rate initial_cash total_costs traded_notional : ℚ) (exposure : Option (List ℚ)) :
    Except Python.PyError Metrics := do
  let _ ← cagr rt equity periods_per_year.1
  let _ ← sharpe rt (returns_from_equity equity) periods_per_year.1 risk_free_rate
  let _ ← sortino rt (returns_from_equity equity) periods_per_year.1 risk_free_rate
  .ok (metrics.compute rt equity trades periods_per_year risk_free_rate initial_cash total_costs
    traded_notional exposure)

/-- **The annual rate**, or the exception. -/
theorem cagr_eq (equity : List ℚ) (periods_per_year : ℚ) :
    cagr rt equity periods_per_year =
      if AnnualOverflows equity periods_per_year then .error Python.out_of_range
      else .ok (metrics.cagr rt equity periods_per_year) := by
  unfold cagr metrics.cagr
  by_cases hshort : equity.length < 2 ∨ periods_per_year ≤ 0
  · have hnot : ¬ AnnualOverflows equity periods_per_year := by
      intro h
      obtain ⟨⟨hlength, hperiods, -⟩, -⟩ := h
      exact hshort.elim (not_lt.mpr hlength) (not_le.mpr hperiods)
    rw [if_pos hshort, if_pos hshort, if_neg hnot]
  rw [if_neg hshort, if_neg hshort]
  dsimp only
  by_cases hzero : equity.head?.getD 0 ≤ 0 ∨ equity.getLast?.getD 0 ≤ 0
  · have hnot : ¬ AnnualOverflows equity periods_per_year := by
      intro h
      obtain ⟨⟨-, -, hstart, hend, -⟩, -⟩ := h
      exact hzero.elim (not_le.mpr hstart) (not_le.mpr hend)
    rw [if_pos hzero, if_pos hzero, if_neg hnot]
  rw [if_neg hzero, if_neg hzero]
  by_cases hyears : ((equity.length : ℚ) - 1) / periods_per_year < EPSILON
  · have hnot : ¬ AnnualOverflows equity periods_per_year := by
      intro h
      obtain ⟨⟨-, -, -, -, hlong⟩, -⟩ := h
      exact not_lt.mpr hlong hyears
    rw [if_pos hyears, if_pos hyears, if_neg hnot]
  rw [if_neg hyears, if_neg hyears]
  -- The power is reached.
  push Not at hshort hzero hyears
  have hreached : AnnualOverflows equity periods_per_year ↔
      Python.PowerOverflows (equity.getLast?.getD 0 / equity.head?.getD 0)
        (1 / (((equity.length : ℚ) - 1) / periods_per_year)) :=
    and_iff_right ⟨hshort.1, hshort.2, hzero.1, hzero.2, hyears⟩
  by_cases hover : AnnualOverflows equity periods_per_year
  · rw [if_pos hover, Python.power, if_pos (hreached.mp hover)]
    rfl
  · rw [if_neg hover, Python.power, if_neg (mt hreached.mpr hover)]
    rfl

theorem sharpe_eq (returns : List Python.Float) (periods_per_year risk_free_rate : ℚ) :
    sharpe rt returns periods_per_year risk_free_rate =
      if RateOverflows returns periods_per_year risk_free_rate then .error Python.out_of_range
      else .ok (metrics.sharpe rt returns periods_per_year risk_free_rate) := by
  by_cases hshort : returns.length < 2
  · have hnot : ¬ RateOverflows returns periods_per_year risk_free_rate := fun h =>
      absurd h.1 (not_le.mpr hshort)
    rw [sharpe, if_pos hshort, if_neg hnot, metrics.sharpe, if_pos hshort]
  have hreached : RateOverflows returns periods_per_year risk_free_rate ↔
      Python.PowerOverflows (1 + risk_free_rate) (1 / periods_per_year) :=
    and_iff_right (not_lt.mp hshort)
  by_cases hover : RateOverflows returns periods_per_year risk_free_rate
  · rw [sharpe, if_neg hshort, if_pos hover, Python.power, if_pos (hreached.mp hover)]
    rfl
  · rw [sharpe, if_neg hshort, if_neg hover, Python.power, if_neg (mt hreached.mpr hover)]
    rfl

theorem sortino_eq (returns : List Python.Float) (periods_per_year risk_free_rate : ℚ) :
    sortino rt returns periods_per_year risk_free_rate =
      if RateOverflows returns periods_per_year risk_free_rate then .error Python.out_of_range
      else .ok (metrics.sortino rt returns periods_per_year risk_free_rate) := by
  by_cases hshort : returns.length < 2
  · have hnot : ¬ RateOverflows returns periods_per_year risk_free_rate := fun h =>
      absurd h.1 (not_le.mpr hshort)
    rw [sortino, if_pos hshort, if_neg hnot, metrics.sortino, if_pos hshort]
  have hreached : RateOverflows returns periods_per_year risk_free_rate ↔
      Python.PowerOverflows (1 + risk_free_rate) (1 / periods_per_year) :=
    and_iff_right (not_lt.mp hshort)
  by_cases hover : RateOverflows returns periods_per_year risk_free_rate
  · rw [sortino, if_neg hshort, if_pos hover, Python.power, if_pos (hreached.mp hover)]
    rfl
  · rw [sortino, if_neg hshort, if_neg hover, Python.power, if_neg (mt hreached.mpr hover)]
    rfl

/-- **The metric set**, or the exception of one of its powers. -/
theorem compute_eq (equity : List ℚ) (trades : List Trade) (periods_per_year : {p : ℚ // 0 < p})
    (risk_free_rate initial_cash total_costs traded_notional : ℚ) (exposure : Option (List ℚ)) :
    compute rt equity trades periods_per_year risk_free_rate initial_cash total_costs
        traded_notional exposure =
      if AnnualOverflows equity periods_per_year.1 ∨
          RateOverflows (returns_from_equity equity) periods_per_year.1 risk_free_rate then
        .error Python.out_of_range
      else
        .ok (metrics.compute rt equity trades periods_per_year risk_free_rate initial_cash
          total_costs traded_notional exposure) := by
  unfold compute
  rw [cagr_eq, sharpe_eq, sortino_eq]
  by_cases hannual : AnnualOverflows equity periods_per_year.1
  · have heither : AnnualOverflows equity periods_per_year.1 ∨
        RateOverflows (returns_from_equity equity) periods_per_year.1 risk_free_rate :=
      .inl hannual
    rw [if_pos hannual, if_pos heither]
    rfl
  rw [if_neg hannual]
  simp only [or_iff_right hannual]
  by_cases hrate :
      RateOverflows (returns_from_equity equity) periods_per_year.1 risk_free_rate
  · rw [if_pos hrate, if_pos hrate, if_pos hrate]
    rfl
  · rw [if_neg hrate, if_neg hrate, if_neg hrate]
    rfl

theorem compute_eq_ok {equity : List ℚ} {trades : List Trade}
    {periods_per_year : {p : ℚ // 0 < p}} {risk_free_rate initial_cash total_costs
    traded_notional : ℚ} {exposure : Option (List ℚ)} {m : Metrics} :
    compute rt equity trades periods_per_year risk_free_rate initial_cash total_costs
        traded_notional exposure = .ok m ↔
      (¬ AnnualOverflows equity periods_per_year.1 ∧
        ¬ RateOverflows (returns_from_equity equity) periods_per_year.1 risk_free_rate) ∧
      metrics.compute rt equity trades periods_per_year risk_free_rate initial_cash total_costs
        traded_notional exposure = m := by
  rw [compute_eq, ← not_or]
  split_ifs with hover
  · exact iff_of_false (by simp) fun h => h.1 hover
  · rw [Except.ok.injEq, and_iff_right hover]

end raising

end metrics

/-! ## The wire form -/

/-- `None` is null. -/
def Json.number (value : Option ℚ) : Json := value.elim .null (fun x => .float (.num x))

def Json.any_float (value : Option Python.Float) : Json := value.elim .null .float

/-- `Metrics.as_dict`. -/
def Metrics.as_dict (m : Metrics) : List (String × Json) :=
  [("total_return", .float (.num m.total_return)),
    ("cagr", .number m.cagr),
    ("annualized_volatility", .any_float m.annualized_volatility),
    ("sharpe", .any_float m.sharpe),
    ("sortino", .any_float m.sortino),
    ("max_drawdown", .float m.max_drawdown),
    ("max_drawdown_duration_bars", .int m.max_drawdown_duration_bars),
    ("calmar", .any_float m.calmar),
    ("win_rate", .number m.win_rate),
    ("profit_factor", .number m.profit_factor),
    ("trade_count", .int m.trade_count),
    ("winning_trades", .int m.winning_trades),
    ("losing_trades", .int m.losing_trades),
    ("average_win", .number m.average_win),
    ("average_loss", .number m.average_loss),
    ("turnover", .number m.turnover),
    ("exposure", .float (.num m.exposure)),
    ("total_costs", .float (.num m.total_costs)),
    ("cost_drag", .float (.num m.cost_drag)),
    ("final_equity", .float (.num m.final_equity)),
    ("unavailable", .obj (m.unavailable.map fun reason => (reason.1, .str reason.2)))]

end Quantora
