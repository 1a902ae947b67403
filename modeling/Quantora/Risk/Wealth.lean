import Quantora.Framework.Compounding
import Quantora.Backtest.Divisions
import Quantora.Backtest.Drawdown
import Quantora.Risk.Comparison

/-! # The wealth index

    A report compounds weighted returns from 1. The weights are shares of one
    whole and no close is zero, so the index never reaches zero.

    * `MarketWindow.Sound` — positive closes, and the returns are their changes.
      Loaded windows are sound.
    * `neg_one_lt_portfolio_return`, `equity_pos` — one session, and all of them.
    * `Checked.total_return`, `Checked.cagr`, `Checked.max_drawdown` — the metrics
      of the index, with a division that raises.
    * `wealth_of_analyze` — what `Wealth` says of a report.
    * `wealth_stays_positive` — returns, index and metrics; and the index of a
      single holding is its close over its first close. -/

namespace Quantora

open Python (PyError)

/-! ## Metrics, with their divisions checked -/

namespace Checked

/-- `equity.iloc[-1] / equity.iloc[0] - 1.0`. -/
def total_return (levels : List ℚ) : Except PyError ℚ := do
  let ratio ← divide (levels.getLast?.getD 1) (levels.head?.getD 1)
  .ok (ratio - 1)

/-- `cagr` divides by the periods of a year, by the first level and by the years. -/
def cagr (rt : Runtime) (equity : List ℚ) (periods_per_year : ℚ) : Except PyError (Option ℚ) :=
  if equity.length < 2 ∨ periods_per_year ≤ 0 then .ok none
  else
    let start := equity.head?.getD 0
    let end_ := equity.getLast?.getD 0
    if start ≤ 0 ∨ end_ ≤ 0 then .ok none
    else do
      let years ← divide ((equity.length : ℚ) - 1) periods_per_year
      if years < metrics.EPSILON then .ok none
      else do
        let growth ← divide end_ start
        let exponent ← divide 1 years
        .ok (some (rt.pow growth exponent - 1))

/-- `drawdown_curve` divides by the peak of every bar. -/
def drawdown_curve (equity : List ℚ) : Except PyError (List ℚ) :=
  (equity.zip (metrics.cummax equity)).mapM fun bar => do
    let ratio ← divide bar.1 bar.2
    .ok (ratio - 1)

def max_drawdown (equity : List ℚ) : Except PyError Python.Float :=
  if equity.isEmpty then .ok (.num 0)
  else do
    let curve ← drawdown_curve equity
    .ok (Python.Float.minimum (curve.map .num))

theorem total_return_eq_ok {levels : List ℚ} (h : levels.head?.getD 1 ≠ 0) :
    total_return levels = .ok (levels.getLast?.getD 1 / levels.head?.getD 1 - 1) := by
  simp only [total_return, divide_eq_ok h, bind, Except.bind]

/-- The annual rate guards its own denominators. -/
theorem cagr_eq_ok (rt : Runtime) (equity : List ℚ) (periods_per_year : ℚ) :
    cagr rt equity periods_per_year = .ok (metrics.cagr rt equity periods_per_year) := by
  simp only [cagr, metrics.cagr]
  split_ifs with hshort hzero hyears
  · rfl
  · rfl
  · rw [not_or, not_le] at hshort
    simp only [divide_eq_ok hshort.2.ne', bind, Except.bind, if_pos hyears]
  · rw [not_or, not_le] at hshort
    rw [not_or, not_le] at hzero
    have hpos : (0 : ℚ) < ((equity.length : ℚ) - 1) / periods_per_year :=
      lt_of_lt_of_le (by norm_num [metrics.EPSILON]) (not_lt.mp hyears)
    simp only [divide_eq_ok hshort.2.ne', divide_eq_ok hzero.1.ne', divide_eq_ok hpos.ne', bind,
      Except.bind, if_neg hyears]

/-- Over a positive curve every peak is positive. -/
theorem drawdown_curve_eq_ok {equity : List ℚ} (hpos : ∀ e ∈ equity, 0 < e) :
    drawdown_curve equity = .ok (metrics.depths equity) := by
  unfold drawdown_curve metrics.depths
  rw [← List.map_uncurry_zip_eq_zipWith, Outcome.mapM_eq_ok, List.forall₂_map_right_iff,
    List.forall₂_same]
  rintro ⟨value, peak⟩ hbar
  obtain ⟨j, hj⟩ := List.mem_iff_getElem?.mp (List.of_mem_zip hbar).2
  have hpeak : peak ≠ 0 := (metrics.cummax_pos hpos hj).ne'
  simp only [divide_eq_ok hpeak, bind, Except.bind]
  rfl

theorem max_drawdown_eq_ok {equity : List ℚ} (hpos : ∀ e ∈ equity, 0 < e) :
    max_drawdown equity = .ok (metrics.max_drawdown equity) := by
  unfold max_drawdown metrics.max_drawdown
  split_ifs with hempty
  · rfl
  · rw [drawdown_curve_eq_ok hpos, metrics.drawdown_curve_eq hpos]
    rfl

end Checked

namespace risk

/-- Every symbol has a positive close on every session, and the returns are the
    changes from one session to the next. -/
structure MarketWindow.Sound (window : MarketWindow) : Prop where
  distinct : window.symbols.Nodup
  positive : ∀ row ∈ window.closes.rows, ∀ s ∈ window.symbols, 0 < row.2 s
  /-- There is a return. -/
  sessions : 1 < window.closes.rows.length
  returns : window.returns = window.closes.pct_change

/-- What `load_window` returns is sound. -/
theorem sound_of_load_window {loader : PriceLoader} {symbols : List String}
    {start end_ interval benchmark : String} {window : MarketWindow} (hsymbols : symbols.Nodup)
    (h : load_window loader symbols start end_ interval benchmark = .ok window) :
    window.Sound := by
  obtain ⟨frames, hframes, hbuilt⟩ := load_window_eq_ok.mp h
  obtain ⟨hcloses, hreturns, hlength, -⟩ := build_window_eq_ok hbuilt
  obtain ⟨-, hnames⟩ := columns_of_window hbuilt
  refine ⟨?_, ?_, ?_, hreturns⟩
  · rw [hnames]
    exact nodup_kept hsymbols
  · rintro ⟨t, row⟩ hrow s hs
    rw [hcloses] at hrow
    rw [hnames] at hs
    obtain ⟨⟨_, frame⟩, hkept, rfl⟩ := List.mem_map.mp hs
    -- A close of the row is the close of a bar that was fetched.
    have hclose := close_at_eq_some.mp (row_of_inner_join hsymbols hrow hkept)
    obtain ⟨bar, hbar, heq⟩ := List.mem_map.mp hclose
    show 0 < row _
    rw [← (Prod.mk.inj heq).2]
    exact positive_of_load_frames hframes _ (Calendar.mem_of_lookup (lookup_of_mem_kept hkept))
      bar hbar
  · exact lt_trans (by decide) hlength

/-! ## Returns -/

section Window

variable {rt : Runtime} {p : Portfolio} {window : MarketWindow} {allocation : Allocation}
  {returns equity : Series}

namespace MarketWindow.Sound

theorem returns_ne_nil (h : window.Sound) : window.returns.rows ≠ [] := by
  rw [h.returns]
  exact DataFrame.rows_pct_change_ne_nil h.sessions

/-- Returns have the columns of the closes. -/
theorem columns (h : window.Sound) : window.returns.columns = window.symbols := by
  rw [h.returns]
  rfl

/-- No symbol loses all of its value in a session. -/
theorem neg_one_lt_return (h : window.Sound) {row : Timestamp × (String → ℚ)}
    (hrow : row ∈ window.returns.rows) {s : String} (hs : s ∈ window.symbols) : -1 < row.2 s := by
  rw [h.returns] at hrow
  change row ∈ Calendar.steps (fun before now s => change (before s) (now s))
    window.closes.rows at hrow
  obtain ⟨before, hbefore, now, hnow, rfl⟩ := Calendar.exists_of_mem_steps hrow
  exact Compounding.neg_one_lt_change (h.positive before hbefore s hs) (h.positive now hnow s hs)

end MarketWindow.Sound

/-- Nor does a portfolio: its return is a mean of theirs. -/
theorem neg_one_lt_portfolio_return (hwindow : window.Sound)
    (hvalued : p.Valued window.prices_as_of)
    (hreturns : portfolio_return_series
      (window.returns.select (fun s => ((p.weights window.prices_as_of).get? s).isSome))
      (p.weights window.prices_as_of) = .ok returns) : ∀ row ∈ returns, -1 < row.2 := by
  rw [portfolio_return_series_eq_ok hreturns]
  intro row hrow
  obtain ⟨source, hsource, rfl⟩ := List.mem_map.mp hrow
  refine Shares.lt_sum_mul (sum_selected_weights hwindow.distinct hwindow.columns hvalued) ?_ ?_
  · intro s hs
    obtain ⟨item, hitem, rfl⟩ := List.mem_map.mp
      (isSome_get?_iff.mp (List.mem_filter.mp hs).2)
    rw [weight_of_mem hitem]
    exact (Portfolio.weights_pos hvalued item hitem).le
  · intro s hs
    apply hwindow.neg_one_lt_return hsource
    rw [← hwindow.columns]
    exact (List.mem_filter.mp hs).1

/-! ## The index -/

/-- The levels of an index compound its returns. -/
theorem levels_eq_compounded (h : equity_index returns = .ok equity) :
    equity.map Prod.snd
      = 1 :: Column.levels Compounding.grow 1 (returns.map Prod.snd) := by
  have hscan : ∀ (level : ℚ) (rows : Series),
      (Column.scan (fun level row => (level * (1 + row.2), (row.1, level * (1 + row.2))))
          level rows).map Prod.snd
        = Column.levels Compounding.grow level (rows.map Prod.snd) := by
    intro level rows
    induction rows generalizing level with
    | nil => rfl
    | cons row rows ih => exact congrArg _ (ih (level * (1 + row.2)))
  cases returns with
  | nil => cases h
  | cons first rest =>
    obtain rfl := Except.ok.inj h
    exact congrArg _ (hscan 1 (first :: rest))

theorem equity_pos (hequity : equity_index returns = .ok equity)
    (hreturns : ∀ row ∈ returns, -1 < row.2) : ∀ level ∈ equity.map Prod.snd, 0 < level := by
  rw [levels_eq_compounded hequity]
  refine List.forall_mem_cons.mpr ⟨one_pos, Compounding.levels_pos one_pos ?_⟩
  intro r hr
  obtain ⟨row, hrow, rfl⟩ := List.mem_map.mp hr
  exact hreturns row hrow

/-- The index has a level for every session; the first is placed before the first
    return. -/
theorem index_equity_index (h : equity_index returns = .ok equity) :
    (Calendar.index equity).tail = Calendar.index returns := by
  have hscan : ∀ (level : ℚ) (rows : Series),
      Calendar.index (Column.scan
          (fun level row => (level * (1 + row.2), (row.1, level * (1 + row.2)))) level rows)
        = Calendar.index rows := by
    intro level rows
    induction rows generalizing level with
    | nil => rfl
    | cons row rows ih => exact congrArg (row.1 :: ·) (ih (level * (1 + row.2)))
  cases returns with
  | nil => cases h
  | cons first rest =>
    obtain rfl := Except.ok.inj h
    exact hscan 1 (first :: rest)

/-! ## A single holding -/

/-- A column of returns is the changes of the column of closes. -/
theorem DataFrame.column_pct_change (frame : DataFrame) (s : String) :
    frame.pct_change.column s = Compounding.changes (frame.column s) := by
  unfold DataFrame.column Compounding.changes
  show (Calendar.steps (fun before now s => change (before s) (now s)) frame.rows).map _ = _
  unfold Calendar.steps
  rw [List.map_zipWith, ← List.map_tail, List.zipWith_map]
  rfl

/-- All of the weight is on the holding, so its returns are the portfolio's. -/
theorem returns_of_one_holding (hwindow : window.Sound) {holding : Holding}
    (hp : p.holdings = [holding]) (hvalued : p.Valued window.prices_as_of)
    (hreturns : portfolio_return_series
      (window.returns.select (fun s => ((p.weights window.prices_as_of).get? s).isSome))
      (p.weights window.prices_as_of) = .ok returns) :
    returns.map Prod.snd = Compounding.changes (window.closes.column holding.symbol) := by
  have honly : ∀ s ∈ (window.returns.select
      (fun s => ((p.weights window.prices_as_of).get? s).isSome)).columns,
      s = holding.symbol := by
    intro s hs
    have hmem := isSome_get?_iff.mp (List.mem_filter.mp hs).2
    unfold Portfolio.weights at hmem
    simpa [hp] using hmem
  rw [← DataFrame.column_pct_change, ← hwindow.returns, portfolio_return_series_eq_ok hreturns,
    List.map_map]
  apply List.map_congr_left
  intro row _
  exact sum_of_equal (fun s hs => by rw [honly s hs])
    (sum_selected_weights hwindow.distinct hwindow.columns hvalued)

/-- A single holding compounds to its own closes. -/
theorem levels_of_one_holding (hwindow : window.Sound) {holding : Holding}
    (hp : p.holdings = [holding]) (hvalued : p.Valued window.prices_as_of)
    (hreturns : portfolio_return_series
      (window.returns.select (fun s => ((p.weights window.prices_as_of).get? s).isSome))
      (p.weights window.prices_as_of) = .ok returns)
    (hequity : equity_index returns = .ok equity) {first : ℚ}
    (hfirst : (window.closes.column holding.symbol).head? = some first) :
    equity.map Prod.snd
      = (window.closes.column holding.symbol).map (fun close => close / first) := by
  have hheld : holding.symbol ∈ window.symbols :=
    symbols_of_valued hvalued _ (by rw [Portfolio.symbols, hp]; exact List.mem_cons_self)
  have hne : ∀ close ∈ window.closes.column holding.symbol, close ≠ 0 := by
    intro close hclose
    obtain ⟨row, hrow, rfl⟩ := List.mem_map.mp hclose
    exact (hwindow.positive row hrow _ hheld).ne'
  rw [levels_eq_compounded hequity, returns_of_one_holding hwindow hp hvalued hreturns]
  cases hcolumn : window.closes.column holding.symbol with
  | nil =>
    rw [hcolumn] at hfirst
    cases hfirst
  | cons close rest =>
    rw [hcolumn] at hfirst hne
    obtain rfl := Option.some.inj hfirst
    exact Compounding.one_levels_changes hne

end Window

/-! ## Positive wealth -/

/-- A positive curve of two bars or more has an annual rate. -/
theorem exists_cagr (rt : Runtime) (interval : String) {levels : List ℚ} (hlen : 1 < levels.length)
    (hpos : ∀ level ∈ levels, 0 < level) :
    ∃ rate, metrics.cagr rt levels (BacktestConfig.periods_per_year interval) = some rate := by
  have hperiods := BacktestConfig.periods_per_year_pos interval
  have hmost := BacktestConfig.periods_per_year_le interval
  obtain ⟨first, hfirst⟩ : ∃ first, levels.head? = some first :=
    Option.isSome_iff_exists.mp (List.isSome_head?.mpr (List.ne_nil_of_length_pos (by omega)))
  obtain ⟨last, hlast⟩ : ∃ last, levels.getLast? = some last :=
    Option.isSome_iff_exists.mp (List.getLast?_isSome.mpr (List.ne_nil_of_length_pos (by omega)))
  have hstart : 0 < first := hpos first (List.mem_of_mem_head? hfirst)
  have hend : 0 < last := hpos last (List.mem_of_getLast? hlast)
  -- One bar of the shortest kind is longer than the tolerance.
  have hyears : metrics.EPSILON ≤ ((levels.length : ℚ) - 1)
      / BacktestConfig.periods_per_year interval := by
    have htwo : (2 : ℚ) ≤ levels.length := by exact_mod_cast hlen
    rw [le_div_iff₀ hperiods]
    unfold metrics.EPSILON
    linarith
  have hshort : ¬ (levels.length < 2 ∨ BacktestConfig.periods_per_year interval ≤ 0) :=
    not_or.mpr ⟨by omega, not_le.mpr hperiods⟩
  simp only [metrics.cagr, if_neg hshort, hfirst, hlast, Option.getD_some,
    if_neg (not_or.mpr ⟨not_le.mpr hstart, not_le.mpr hend⟩), if_neg (not_lt.mpr hyears)]
  exact ⟨_, rfl⟩

/-- What a report says of a portfolio that never loses everything. -/
structure Wealth (rt : Runtime) (p : Portfolio) (window : MarketWindow) (report : Report) :
    Prop where
  returns : ∀ row ∈ report.return_series, -1 < row.2
  index : ∀ row ∈ report.equity_index, 0 < row.2
  /-- No metric divides by zero. -/
  total_return : Checked.total_return (report.equity_index.map Prod.snd)
    = .ok report.metrics.total_return
  annualized_return : Checked.cagr rt (report.equity_index.map Prod.snd) window.periods_per_year
    = .ok report.metrics.annualized_return
  max_drawdown : Checked.max_drawdown (report.equity_index.map Prod.snd)
    = .ok report.metrics.max_drawdown
  /-- There is an annual rate. -/
  annual : ∃ rate, report.metrics.annualized_return = some rate
  drawdown : ∃ m, report.metrics.max_drawdown = .num m ∧ -1 < m ∧ m ≤ 0
  /-- A level for every session, 1 before the first return. -/
  sessions : (Calendar.index report.equity_index).tail
    = (Calendar.index window.closes.rows).tail
  one_holding : ∀ holding first, p.holdings = [holding] →
    (window.closes.column holding.symbol).head? = some first →
    report.equity_index.map Prod.snd
      = (window.closes.column holding.symbol).map (fun close => close / first)

/-- Two closes make two levels. -/
theorem MarketWindow.Sound.one_lt_levels {window : MarketWindow} (hwindow : window.Sound)
    {equity : Series}
    (h : (Calendar.index equity).tail = (Calendar.index window.closes.rows).tail) :
    1 < (equity.map Prod.snd).length := by
  have hcount := congrArg List.length h
  unfold Calendar.index at hcount
  rw [List.length_tail, List.length_tail, List.length_map, List.length_map] at hcount
  have hsessions := hwindow.sessions
  rw [List.length_map]
  omega

theorem wealth_of_analyze {rt : Runtime} {p : Portfolio} {window : MarketWindow}
    {risk_free_rate : ℚ} {report : Report} (hwindow : window.Sound)
    (h : analyze rt p window risk_free_rate = .ok report) : Wealth rt p window report := by
  obtain ⟨returns, equity, hvalue, hreturns, hequity, hmetrics, rfl, rfl⟩ := analyze_eq_ok h
  obtain ⟨hvalued, -, hweights, -⟩ := Portfolio.value_eq_ok hvalue
  rw [hweights] at hreturns
  -- Every return is above -1, so every level is positive.
  have habove := neg_one_lt_portfolio_return hwindow hvalued hreturns
  have hpos := equity_pos hequity habove
  obtain ⟨levels, hlevels⟩ := levels_of_equity_index hequity
  have hne : report.equity_index.map Prod.snd ≠ [] := by
    rw [hlevels]
    exact List.cons_ne_nil _ _
  have hsessions := index_equity_index hequity
  rw [index_portfolio_return_series hreturns, DataFrame.index_select, hwindow.returns,
    DataFrame.index_pct_change] at hsessions
  -- What the report holds are the metrics of the levels.
  have htotal : report.metrics.total_return
      = (report.equity_index.map Prod.snd).getLast?.getD 1
        / (report.equity_index.map Prod.snd).head?.getD 1 - 1 := by rw [hmetrics]; rfl
  have hmax : report.metrics.max_drawdown
      = metrics.max_drawdown (report.equity_index.map Prod.snd) := by rw [hmetrics]; rfl
  have hcagr : report.metrics.annualized_return
      = metrics.cagr rt (report.equity_index.map Prod.snd) window.periods_per_year := by
    rw [hmetrics]
    rfl
  obtain ⟨m, hm, hleast⟩ := metrics.exists_max_drawdown hne hpos
  exact
    { returns := habove
      index := fun row hrow => hpos row.2 (List.mem_map_of_mem hrow)
      total_return := by
        rw [htotal, Checked.total_return_eq_ok (by rw [hlevels]; exact one_ne_zero)]
      annualized_return := by rw [hcagr, Checked.cagr_eq_ok]
      max_drawdown := by rw [hmax, Checked.max_drawdown_eq_ok hpos]
      annual := by
        rw [hcagr]
        exact exists_cagr rt window.interval (hwindow.one_lt_levels hsessions) hpos
      drawdown := ⟨m, by rw [hmax, hm], metrics.neg_one_lt_decline hpos hleast.1,
        hleast.2 (metrics.zero_mem_declines hne hpos)⟩
      sessions := hsessions
      one_holding := fun holding first hp hfirst =>
        levels_of_one_holding hwindow hp hvalued hreturns hequity hfirst }

/-- A report keeps what was analysed. -/
theorem analyze_keeps {rt : Runtime} {p : Portfolio} {window : MarketWindow} {risk_free_rate : ℚ}
    {report : Report} (h : analyze rt p window risk_free_rate = .ok report) :
    report.portfolio = p ∧ report.window = window := by
  obtain ⟨allocation, -, h⟩ := Outcome.bind_eq_ok.mp h
  obtain ⟨returns, -, h⟩ := Outcome.bind_eq_ok.mp h
  obtain ⟨equity, -, h⟩ := Outcome.bind_eq_ok.mp h
  obtain rfl := Except.ok.inj h
  exact ⟨rfl, rfl⟩

section Request

variable {rt : Runtime} {loader : PriceLoader} {portfolio : Portfolio}
  {start end_ interval : String} {benchmark : Option String} {risk_free_rate : ℚ} {report : Report}

/-- What the report of a request was made from, whichever holdings survived the
    alignment. -/
theorem sources_of_analyze_portfolio_risk
    (h : analyze_portfolio_risk rt loader portfolio start end_ interval benchmark risk_free_rate
      = .ok report) :
    load_window loader portfolio.symbols start end_ interval
        (resolved_benchmark benchmark portfolio) = .ok report.window ∧
      analyze rt report.portfolio report.window risk_free_rate = .ok report := by
  obtain ⟨window, hwindow, h⟩ := Outcome.bind_eq_ok.mp h
  obtain ⟨analysed, hanalysed⟩ :
      ∃ analysed, analyze rt analysed window risk_free_rate = .ok report := by
    dsimp only at h
    split_ifs at h
    · exact ⟨portfolio, h⟩
    · obtain ⟨analysed, -, h⟩ := Outcome.bind_eq_ok.mp h
      exact ⟨analysed, h⟩
  obtain ⟨hportfolio, hsame⟩ := analyze_keeps hanalysed
  rw [hportfolio, hsame]
  exact ⟨hwindow, hanalysed⟩

theorem wealth_of_analyze_portfolio_risk
    (h : analyze_portfolio_risk rt loader portfolio start end_ interval benchmark risk_free_rate
      = .ok report) : Wealth rt report.portfolio report.window report := by
  obtain ⟨hwindow, hreport⟩ := sources_of_analyze_portfolio_risk h
  exact wealth_of_analyze (sound_of_load_window portfolio.distinct hwindow) hreport

end Request

/-- **Main result**: over a window of positive closes the wealth index of a valued
    portfolio never reaches zero. -/
theorem wealth_stays_positive {rt : Runtime} {p : Portfolio} {window : MarketWindow}
    {allocation : Allocation} {risk_free_rate : ℚ} (hwindow : window.Sound)
    (hvalue : p.value window.prices_as_of = .ok allocation) :
    ∃ report, analyze rt p window risk_free_rate = .ok report ∧ Wealth rt p window report := by
  obtain ⟨report, hreport, -⟩ :=
    analyze_of_value rt risk_free_rate hvalue hwindow.returns_ne_nil
  exact ⟨report, hreport, wealth_of_analyze hwindow hreport⟩

/-- Two holdings that move apart. -/
theorem wealth_of_two_holdings :
    ∃ (window : MarketWindow) (report : Report),
      load_window paths two_holdings.symbols "2024-01-01" "2024-12-31" "1d" "NIFTY" = .ok window ∧
        analyze default two_holdings window 0 = .ok report ∧
        Wealth default two_holdings window report := by
  obtain ⟨window, hwindow, hpriced⟩ := Outcome.exists_of_any
    (show (load_window paths two_holdings.symbols "2024-01-01" "2024-12-31" "1d"
      "NIFTY").toOption.any (fun window => (two_holdings.value window.prices_as_of).isOk) = true
      by decide +kernel)
  obtain ⟨allocation, hvalue⟩ := Outcome.exists_eq_ok hpriced
  obtain ⟨report, hreport, hwealth⟩ :=
    wealth_stays_positive (sound_of_load_window (by decide) hwindow) hvalue
  exact ⟨window, report, hwindow, hreport, hwealth⟩

end risk

end Quantora
