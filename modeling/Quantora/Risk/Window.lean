import Quantora.Framework.Calendar
import Quantora.Backtest.Config
import Quantora.Risk.Holdings

/-! # Market windows

    `load_window` of `portfolio/risk.py`: fetch the bars of every holding and of
    the benchmark, put the holdings on the sessions that they share, and compute
    returns.

    * `PriceLoader` — what `load_prices` promises: validated bars.
    * `DataFrame`, `Series` — a table of columns on one index, and one column.
    * `load_window` — the window, from the frames that `load_frames` fetched.

    The benchmark's returns are computed on the benchmark's own sessions. -/

namespace Quantora

/-- `PriceFrame.closes`: the close of every session. -/
def PriceFrame.closes (frame : PriceFrame) : List (Timestamp × ℚ) :=
  frame.bars.map (fun bar => (bar.timestamp, bar.close))

/-- The close of a session, if the instrument traded. -/
def PriceFrame.close_at (frame : PriceFrame) (t : Timestamp) : Option ℚ :=
  (frame.bars.find? (fun bar => bar.timestamp = t)).map Bar.close

namespace risk

/-- A symbol needs this many returns before a statistic is computed from them. -/
def MIN_RETURN_OBSERVATIONS : ℕ := 20

/-- The share of the pooled calendar that a symbol must cover. -/
def MIN_CALENDAR_COVERAGE : ℚ := 8 / 10

def DEFAULT_BENCHMARK : String := "NIFTY"

def EPSILON : ℚ := 1 / 1000000000000

/-! ## Prices -/

/-- A source of validated bars. -/
structure PriceLoader where
  /-- `loader(symbol, start, end, interval)`. -/
  load : String → String → String → String → Except LoadError PriceSeries
  positive : ∀ symbol start end_ interval series, load symbol start end_ interval = .ok series →
    ∀ bar ∈ series.frame.bars, 0 < bar.close

/-- The sanctioned way to obtain bars. -/
def load_prices_loader (rt : Runtime) (provider : PriceProvider) : PriceLoader where
  load symbol start end_ interval := load_prices rt provider symbol start end_ interval
  positive _ _ _ _ _ h := fun bar hbar => (positive_of_load_prices h bar hbar).close

/-- A `pd.Series` of floats. -/
abbrev Series := List (Timestamp × ℚ)

/-- A `pd.DataFrame` of floats. A row is read at the columns only. -/
structure DataFrame where
  columns : List String
  rows : List (Timestamp × (String → ℚ))

/-- `(now - before) / before`; a close is never zero. -/
def change (before now : ℚ) : ℚ := now / before - 1

/-- `series.pct_change().dropna()`. -/
def pct_change (series : Series) : Series := Calendar.steps change series

/-- `frame.pct_change().dropna()`. -/
def DataFrame.pct_change (frame : DataFrame) : DataFrame where
  columns := frame.columns
  rows := Calendar.steps (fun before now s => change (before s) (now s)) frame.rows

/-- `frame[columns]`. -/
def DataFrame.select (frame : DataFrame) (keep : String → Bool) : DataFrame :=
  { frame with columns := frame.columns.filter keep }

/-- Aligned closes and returns for a set of symbols. -/
structure MarketWindow where
  closes : DataFrame
  returns : DataFrame
  interval : String
  start : String
  end_ : String
  benchmark_symbol : String
  benchmark_returns : Option Series
  benchmark_unavailable : Option String
  /-- The symbols that were left out, with the reason. -/
  dropped : List (String × String)

namespace MarketWindow

variable (window : MarketWindow)

def symbols : List String := window.closes.columns

/-- The closes of the last session. -/
def prices_as_of : Prices := fun symbol =>
  if symbol ∈ window.closes.columns then
    window.closes.rows.getLast?.map (fun row => .num (row.2 symbol))
  else none

def periods_per_year : ℚ := BacktestConfig.periods_per_year window.interval

end MarketWindow

/-! ## Loading -/

/-- `list(dict.fromkeys([*symbols, benchmark]))`. -/
def wanted (symbols : List String) (benchmark : String) : List String :=
  (symbols ++ [benchmark]).eraseDups

/-- The bars of every symbol, in the order of the requests. -/
def load_frames (loader : PriceLoader) (symbols : List String) (start end_ interval : String) :
    Except PortfolioError (List (String × PriceFrame)) :=
  symbols.mapM fun symbol =>
    match loader.load symbol start end_ interval with
    | .error err => .error (.of_load err)
    | .ok series => .ok (symbol, series.frame)

/-- `pooled`: every session on which any holding traded. -/
def pooled_calendar : List PriceFrame → List Timestamp
  | [] => []
  | first :: rest => rest.foldl (fun pooled frame => pooled ∪ frame.index) first.index

/-- Why a symbol with these bars is left out, if it is. -/
def excluded (start end_ : String) (pooled : ℕ) (frame : PriceFrame) : Option String :=
  let bars := frame.bars.length
  let coverage : ℚ := if pooled = 0 then 0 else bars / pooled
  if bars - 1 < MIN_RETURN_OBSERVATIONS then
    some ("Only " ++ toString bars ++ " bars in " ++ start ++ ".." ++ end_ ++ ", which gives "
      ++ toString (bars - 1) ++ " return observations; at least "
      ++ toString MIN_RETURN_OBSERVATIONS ++ " are needed before any statistic computed from them "
      ++ "is worth reporting.")
  else if coverage < MIN_CALENDAR_COVERAGE then
    some ("Traded on " ++ toString bars ++ " of the " ++ toString pooled
      ++ " sessions in this window (" ++ Python.fmt_percent 0 coverage ++ "); at least "
      ++ Python.fmt_percent 0 MIN_CALENDAR_COVERAGE ++ " overlap is required. Keeping it would "
      ++ "shorten the common window for every other holding.")
  else none

/-- The holdings that stay, with their frames. -/
def kept (start end_ : String) (holdings : List (String × PriceFrame)) :
    List (String × PriceFrame) :=
  let pooled := pooled_calendar (holdings.map Prod.snd)
  holdings.filter (fun holding => (excluded start end_ pooled.length holding.2).isNone)

/-- The holdings that do not, with the reason. -/
def dropped (start end_ : String) (holdings : List (String × PriceFrame)) :
    List (String × String) :=
  let pooled := pooled_calendar (holdings.map Prod.snd)
  holdings.filterMap (fun holding =>
    (excluded start end_ pooled.length holding.2).map (fun reason => (holding.1, reason)))

/-- The sessions on which every holding traded. -/
def common_calendar : List PriceFrame → List Timestamp
  | [] => []
  | first :: rest => first.index.filter (fun t => rest.all (fun frame => t ∈ frame.index))

/-- `pd.concat([...], axis=1, join="inner")`. -/
def inner_join (frames : List (String × PriceFrame)) : DataFrame where
  columns := frames.map Prod.fst
  rows := (common_calendar (frames.map Prod.snd)).map (fun t =>
    (t, fun symbol => ((frames.lookup symbol).bind (fun frame => frame.close_at t)).getD 0))

/-- The instants that two series share. -/
def overlap (a b : List Timestamp) : List Timestamp := a.filter (fun t => t ∈ b)

/-- `[s for s in symbols if s in frames]`, with the frames. -/
def holding_frames (symbols : List String) (frames : List (String × PriceFrame)) :
    List (String × PriceFrame) :=
  symbols.filterMap (fun symbol => (frames.lookup symbol).map (fun frame => (symbol, frame)))

/-- The benchmark's returns, or why there are none. -/
def benchmark_series (frames : List (String × PriceFrame)) (benchmark start end_ : String)
    (returns : DataFrame) : Except String Series :=
  match frames.lookup benchmark with
  | none => .error ("No data was fetched for the benchmark " ++ benchmark ++ ".")
  | some frame =>
    let benchmark_returns := pct_change frame.closes
    let shared := (overlap (Calendar.index returns.rows) (Calendar.index benchmark_returns)).length
    if shared < MIN_RETURN_OBSERVATIONS then
      .error ("The portfolio and " ++ benchmark ++ " share only " ++ toString shared
        ++ " common return observations in " ++ start ++ ".." ++ end_ ++ "; at least "
        ++ toString MIN_RETURN_OBSERVATIONS ++ " are needed. "
        ++ "Beta from that few days measures the sample, not the exposure.")
    else .ok benchmark_returns

/-- The reason of a failure. -/
def reason_of {α : Type} : Except String α → Option String
  | .error reason => some reason
  | .ok _ => none

/-- `load_window`, from the frames that were fetched. -/
def build_window (symbols : List String) (start end_ interval benchmark : String)
    (frames : List (String × PriceFrame)) : Except PortfolioError MarketWindow :=
  let holdings := holding_frames symbols frames
  if holdings = [] then .error .IndexError
  else
    let kept := kept start end_ holdings
    let dropped := dropped start end_ holdings
    if kept = [] then
      .error (.invalid ("No holding has enough usable history in " ++ start ++ ".." ++ end_ ++ ": "
        ++ "; ".intercalate (dropped.map Prod.snd)))
    else
      let closes := inner_join kept
      if closes.rows.length - 1 < MIN_RETURN_OBSERVATIONS then
        .error (.invalid ("The holdings share only " ++ toString closes.rows.length
          ++ " common trading sessions in " ++ start ++ ".." ++ end_
          ++ ", which gives fewer than the " ++ toString MIN_RETURN_OBSERVATIONS
          ++ " return observations needed. Widen the date range."))
      else
        let returns := closes.pct_change
        let benchmark_result := benchmark_series frames benchmark start end_ returns
        .ok
          { closes := closes
            returns := returns
            interval := interval
            start := start
            end_ := end_
            benchmark_symbol := benchmark
            benchmark_returns := benchmark_result.toOption
            benchmark_unavailable := reason_of benchmark_result
            dropped := dropped }

/-- Fetch validated bars for every symbol and align the holdings on common
    sessions. -/
def load_window (loader : PriceLoader) (symbols : List String)
    (start end_ interval benchmark : String) : Except PortfolioError MarketWindow := do
  let frames ← load_frames loader (wanted symbols benchmark) start end_ interval
  build_window symbols start end_ interval benchmark frames

/-! ## What was fetched -/

section Frames

variable {loader : PriceLoader} {symbols : List String} {start end_ interval benchmark : String}
  {frames : List (String × PriceFrame)} {window : MarketWindow}

/-- Every frame that was fetched holds positive closes. -/
theorem positive_of_load_frames (h : load_frames loader symbols start end_ interval = .ok frames) :
    ∀ entry ∈ frames, ∀ bar ∈ entry.2.bars, 0 < bar.close := by
  -- Induction over the symbols, with the frame that each was loaded to.
  have hloaded := Outcome.mapM_eq_ok.mp h
  clear h
  induction hloaded with
  | nil =>
    intro entry hentry
    cases hentry
  | @cons symbol entry symbols frames hentry _ ih =>
    refine List.forall_mem_cons.mpr ⟨?_, ih⟩
    cases hload : loader.load symbol start end_ interval with
    | error err =>
      rw [hload] at hentry
      cases hentry
    | ok series =>
      rw [hload] at hentry
      obtain rfl := Except.ok.inj hentry
      exact loader.positive symbol start end_ interval series hload

theorem load_window_eq_ok :
    load_window loader symbols start end_ interval benchmark = .ok window ↔
      ∃ frames, load_frames loader (wanted symbols benchmark) start end_ interval = .ok frames ∧
        build_window symbols start end_ interval benchmark frames = .ok window :=
  Outcome.bind_eq_ok

/-- The frames that a window is built from. -/
def kept_frames (symbols : List String) (start end_ : String)
    (frames : List (String × PriceFrame)) : List (String × PriceFrame) :=
  kept start end_ (holding_frames symbols frames)

/-- A window holds the kept frames on their common sessions, and the returns of
    the benchmark on its own. -/
theorem build_window_eq_ok
    (h : build_window symbols start end_ interval benchmark frames = .ok window) :
    window.closes = inner_join (kept_frames symbols start end_ frames) ∧
      window.returns = window.closes.pct_change ∧
      MIN_RETURN_OBSERVATIONS < window.closes.rows.length ∧
      window.benchmark_returns
        = (benchmark_series frames benchmark start end_ window.returns).toOption ∧
      window.benchmark_unavailable
        = reason_of (benchmark_series frames benchmark start end_ window.returns) ∧
      window.start = start ∧ window.end_ = end_ ∧ window.interval = interval := by
  simp only [build_window] at h
  split_ifs at h with hholdings hkept hshort
  obtain rfl := Except.ok.inj h
  refine ⟨rfl, rfl, ?_, rfl, rfl, rfl, rfl, rfl⟩
  -- `n + 1` rows make `n` returns.
  show MIN_RETURN_OBSERVATIONS
    < (inner_join (kept start end_ (holding_frames symbols frames))).rows.length
  unfold MIN_RETURN_OBSERVATIONS at hshort ⊢
  omega

/-! ## The kept holdings -/

theorem lookup_of_mem_kept {entry : String × PriceFrame}
    (h : entry ∈ kept_frames symbols start end_ frames) :
    frames.lookup entry.1 = some entry.2 := by
  obtain ⟨hentry, -⟩ := List.mem_filter.mp h
  obtain ⟨symbol, -, hsymbol⟩ := List.mem_filterMap.mp hentry
  obtain ⟨frame, hframe, rfl⟩ := Option.map_eq_some_iff.mp hsymbol
  exact hframe

theorem nodup_kept (hsymbols : symbols.Nodup) :
    ((kept_frames symbols start end_ frames).map Prod.fst).Nodup := by
  have hholdings : ((holding_frames symbols frames).map Prod.fst).Sublist symbols := by
    clear hsymbols
    induction symbols with
    | nil => exact List.Sublist.slnil
    | cons symbol symbols ih =>
      unfold holding_frames at ih ⊢
      cases hframe : frames.lookup symbol with
      | none =>
        rw [List.filterMap_cons_none (by rw [hframe]; rfl)]
        exact ih.cons symbol
      | some frame =>
        rw [List.filterMap_cons_some (by rw [hframe]; rfl), List.map_cons]
        exact ih.cons_cons symbol
  exact hsymbols.sublist ((List.filter_sublist.map Prod.fst).trans hholdings)

/-! ## The common sessions -/

theorem mem_common_calendar {kept : List PriceFrame} {t : Timestamp}
    (h : t ∈ common_calendar kept) : ∀ frame ∈ kept, t ∈ frame.index := by
  cases kept with
  | nil =>
    intro frame hframe
    cases hframe
  | cons first rest =>
    obtain ⟨hfirst, hrest⟩ := List.mem_filter.mp h
    refine List.forall_mem_cons.mpr ⟨hfirst, fun frame hframe => ?_⟩
    exact of_decide_eq_true (List.all_eq_true.mp hrest frame hframe)

theorem common_calendar_increasing (kept : List PriceFrame) :
    (common_calendar kept).Pairwise (· < ·) := by
  cases kept with
  | nil => exact List.Pairwise.nil
  | cons first rest => exact first.index_increasing.filter _

theorem index_inner_join (kept : List (String × PriceFrame)) :
    Calendar.index (inner_join kept).rows = common_calendar (kept.map Prod.snd) := by
  unfold inner_join Calendar.index
  rw [List.map_map]
  exact List.map_id _

end Frames

end risk

end Quantora
