import Quantora.Risk.Report

/-! # What beta compares

    A holding's return at a session is measured since the session before on the
    calendar that all holdings share. The benchmark's is measured since the
    session before on its own. Where a holding skipped a session the two returns
    of a pair span different intervals.

    * `LikeWithLike` — the two returns of every pair are measured since the same
      session.
    * `UnitBeta` — closes that are multiples of the benchmark's have beta 1.
    * `SameSessions` — from the first session that holdings and benchmark share
      to the last they have the same sessions, or there is no beta at all.
    * `beta_compares_like_with_like` — a window has the first two properties
      exactly when its calendars have the third.
-/

namespace Quantora

namespace risk

/-! ## Properties of a window -/

/-- The sessions of the benchmark. -/
def benchmark_calendar (frames : List (String × PriceFrame)) (benchmark : String) :
    List Timestamp :=
  ((frames.lookup benchmark).map PriceFrame.index).getD []

/-- The sessions on which every kept holding traded. -/
def holdings_calendar (symbols : List String) (start end_ : String)
    (frames : List (String × PriceFrame)) : List Timestamp :=
  common_calendar ((kept_frames symbols start end_ frames).map Prod.snd)

/-- Every pair that beta regresses, for whatever weights, is measured since the
    same session. -/
def LikeWithLike (window : MarketWindow) (benchmark : List Timestamp) : Prop :=
  ∀ benchmark_returns ∈ window.benchmark_returns,
    ∀ (weights : Weights) (portfolio_returns : Series), portfolio_return_series
        (window.returns.select (fun s => (weights.get? s).isSome)) weights
          = .ok portfolio_returns →
      ∀ pair ∈ align portfolio_returns benchmark_returns,
        Calendar.previous (Calendar.index window.closes.rows) pair.1
          = Calendar.previous benchmark pair.1

/-- The closes of a symbol are a fixed multiple of the benchmark's at every
    session that the two share. -/
def FixedMultiple (frames : List (String × PriceFrame)) (symbol benchmark : String) : Prop :=
  ∃ k : ℚ, ∀ frame ∈ frames.lookup symbol, ∀ reference ∈ frames.lookup benchmark, ∀ t c d,
    frame.close_at t = some c → reference.close_at t = some d → c = k * d

/-- If every holding is a fixed multiple of the benchmark, a beta that is
    available is 1. -/
def UnitBeta (frames : List (String × PriceFrame)) (benchmark : String) (window : MarketWindow) :
    Prop :=
  (∀ symbol ∈ window.symbols, FixedMultiple frames symbol benchmark) →
    ∀ rt portfolio risk_free_rate report, analyze rt portfolio window risk_free_rate = .ok report →
      ∀ b ∈ report.metrics.beta, b = 1

/-- The holdings' common sessions and the benchmark's are the same where they
    overlap; or they overlap too little for a beta. -/
def SameSessions (symbols : List String) (start end_ benchmark : String)
    (frames : List (String × PriceFrame)) : Prop :=
  (overlap (holdings_calendar symbols start end_ frames).tail
      (benchmark_calendar frames benchmark).tail).length < MIN_RETURN_OBSERVATIONS ∨
    Calendar.Agree (holdings_calendar symbols start end_ frames)
      (benchmark_calendar frames benchmark)

/-! ## The sessions of the returns -/

theorem PriceFrame.index_closes (frame : PriceFrame) :
    Calendar.index frame.closes = frame.index := by
  unfold Calendar.index PriceFrame.closes PriceFrame.index
  rw [List.map_map]
  rfl

theorem index_pct_change (series : Series) :
    Calendar.index (pct_change series) = (Calendar.index series).tail :=
  Calendar.index_steps _ _

theorem DataFrame.index_pct_change (frame : DataFrame) :
    Calendar.index frame.pct_change.rows = (Calendar.index frame.rows).tail := by
  show Calendar.index
    (Calendar.steps (fun before now s => change (before s) (now s)) frame.rows) = _
  exact Calendar.index_steps _ frame.rows

/-- Two sessions make a return. -/
theorem DataFrame.rows_pct_change_ne_nil {frame : DataFrame} (h : 1 < frame.rows.length) :
    frame.pct_change.rows ≠ [] := by
  intro hnil
  have hlength := congrArg List.length (DataFrame.index_pct_change frame)
  unfold Calendar.index at hlength
  rw [hnil, List.length_tail, List.length_map, List.length_map] at hlength
  have hcount : 0 = frame.rows.length - 1 := hlength
  omega

theorem DataFrame.index_select (frame : DataFrame) (keep : String → Bool) :
    Calendar.index (frame.select keep).rows = Calendar.index frame.rows := rfl

/-- A return series has the sessions of its returns. -/
theorem portfolio_return_series_eq_ok {returns : DataFrame} {weights : Weights} {series : Series}
    (h : portfolio_return_series returns weights = .ok series) :
    series = returns.rows.map (fun row =>
      (row.1, (returns.columns.map (fun s => row.2 s * weight_of weights s)).sum)) := by
  simp only [portfolio_return_series] at h
  split_ifs at h
  exact (Except.ok.inj h).symm

theorem index_portfolio_return_series {returns : DataFrame} {weights : Weights} {series : Series}
    (h : portfolio_return_series returns weights = .ok series) :
    Calendar.index series = Calendar.index returns.rows := by
  rw [portfolio_return_series_eq_ok h]
  unfold Calendar.index
  rw [List.map_map]
  rfl

/-- The returns of the columns that have a weight always exist. -/
theorem portfolio_return_series_select (returns : DataFrame) (weights : Weights) :
    ∃ series, portfolio_return_series
      (returns.select (fun s => (weights.get? s).isSome)) weights = .ok series := by
  have hmissing : (returns.select (fun s => (weights.get? s).isSome)).columns.filter
      (fun s => (weights.get? s).isNone) = [] := by
    rw [List.filter_eq_nil_iff]
    intro s hs
    have hsome := (List.mem_filter.mp hs).2
    simp only [Option.isNone_iff_eq_none]
    intro hnone
    rw [hnone] at hsome
    cases hsome
  unfold portfolio_return_series
  rw [hmissing]
  exact ⟨_, rfl⟩

/-! ## The pairs -/

theorem mem_align {portfolio_returns benchmark_returns : Series} {t : Timestamp} {r b : ℚ} :
    (t, r, b) ∈ align portfolio_returns benchmark_returns ↔
      (t, r) ∈ portfolio_returns ∧ benchmark_returns.lookup t = some b := by
  unfold align
  rw [List.mem_filterMap]
  constructor
  · rintro ⟨row, hrow, hpair⟩
    obtain ⟨found, hfound, heq⟩ := Option.map_eq_some_iff.mp hpair
    cases heq
    exact ⟨hrow, hfound⟩
  · rintro ⟨hrow, hfound⟩
    exact ⟨(t, r), hrow, by rw [hfound]; rfl⟩

section Window

variable {symbols : List String} {start end_ interval benchmark : String}
  {frames : List (String × PriceFrame)} {window : MarketWindow}

theorem benchmark_series_eq_ok {returns : DataFrame} {series : Series} :
    benchmark_series frames benchmark start end_ returns = .ok series ↔
      ∃ frame, frames.lookup benchmark = some frame ∧ series = pct_change frame.closes ∧
        ¬ (overlap (Calendar.index returns.rows) frame.index.tail).length
          < MIN_RETURN_OBSERVATIONS := by
  unfold benchmark_series
  cases hframe : frames.lookup benchmark with
  | none => simp
  | some frame =>
    simp only [index_pct_change, PriceFrame.index_closes]
    -- The index was fetched: the overlap decides.
    by_cases hfew : (overlap (Calendar.index returns.rows) frame.index.tail).length
        < MIN_RETURN_OBSERVATIONS
    · rw [if_pos hfew]
      simp [hfew]
    · rw [if_neg hfew]
      simp only [Except.ok.injEq, Option.some.injEq, exists_eq_left', hfew, not_false_eq_true,
        and_true]
      exact eq_comm

/-- The calendars of the two kinds of return of a window. -/
theorem index_of_window
    (h : build_window symbols start end_ interval benchmark frames = .ok window) :
    Calendar.index window.closes.rows = holdings_calendar symbols start end_ frames ∧
      Calendar.index window.returns.rows
        = (holdings_calendar symbols start end_ frames).tail := by
  obtain ⟨hcloses, hreturns, -⟩ := build_window_eq_ok h
  have hindex : Calendar.index window.closes.rows
      = holdings_calendar symbols start end_ frames := by
    rw [hcloses, index_inner_join]
    rfl
  exact ⟨hindex, by rw [hreturns, DataFrame.index_pct_change, hindex]⟩

theorem benchmark_calendar_of_lookup {frame : PriceFrame}
    (h : frames.lookup benchmark = some frame) :
    benchmark_calendar frames benchmark = frame.index := by
  unfold benchmark_calendar
  rw [h]
  rfl

/-- A window has benchmark returns when the calendars overlap enough. -/
theorem benchmark_returns_eq_some
    (h : build_window symbols start end_ interval benchmark frames = .ok window)
    {series : Series} :
    window.benchmark_returns = some series ↔
      ∃ frame, frames.lookup benchmark = some frame ∧ series = pct_change frame.closes ∧
        ¬ (overlap (holdings_calendar symbols start end_ frames).tail
          (benchmark_calendar frames benchmark).tail).length < MIN_RETURN_OBSERVATIONS := by
  rw [(build_window_eq_ok h).2.2.2.1, Outcome.toOption_eq_some, benchmark_series_eq_ok,
    (index_of_window h).2]
  constructor
  · rintro ⟨frame, hframe, hseries, hmany⟩
    exact ⟨frame, hframe, hseries, by rwa [benchmark_calendar_of_lookup hframe]⟩
  · rintro ⟨frame, hframe, hseries, hmany⟩
    exact ⟨frame, hframe, hseries, by rwa [benchmark_calendar_of_lookup hframe] at hmany⟩

theorem holdings_calendar_increasing :
    (holdings_calendar symbols start end_ frames).Pairwise (· < ·) :=
  common_calendar_increasing _

theorem benchmark_calendar_increasing :
    (benchmark_calendar frames benchmark).Pairwise (· < ·) := by
  unfold benchmark_calendar
  cases frames.lookup benchmark with
  | none => exact List.Pairwise.nil
  | some frame => exact frame.index_increasing

/-! ## Sessions of the pairs -/

/-- The pairs are like with like exactly when the calendars agree, where there
    is a beta. -/
theorem likeWithLike_iff
    (h : build_window symbols start end_ interval benchmark frames = .ok window) :
    LikeWithLike window (benchmark_calendar frames benchmark) ↔
      SameSessions symbols start end_ benchmark frames := by
  obtain ⟨hcloses, hreturns⟩ := index_of_window h
  have hholdings : (holdings_calendar symbols start end_ frames).Pairwise (· < ·) :=
    holdings_calendar_increasing
  have hbenchmark : (benchmark_calendar frames benchmark).Pairwise (· < ·) :=
    benchmark_calendar_increasing
  unfold LikeWithLike SameSessions
  rw [hcloses, ← Calendar.samePrevious_iff_agree hholdings hbenchmark]
  constructor
  · intro hpairs
    by_cases hfew : (overlap (holdings_calendar symbols start end_ frames).tail
        (benchmark_calendar frames benchmark).tail).length < MIN_RETURN_OBSERVATIONS
    · exact .inl hfew
    · right
      intro t ht ht' p q hp hq
      -- Both calendars have a session before `t`, so `t` has a pair.
      have hframe : ∃ frame, frames.lookup benchmark = some frame := by
        cases hlookup : frames.lookup benchmark with
        | none =>
          rw [benchmark_calendar, hlookup] at ht'
          cases ht'
        | some frame => exact ⟨frame, rfl⟩
      obtain ⟨frame, hframe⟩ := hframe
      have hbenchmark_returns : window.benchmark_returns = some (pct_change frame.closes) :=
        (benchmark_returns_eq_some h).mpr ⟨frame, hframe, rfl, hfew⟩
      obtain ⟨series, hseries⟩ := portfolio_return_series_select window.returns ∅
      have hrow : t ∈ Calendar.index series := by
        rw [index_portfolio_return_series hseries, DataFrame.index_select, hreturns]
        exact (Calendar.mem_tail_iff hholdings).mpr ⟨ht, p, hp⟩
      have hother : t ∈ Calendar.index (pct_change frame.closes) := by
        rw [index_pct_change, PriceFrame.index_closes, ← benchmark_calendar_of_lookup hframe]
        exact (Calendar.mem_tail_iff hbenchmark).mpr ⟨ht', q, hq⟩
      obtain ⟨⟨_, r⟩, hr, rfl⟩ := List.mem_map.mp hrow
      obtain ⟨b, hb⟩ := Calendar.exists_lookup hother
      have heq := hpairs _ hbenchmark_returns ∅ series hseries _ (mem_align.mpr ⟨hr, hb⟩)
      exact Option.some.inj (hp.symm.trans (heq.trans hq))
  · rintro hsame benchmark_returns hsome weights series hseries ⟨t, r, b⟩ hpair
    obtain ⟨frame, hframe, rfl, hmany⟩ := (benchmark_returns_eq_some h).mp hsome
    obtain ⟨hr, hb⟩ := mem_align.mp hpair
    have hleft : t ∈ (holdings_calendar symbols start end_ frames).tail := by
      rw [← hreturns, ← DataFrame.index_select window.returns,
        ← index_portfolio_return_series hseries]
      exact List.mem_map_of_mem (f := Prod.fst) hr
    have hright : t ∈ (benchmark_calendar frames benchmark).tail := by
      rw [benchmark_calendar_of_lookup hframe, ← PriceFrame.index_closes, ← index_pct_change]
      exact List.mem_map_of_mem (f := Prod.fst) (Calendar.mem_of_lookup hb)
    obtain ⟨ht, p, hp⟩ := (Calendar.mem_tail_iff hholdings).mp hleft
    obtain ⟨ht', q, hq⟩ := (Calendar.mem_tail_iff hbenchmark).mp hright
    have hagree := hsame.resolve_left hmany
    show Calendar.previous _ t = Calendar.previous _ t
    rw [hp, hq, hagree t ht ht' p q hp hq]

/-! ## Multiples of the benchmark -/

theorem close_at_eq_some {frame : PriceFrame} {t : Timestamp} {c : ℚ} :
    frame.close_at t = some c ↔ (t, c) ∈ frame.closes := by
  unfold PriceFrame.close_at PriceFrame.closes
  rw [Option.map_eq_some_iff, List.mem_map]
  constructor
  · rintro ⟨bar, hfind, rfl⟩
    have htime : bar.timestamp = t := by simpa using List.find?_some hfind
    exact ⟨bar, List.mem_of_find?_eq_some hfind, by rw [htime]⟩
  · rintro ⟨bar, hbar, heq⟩
    obtain ⟨rfl, rfl⟩ := Prod.mk.inj heq
    refine ⟨bar, ?_, rfl⟩
    cases hfind : frame.bars.find? (fun other => other.timestamp = bar.timestamp) with
    | none =>
      have hother := List.find?_eq_none.mp hfind bar hbar
      simp at hother
    | some other =>
      -- Two bars of a frame do not have the same timestamp.
      have htime : other.timestamp = bar.timestamp := by simpa using List.find?_some hfind
      have hnodup : (frame.bars.map Bar.timestamp).Nodup :=
        frame.index_increasing.imp ne_of_lt
      exact congrArg some
        (List.inj_on_of_nodup_map hnodup (List.mem_of_find?_eq_some hfind) hbar htime)

/-- A row of the joined frames holds the close of each of them. -/
theorem row_of_inner_join (hsymbols : symbols.Nodup) {t : Timestamp} {row : String → ℚ}
    (hrow : (t, row) ∈ (inner_join (kept_frames symbols start end_ frames)).rows)
    {symbol : String} {frame : PriceFrame}
    (hkept : (symbol, frame) ∈ kept_frames symbols start end_ frames) :
    frame.close_at t = some (row symbol) := by
  obtain ⟨s, hs, heq⟩ := List.mem_map.mp hrow
  obtain ⟨rfl, rfl⟩ := Prod.mk.inj heq
  have hindex : s ∈ frame.index :=
    mem_common_calendar hs frame (List.mem_map_of_mem (f := Prod.snd) hkept)
  obtain ⟨bar, hbar, rfl⟩ := List.mem_map.mp hindex
  have hclose : frame.close_at bar.timestamp = some bar.close :=
    close_at_eq_some.mpr (List.mem_map_of_mem (f := fun bar => (bar.timestamp, bar.close)) hbar)
  show frame.close_at bar.timestamp
    = some ((((kept_frames symbols start end_ frames).lookup symbol).bind
        (fun frame => frame.close_at bar.timestamp)).getD 0)
  rw [Calendar.lookup_of_mem (nodup_kept hsymbols) hkept, Option.bind_some, hclose]
  rfl

/-- Changes of a multiple are changes of the original. -/
theorem change_mul {k before now : ℚ} (hk : k ≠ 0) :
    change (k * before) (k * now) = change before now := by
  unfold change
  rw [mul_div_mul_left _ _ hk]

/-- Over the same two sessions a multiple of the benchmark has the benchmark's
    return. -/
theorem change_of_fixedMultiple (hsymbols : symbols.Nodup)
    (hpositive : ∀ entry ∈ frames, ∀ bar ∈ entry.2.bars, 0 < bar.close)
    {symbol : String} {frame reference : PriceFrame}
    (hkept : (symbol, frame) ∈ kept_frames symbols start end_ frames)
    (hreference : frames.lookup benchmark = some reference)
    (hmultiple : FixedMultiple frames symbol benchmark) {p t : Timestamp}
    {before now : String → ℚ} {b b' : ℚ}
    (hbefore : (p, before) ∈ (inner_join (kept_frames symbols start end_ frames)).rows)
    (hnow : (t, now) ∈ (inner_join (kept_frames symbols start end_ frames)).rows)
    (hb : (p, b) ∈ reference.closes) (hb' : (t, b') ∈ reference.closes) :
    change (before symbol) (now symbol) = change b b' := by
  obtain ⟨k, hk⟩ := hmultiple
  have hlookup := lookup_of_mem_kept hkept
  have hbefore := row_of_inner_join hsymbols hbefore hkept
  have hnow := row_of_inner_join hsymbols hnow hkept
  have hfirst := hk frame hlookup reference hreference p _ _ hbefore (close_at_eq_some.mpr hb)
  have hsecond := hk frame hlookup reference hreference t _ _ hnow (close_at_eq_some.mpr hb')
  have hpos : 0 < before symbol := by
    obtain ⟨bar, hbar, heq⟩ := List.mem_map.mp (close_at_eq_some.mp hbefore)
    rw [← (Prod.mk.inj heq).2]
    exact hpositive _ (Calendar.mem_of_lookup hlookup) bar hbar
  -- A positive close is no multiple by zero.
  have hk0 : k ≠ 0 := by
    rintro rfl
    rw [hfirst, zero_mul] at hpos
    exact lt_irrefl _ hpos
  rw [hfirst, hsecond, change_mul hk0]

/-! ## Beta of a series with itself -/

theorem covariance_self (xs : List ℚ) :
    indicators.covariance (xs.zip xs) = indicators.variance xs := by
  have hzip : xs.zip xs = xs.map (fun x => (x, x)) := by
    rw [List.zip_eq_zipWith, List.zipWith_self]
  have hfst : (xs.map (fun x => (x, x))).map Prod.fst = xs := by
    rw [List.map_map]
    exact List.map_id xs
  have hsnd : (xs.map (fun x => (x, x))).map Prod.snd = xs := by
    rw [List.map_map]
    exact List.map_id xs
  unfold indicators.covariance indicators.variance
  simp only [hzip, hfst, hsnd, List.map_map]
  rfl

/-- If the two returns of every pair are the same, beta is 1. -/
theorem beta_of_equal {portfolio_returns benchmark_returns : Series} {b : ℚ}
    (hequal : ∀ pair ∈ align portfolio_returns benchmark_returns, pair.2.1 = pair.2.2)
    (h : beta portfolio_returns benchmark_returns = .ok b) : b = 1 := by
  have hcolumns : (align portfolio_returns benchmark_returns).map (fun row => row.2.1)
      = (align portfolio_returns benchmark_returns).map (fun row => row.2.2) :=
    List.map_congr_left hequal
  simp only [beta] at h
  split_ifs at h with hfew hflat
  have hmany := not_lt.mp hfew
  have hpositive : 0 < indicators.variance
      ((align portfolio_returns benchmark_returns).map (fun row => row.2.2)) :=
    lt_trans (by norm_num [EPSILON]) (not_le.mp hflat)
  have hne : (align portfolio_returns benchmark_returns).map (fun row => row.2.2) ≠ [] := by
    intro hnil
    rw [List.map_eq_nil_iff.mp hnil] at hmany
    exact absurd hmany (by decide)
  have hslope := indicators.getLast?_hedge_ratio rfl hne
  -- The covariance of a series with itself is its variance, and cancels.
  have hdiv : Cell.div (some (indicators.variance
        ((align portfolio_returns benchmark_returns).map (fun row => row.2.2))))
      (Cell.where_positive (some (indicators.variance
        ((align portfolio_returns benchmark_returns).map (fun row => row.2.2))))) = some 1 := by
    unfold Cell.where_positive
    rw [Option.filter_some, if_pos (decide_eq_true hpositive)]
    exact congrArg some (div_self hpositive.ne')
  rw [List.length_map, covariance_self, hdiv] at hslope
  rw [hcolumns, hslope] at h
  exact (Except.ok.inj h).symm

/-! ## Beta of multiples -/

theorem columns_of_window
    (h : build_window symbols start end_ interval benchmark frames = .ok window) :
    window.returns.columns = window.symbols ∧
      window.symbols = (kept_frames symbols start end_ frames).map Prod.fst := by
  obtain ⟨hcloses, hreturns, -⟩ := build_window_eq_ok h
  constructor
  · rw [hreturns]
    rfl
  · rw [MarketWindow.symbols, hcloses]
    rfl

/-- A portfolio that can be valued at the window's prices holds nothing but the
    window's symbols. -/
theorem symbols_of_valued {portfolio : Portfolio}
    (h : portfolio.Valued window.prices_as_of) : ∀ s ∈ portfolio.symbols, s ∈ window.symbols := by
  intro s hs
  by_contra hnot
  have hprice := (price_of_usable (h.priced s hs)).1
  have hnone : window.prices_as_of s = none := if_neg hnot
  rw [hnone] at hprice
  cases hprice

/-- The weights of a valued portfolio all lie on columns of the window. -/
theorem sum_selected_weights {portfolio : Portfolio} (hsymbols : window.symbols.Nodup)
    (hcolumns : window.returns.columns = window.symbols)
    (h : portfolio.Valued window.prices_as_of) :
    ((window.returns.select
        (fun s => ((portfolio.weights window.prices_as_of).get? s).isSome)).columns.map
      (weight_of (portfolio.weights window.prices_as_of))).sum = 1 := by
  rw [← hcolumns] at hsymbols
  have hcovered : ∀ item ∈ (portfolio.weights window.prices_as_of).items,
      item.1 ∈ window.returns.columns := by
    intro item hitem
    obtain ⟨holding, hholding, rfl⟩ := List.mem_map.mp hitem
    rw [hcolumns]
    exact symbols_of_valued h _ (List.mem_map_of_mem hholding)
  exact (sum_weight_of_columns hsymbols hcovered).trans (Portfolio.sum_weights h)

/-- Beta reads the return series of the allocation's weights. -/
theorem beta_of_analyze {rt : Runtime} {portfolio : Portfolio} {risk_free_rate : ℚ}
    {report : Report} (h : analyze rt portfolio window risk_free_rate = .ok report) :
    portfolio.Valued window.prices_as_of ∧
      ∃ returns, portfolio_return_series (window.returns.select
          (fun s => ((portfolio.weights window.prices_as_of).get? s).isSome))
          (portfolio.weights window.prices_as_of) = .ok returns ∧
        report.metrics.beta = (window_beta window returns).toOption := by
  obtain ⟨allocation, hvalue, h⟩ := Outcome.bind_eq_ok.mp h
  obtain ⟨hvalued, -, hweights, -⟩ := Portfolio.value_eq_ok hvalue
  obtain ⟨returns, hreturns, h⟩ := Outcome.bind_eq_ok.mp h
  obtain ⟨equity, -, h⟩ := Outcome.bind_eq_ok.mp h
  obtain rfl := Except.ok.inj h
  rw [hweights] at hreturns
  exact ⟨hvalued, returns, hreturns, rfl⟩

/-- A return row of multiples, measured since the same session as the
    benchmark's return, is that return in every column. -/
theorem row_of_multiples (hsymbols : symbols.Nodup)
    (hpositive : ∀ entry ∈ frames, ∀ bar ∈ entry.2.bars, 0 < bar.close)
    (h : build_window symbols start end_ interval benchmark frames = .ok window)
    {reference : PriceFrame} (hreference : frames.lookup benchmark = some reference)
    (hmultiples : ∀ symbol ∈ window.symbols, FixedMultiple frames symbol benchmark)
    {t : Timestamp} {row : String → ℚ} {b : ℚ} (hrow : (t, row) ∈ window.returns.rows)
    (hb : (t, b) ∈ pct_change reference.closes)
    (hprevious : Calendar.previous (Calendar.index window.closes.rows) t
      = Calendar.previous (benchmark_calendar frames benchmark) t) :
    ∀ symbol ∈ window.symbols, row symbol = b := by
  obtain ⟨hcloses, hreturns, -⟩ := build_window_eq_ok h
  have hjoined : (Calendar.index window.closes.rows).Pairwise (· < ·) := by
    rw [(index_of_window h).1]
    exact holdings_calendar_increasing
  have hown : (Calendar.index reference.closes).Pairwise (· < ·) := by
    rw [PriceFrame.index_closes]
    exact reference.index_increasing
  rw [hreturns] at hrow
  change (t, row) ∈ Calendar.steps (fun before now s => change (before s) (now s))
    window.closes.rows at hrow
  -- Both returns at `t` are steps from the session before `t`, each on its own calendar.
  obtain ⟨p, before, now, hp, hbefore, hnow, hchange⟩ := Calendar.of_mem_steps hjoined hrow
  obtain ⟨q, first, last, hq, hfirst, hlast, hchange'⟩ := Calendar.of_mem_steps hown hb
  have hpq : p = q := by
    rw [hp, benchmark_calendar_of_lookup hreference, ← PriceFrame.index_closes, hq] at hprevious
    exact Option.some.inj hprevious
  subst hpq
  intro symbol hsymbol
  have hmultiple := hmultiples symbol hsymbol
  rw [(columns_of_window h).2] at hsymbol
  obtain ⟨⟨_, frame⟩, hkept, rfl⟩ := List.mem_map.mp hsymbol
  rw [hcloses] at hbefore hnow
  rw [hchange, hchange']
  exact change_of_fixedMultiple hsymbols hpositive hkept hreference hmultiple hbefore hnow hfirst
    hlast

/-- A weighted sum of equal returns is that return. -/
theorem sum_of_equal {weights : Weights} {columns : List String} {row : String → ℚ} {b : ℚ}
    (hrow : ∀ s ∈ columns, row s = b) (hsum : (columns.map (weight_of weights)).sum = 1) :
    (columns.map (fun s => row s * weight_of weights s)).sum = b := by
  have hterms : columns.map (fun s => row s * weight_of weights s)
      = columns.map (fun s => b * weight_of weights s) :=
    List.map_congr_left fun s hs => by rw [hrow s hs]
  rw [hterms, List.sum_map_mul_left, hsum, mul_one]

/-- On calendars that agree, a portfolio of multiples has the benchmark's
    returns. -/
theorem unitBeta_of_sameSessions (hsymbols : symbols.Nodup)
    (hpositive : ∀ entry ∈ frames, ∀ bar ∈ entry.2.bars, 0 < bar.close)
    (h : build_window symbols start end_ interval benchmark frames = .ok window)
    (hsame : SameSessions symbols start end_ benchmark frames) :
    UnitBeta frames benchmark window := by
  intro hmultiples rt portfolio risk_free_rate report hreport b hb
  obtain ⟨hvalued, returns, hreturns, hbeta⟩ := beta_of_analyze hreport
  have hlike := (likeWithLike_iff h).mpr hsame
  obtain ⟨hcolumns, hnames⟩ := columns_of_window h
  rw [hbeta, Option.mem_def, Outcome.toOption_eq_some] at hb
  unfold window_beta at hb
  cases hsome : window.benchmark_returns with
  | none =>
    rw [hsome] at hb
    cases hb
  | some benchmark_returns =>
    rw [hsome] at hb
    obtain ⟨reference, hreference, rfl, -⟩ := (benchmark_returns_eq_some h).mp hsome
    refine beta_of_equal ?_ hb
    rintro ⟨t, r, b'⟩ hpair
    have hprevious := hlike _ hsome _ returns hreturns _ hpair
    obtain ⟨hr, hb'⟩ := mem_align.mp hpair
    rw [portfolio_return_series_eq_ok hreturns] at hr
    obtain ⟨⟨_, row⟩, hrow, heq⟩ := List.mem_map.mp hr
    obtain ⟨rfl, rfl⟩ := Prod.mk.inj heq
    have hequal := row_of_multiples hsymbols hpositive h hreference hmultiples hrow
      (Calendar.mem_of_lookup hb') hprevious
    -- The weights add up to 1, so a mean of equal returns is that return.
    have hsum := sum_selected_weights (by rw [hnames]; exact nodup_kept hsymbols) hcolumns hvalued
    refine sum_of_equal (fun s hs => hequal s ?_) hsum
    rw [← hcolumns]
    exact (List.mem_filter.mp hs).1

end Window

/-! ## When beta compares like with like -/

/-- **Like with like**: every pair that beta regresses is measured since the
    same session, and multiples of the benchmark have beta 1, exactly when the
    holdings' common sessions and the benchmark's are the same where they
    overlap. -/
theorem beta_compares_like_with_like {loader : PriceLoader} {symbols : List String}
    {start end_ interval benchmark : String} {frames : List (String × PriceFrame)}
    {window : MarketWindow} (hsymbols : symbols.Nodup)
    (hframes : load_frames loader (wanted symbols benchmark) start end_ interval = .ok frames)
    (hwindow : load_window loader symbols start end_ interval benchmark = .ok window) :
    (LikeWithLike window (benchmark_calendar frames benchmark) ∧
        UnitBeta frames benchmark window) ↔
      SameSessions symbols start end_ benchmark frames := by
  obtain ⟨frames', hframes', hbuild⟩ := load_window_eq_ok.mp hwindow
  obtain rfl := Except.ok.inj (hframes.symm.trans hframes')
  constructor
  · exact fun h => (likeWithLike_iff hbuild).mp h.1
  · intro hsame
    exact ⟨(likeWithLike_iff hbuild).mpr hsame,
      unitBeta_of_sameSessions hsymbols (positive_of_load_frames hframes) hbuild hsame⟩

/-! ## A holding that skips a session -/

/-- A bar that trades at one price. -/
def level_bar (price : ℕ → ℚ) (day : ℕ) : Bar where
  timestamp := day * 86400000000000
  open_ := price day
  high := price day
  low := price day
  close := price day
  adj_close := price day
  volume := 0

theorem level_bars_increasing (price : ℕ → ℚ) {days : List ℕ} (h : days.Pairwise (· < ·)) :
    (days.map (level_bar price)).Pairwise (fun a b => a.timestamp < b.timestamp) := by
  rw [List.pairwise_map]
  refine h.imp fun {a b} hab => ?_
  show (a : ℤ) * 86400000000000 < b * 86400000000000
  omega

def level_frame (price : ℕ → ℚ) (days : List ℕ) (h : days.Pairwise (· < ·)) : PriceFrame where
  bars := days.map (level_bar price)
  increasing := level_bars_increasing price h

/-- A price that goes up on one day and down on the next. -/
def zigzag (day : ℕ) : ℚ := 100 + (day % 2 : ℕ)

/-- Twice as much. -/
def double (day : ℕ) : ℚ := 2 * zigzag day

theorem zigzag_pos (day : ℕ) : 0 < zigzag day := by
  unfold zigzag
  positivity

/-- NIFTY trades on 23 days; every other instrument on the given days, at twice
    the level. -/
def doubled_index (days : List ℕ) (h : days.Pairwise (· < ·)) : PriceLoader where
  load symbol start end_ interval :=
    if symbol = "NIFTY" then
      .ok ⟨symbol, interval, level_frame zigzag (List.range 23) List.pairwise_lt_range,
        ⟨"levels", symbol, "raw", start, end_⟩⟩
    else .ok ⟨symbol, interval, level_frame double days h, ⟨"levels", symbol, "raw", start, end_⟩⟩
  positive := by
    intro symbol start end_ interval series hload bar hbar
    split_ifs at hload
    · obtain rfl := Except.ok.inj hload
      obtain ⟨day, -, rfl⟩ := List.mem_map.mp hbar
      exact zigzag_pos day
    · obtain rfl := Except.ok.inj hload
      obtain ⟨day, -, rfl⟩ := List.mem_map.mp hbar
      exact mul_pos two_pos (zigzag_pos day)

theorem known_tcs : ∃ instrument, get_instrument "TCS.NS" = .ok instrument := ⟨_, rfl⟩

theorem known_nifty : ∃ instrument, get_instrument "NIFTY" = .ok instrument := ⟨_, rfl⟩

theorem ten_pos : (0 : ℚ) < 10 := by norm_num

def ten_shares : Holding := ⟨"TCS.NS", 10, none, known_tcs, ten_pos, cost_basis_none⟩

/-- A portfolio of one holding. -/
def one_holding : Portfolio :=
  ⟨[ten_shares], "Core", "INR", "NIFTY", by simp, by simp, known_nifty⟩

/-- The frames of the holding and of NIFTY. -/
def doubled_frames (days : List ℕ) (h : days.Pairwise (· < ·)) : List (String × PriceFrame) :=
  [("TCS.NS", level_frame double days h),
    ("NIFTY", level_frame zigzag (List.range 23) List.pairwise_lt_range)]

theorem load_doubled_frames (days : List ℕ) (h : days.Pairwise (· < ·)) :
    load_frames (doubled_index days h) (wanted ["TCS.NS"] "NIFTY") "2024-01-01" "2024-12-31" "1d"
      = .ok (doubled_frames days h) := rfl

/-- The holding is a fixed multiple of the index, whichever days it trades on. -/
theorem fixedMultiple_doubled (days : List ℕ) (h : days.Pairwise (· < ·)) :
    FixedMultiple (doubled_frames days h) "TCS.NS" "NIFTY" := by
  refine ⟨2, ?_⟩
  rintro frame ⟨⟩ reference ⟨⟩ t c d hc hd
  obtain ⟨bar, hbar, heq⟩ := List.mem_map.mp (close_at_eq_some.mp hc)
  obtain ⟨bar', hbar', heq'⟩ := List.mem_map.mp (close_at_eq_some.mp hd)
  obtain ⟨day, -, rfl⟩ := List.mem_map.mp hbar
  obtain ⟨day', -, rfl⟩ := List.mem_map.mp hbar'
  obtain ⟨htime, rfl⟩ := Prod.mk.inj heq
  obtain ⟨htime', rfl⟩ := Prod.mk.inj heq'
  have hday : day = day' := by
    have htimes : (day : ℤ) * 86400000000000 = day' * 86400000000000 := htime.trans htime'.symm
    omega
  rw [hday]
  rfl

/-- The holding trades on every day that the index does. -/
theorem beta_compares_like_with_like_every_day :
    ∃ window,
      load_window (doubled_index (List.range 23) List.pairwise_lt_range) ["TCS.NS"] "2024-01-01"
          "2024-12-31" "1d" "NIFTY" = .ok window ∧
        LikeWithLike window
          (benchmark_calendar (doubled_frames (List.range 23) List.pairwise_lt_range) "NIFTY") ∧
        UnitBeta (doubled_frames (List.range 23) List.pairwise_lt_range) "NIFTY" window := by
  obtain ⟨window, hwindow⟩ := Outcome.exists_eq_ok
    (show (load_window (doubled_index (List.range 23) List.pairwise_lt_range) ["TCS.NS"]
      "2024-01-01" "2024-12-31" "1d" "NIFTY").isOk = true by decide +kernel)
  have hcalendars : holdings_calendar ["TCS.NS"] "2024-01-01" "2024-12-31"
      (doubled_frames (List.range 23) List.pairwise_lt_range)
      = benchmark_calendar (doubled_frames (List.range 23) List.pairwise_lt_range) "NIFTY" := by
    decide +kernel
  -- With one calendar, every day has one predecessor.
  have hagree : SameSessions ["TCS.NS"] "2024-01-01" "2024-12-31" "NIFTY"
      (doubled_frames (List.range 23) List.pairwise_lt_range) := by
    right
    rw [hcalendars, ← Calendar.samePrevious_iff_agree benchmark_calendar_increasing
      benchmark_calendar_increasing]
    intro t _ _ p q hp hq
    exact Option.some.inj (hp.symm.trans hq)
  exact ⟨window, hwindow, (beta_compares_like_with_like (by decide)
    (load_doubled_frames (List.range 23) List.pairwise_lt_range) hwindow).mpr hagree⟩

/-- The days of a holding that was suspended on the eleventh. -/
def suspended_days : List ℕ := (List.range 23).filter (· ≠ 10)

theorem suspended_days_increasing : suspended_days.Pairwise (· < ·) :=
  List.pairwise_lt_range.filter _

/-- Before the twelfth day the holding traded on the tenth, the index on the
    eleventh. The holding's return over two days is paired with one of the index
    over one, and a holding at twice the level of the index has a beta below
    1. -/
theorem suspension_changes_beta :
    ∃ window,
      load_window (doubled_index suspended_days suspended_days_increasing) ["TCS.NS"] "2024-01-01"
          "2024-12-31" "1d" "NIFTY" = .ok window ∧
        ¬ LikeWithLike window
          (benchmark_calendar (doubled_frames suspended_days suspended_days_increasing)
            "NIFTY") ∧
        FixedMultiple (doubled_frames suspended_days suspended_days_increasing) "TCS.NS" "NIFTY" ∧
        ∃ report, analyze default one_holding window 0 = .ok report ∧
          report.metrics.beta = some (2110 / 2211) := by
  obtain ⟨window, hwindow⟩ := Outcome.exists_eq_ok
    (show (load_window (doubled_index suspended_days suspended_days_increasing) ["TCS.NS"]
      "2024-01-01" "2024-12-31" "1d" "NIFTY").isOk = true by decide +kernel)
  refine ⟨window, hwindow, ?_, fixedMultiple_doubled _ _, ?_⟩
  · -- On day 11 the holding steps from day 9, the index from day 10.
    obtain ⟨frames, hframes, hbuild⟩ := load_window_eq_ok.mp hwindow
    obtain rfl := Except.ok.inj
      ((load_doubled_frames suspended_days suspended_days_increasing).symm.trans hframes)
    rw [likeWithLike_iff hbuild]
    rintro (hfew | hagree)
    · exact absurd hfew (by decide +kernel)
    · rw [← Calendar.samePrevious_iff_agree holdings_calendar_increasing
        benchmark_calendar_increasing] at hagree
      have heq := hagree (11 * 86400000000000) (by decide +kernel) (by decide +kernel)
        (9 * 86400000000000) (10 * 86400000000000) (by decide +kernel) (by decide +kernel)
      exact absurd heq (by decide)
  · have hbeta : ((load_window (doubled_index suspended_days suspended_days_increasing) ["TCS.NS"]
        "2024-01-01" "2024-12-31" "1d" "NIFTY").toOption.bind
          (fun window => (analyze default one_holding window 0).toOption)).bind
            (fun report => report.metrics.beta) = some (2110 / 2211) := by
      decide +kernel
    rw [hwindow] at hbeta
    obtain ⟨report, hreport, hvalue⟩ := Option.bind_eq_some_iff.mp hbeta
    exact ⟨report, Outcome.toOption_eq_some.mp hreport, hvalue⟩

end risk

end Quantora
