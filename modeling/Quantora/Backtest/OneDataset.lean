import Quantora.Backtest.SideBySide

/-! # Every strategy sees the same bars

    A comparison fetches once and runs every strategy on what it fetched, while
    the provider may revise its history between two calls.

    * `compared_on_one_snapshot` — the columns are the runs on one snapshot of
      the provider, and no strategy is lost.
    * `compared_as_alone` — in front of a provider that revises nothing, the
      fetched data and the cache change no outcome. -/

namespace Quantora

open Recall

/-! ## One moment for each instrument -/

/-- The symbol that a ticker belongs to. -/
def symbol_of_ticker (ticker : String) : String :=
  ((INSTRUMENTS.find? (fun instrument => instrument.provider_ticker = ticker)).map
    Instrument.symbol).getD ""

/-- No two instruments share a ticker. -/
theorem symbol_of_ticker_eq {symbol : String} {instrument : Instrument}
    (h : get_instrument symbol = .ok instrument) :
    symbol_of_ticker instrument.provider_ticker = symbol := by
  have hall : ∀ instrument ∈ INSTRUMENTS,
      symbol_of_ticker instrument.provider_ticker = instrument.symbol := by decide +kernel
  have hmem : instrument ∈ INSTRUMENTS := by
    unfold get_instrument at h
    cases hfind : INSTRUMENTS.find? (fun instrument => instrument.symbol = symbol) with
    | none =>
      rw [hfind] at h
      cases h
    | some found =>
      rw [hfind] at h
      cases h
      exact List.mem_of_find?_eq_some hfind
  rw [hall instrument hmem, symbol_of_get_instrument h]

/-- The bars of an instrument depend on the answers for its ticker only. -/
theorem load_prices_of_fetch {rt : Runtime} {p p' : PriceProvider}
    {symbol start end_ interval : String} (hname : p'.name = p.name)
    (hfetch : ∀ instrument, get_instrument symbol = .ok instrument →
      p'.fetch instrument.provider_ticker = p.fetch instrument.provider_ticker) :
    load_prices rt p' symbol start end_ interval = load_prices rt p symbol start end_ interval := by
  simp only [load_prices, get_prices]
  cases hinstrument : get_instrument symbol with
  | error error => simp only [bind, Except.bind]
  | ok instrument => simp only [bind, Except.bind, hname, hfetch instrument hinstrument]

/-- The feed, frozen at one moment for each symbol. -/
def Feed.snapshot (feed : Feed) (moment : String → ℕ) : PriceProvider :=
  feed.frozen (fun ticker => moment (symbol_of_ticker ticker))

theorem Feed.load_prices_snapshot (feed : Feed) (rt : Runtime) (moment : String → ℕ)
    (symbol start end_ interval : String) :
    load_prices rt (feed.snapshot moment) symbol start end_ interval
      = feed.prices rt start end_ interval (moment symbol) symbol := by
  rw [Feed.prices]
  refine load_prices_of_fetch (p := feed.at_call (moment symbol)) rfl ?_
  intro instrument hinstrument
  simp only [Feed.snapshot, Feed.frozen, Feed.at_call, symbol_of_ticker_eq hinstrument]

/-! ## The second leg -/

/-- One turn of the loop of `resolve_auxiliary_series`. -/
def attach_leg (rt : Runtime) (provider : PriceProvider) (strategy : RegisteredStrategy)
    (start end_ interval primary_symbol symbol : String) :
    Except EngineError (Option PriceSeries) :=
  if symbol = primary_symbol then .error (both_legs rt strategy symbol)
  else do
    let series ← (load_prices rt provider symbol start end_ interval).mapError .of_load
    let attached ← (strategy.attach_auxiliary_series rt series).mapError .strategy
    .ok (some attached)

theorem resolve_auxiliary_series_eq (rt : Runtime) (provider : PriceProvider)
    (strategy : RegisteredStrategy) (start end_ interval primary_symbol : String) :
    resolve_auxiliary_series rt provider strategy start end_ interval primary_symbol
      = strategy.auxiliary_symbols.foldlM (fun _ symbol =>
          attach_leg rt provider strategy start end_ interval primary_symbol symbol) none := rfl

section Legs

variable {rt : Runtime} {feed : Feed} {provider : PriceProvider} {strategy : RegisteredStrategy}
  {start end_ interval primary_symbol : String} {symbols : List String}
  {attached pair : Option PriceSeries} {cache cache' : Cache}

/-- A provider that gives what the cache keeps, for every second leg. -/
def Serves (rt : Runtime) (provider : PriceProvider) (start end_ interval primary_symbol : String)
    (cache : Cache) : Prop :=
  ∀ symbol series, cache.answer symbol = some series → symbol ≠ primary_symbol →
    load_prices rt provider symbol start end_ interval = .ok series

theorem Serves.of_keeps (h : Serves rt provider start end_ interval primary_symbol cache')
    (hkeeps : cache.Keeps cache') : Serves rt provider start end_ interval primary_symbol cache :=
  fun symbol series hseries hne => h symbol series (hkeeps.answers symbol series hseries) hne

/-- Resolving keeps the cache, asks once a symbol at most, and keeps what the
    feed answered. Induction over the symbols. -/
theorem resolve_with_cache_keeps
    (hsound : cache.Sound (feed.prices rt start end_ interval)) :
    cache.Keeps (resolve_with_cache rt feed strategy start end_ interval primary_symbol symbols
        attached cache).2 ∧
      (resolve_with_cache rt feed strategy start end_ interval primary_symbol symbols attached
        cache).2.Sound (feed.prices rt start end_ interval) ∧
      (resolve_with_cache rt feed strategy start end_ interval primary_symbol symbols attached
        cache).2.calls ≤ cache.calls + symbols.length := by
  induction symbols generalizing attached cache with
  | nil => exact ⟨.refl _, hsound, Nat.le_refl _⟩
  | cons symbol symbols ih =>
    rw [resolve_with_cache]
    split_ifs with hprimary
    · exact ⟨.refl _, hsound, Nat.le_add_right _ _⟩
    have hkeeps := Memo.keeps_ask (feed.prices rt start end_ interval) symbol cache
    have hsound' := hsound.ask symbol
    have hcalls := Memo.calls_ask (feed.prices rt start end_ interval) symbol cache
    rw [List.length_cons]
    generalize cache.ask (feed.prices rt start end_ interval) symbol = asked
      at hkeeps hsound' hcalls
    obtain ⟨outcome, next⟩ := asked
    cases outcome with
    | error error => exact ⟨hkeeps, hsound', by simp only at hcalls ⊢; omega⟩
    | ok series =>
      simp only
      cases strategy.attach_auxiliary_series rt series with
      | error error => exact ⟨hkeeps, hsound', by simp only at hcalls ⊢; omega⟩
      | ok kept =>
        obtain ⟨hkeeps', hsound'', hcalls'⟩ := @ih (some kept) next hsound'
        exact ⟨hkeeps.trans hkeeps', hsound'', by simp only at hcalls hcalls' ⊢; omega⟩

/-- Legs that were resolved from the cache are resolved alike by a provider that
    serves what the cache keeps. -/
theorem foldlM_of_resolve_with_cache
    (hserves : Serves rt provider start end_ interval primary_symbol cache')
    (hsound : cache.Sound (feed.prices rt start end_ interval))
    (h : resolve_with_cache rt feed strategy start end_ interval primary_symbol symbols attached
      cache = (.ok pair, cache')) :
    symbols.foldlM (fun _ symbol =>
      attach_leg rt provider strategy start end_ interval primary_symbol symbol) attached
        = .ok pair := by
  induction symbols generalizing attached cache with
  | nil =>
    cases h
    rfl
  | cons symbol symbols ih =>
    rw [resolve_with_cache] at h
    split_ifs at h with hprimary
    · cases h
    have hsound' := hsound.ask symbol
    cases hasked : cache.ask (feed.prices rt start end_ interval) symbol with
    | mk outcome next =>
      rw [hasked] at h hsound'
      cases outcome with
      | error error => cases h
      | ok series =>
        simp only at h
        cases hkept : strategy.attach_auxiliary_series rt series with
        | error error =>
          rw [hkept] at h
          cases h
        | ok kept =>
          rw [hkept] at h
          simp only at h
          -- What was just answered is still kept at the end.
          have hlater : next.Keeps (resolve_with_cache rt feed strategy start end_ interval
              primary_symbol symbols (some kept) next).2 := (resolve_with_cache_keeps hsound').1
          rw [h] at hlater
          have hprices := hserves symbol series
            (hlater.answers _ _ (Memo.answer_of_ask hasked)) hprimary
          rw [List.foldlM_cons]
          refine Outcome.bind_eq_ok.mpr ⟨some kept, ?_, ih hsound' h⟩
          rw [attach_leg, if_neg hprimary, hprices]
          simp only [hkept, Except.mapError, bind, Except.bind]

/-- In front of a steady feed the cache changes no outcome. -/
theorem resolve_with_cache_of_steady (hsteady : Memo.Steady (feed.prices rt start end_ interval))
    (hsound : cache.Sound (feed.prices rt start end_ interval)) :
    (resolve_with_cache rt feed strategy start end_ interval primary_symbol symbols attached
      cache).1 = symbols.foldlM (fun _ symbol => attach_leg rt (feed.at_call 0) strategy start end_
        interval primary_symbol symbol) attached := by
  induction symbols generalizing attached cache with
  | nil => rfl
  | cons symbol symbols ih =>
    rw [resolve_with_cache, List.foldlM_cons, attach_leg]
    split_ifs with hprimary
    · rfl
    have hsound' := hsound.ask symbol
    have hanswer : (cache.ask (feed.prices rt start end_ interval) symbol).1
        = load_prices rt (feed.at_call 0) symbol start end_ interval :=
      Memo.ask_of_steady hsteady hsound symbol
    generalize cache.ask (feed.prices rt start end_ interval) symbol = asked at hsound' hanswer
    obtain ⟨outcome, next⟩ := asked
    rw [← hanswer]
    cases outcome with
    | error error => rfl
    | ok series =>
      cases hkept : strategy.attach_auxiliary_series rt series with
      | error error => simp only [hkept, Except.mapError, bind, Except.bind]
      | ok kept =>
        simp only [hkept, Except.mapError, bind, Except.bind]
        exact ih hsound'

end Legs

/-- A strategy declares one further instrument at most. -/
theorem RegisteredStrategy.length_auxiliary_symbols_le (strategy : RegisteredStrategy) :
    strategy.auxiliary_symbols.length ≤ 1 := by
  cases strategy <;> simp [RegisteredStrategy.auxiliary_symbols]

/-! ## One run on fetched data -/

section Run

variable {rt : Runtime} {feed : Feed} {provider : PriceProvider} {request : RunRequest}
  {data : PriceSeries} {cache cache' : Cache} {run : BacktestRun}

/-- What a run leaves of the cache. -/
theorem run_backtest_for_symbol_with_keeps
    (hsound : cache.Sound (feed.prices rt request.start request.end_ request.interval)) :
    cache.Keeps (run_backtest_for_symbol_with rt feed data request cache).2 ∧
      (run_backtest_for_symbol_with rt feed data request cache).2.Sound
        (feed.prices rt request.start request.end_ request.interval) ∧
      (run_backtest_for_symbol_with rt feed data request cache).2.calls ≤ cache.calls + 1 := by
  unfold run_backtest_for_symbol_with
  cases RegisteredStrategy.create rt request.strategy request.parameters with
  | error error => exact ⟨.refl _, hsound, Nat.le_succ _⟩
  | ok strategy =>
    have hone := strategy.length_auxiliary_symbols_le
    obtain ⟨hkeeps, hsound', hcalls⟩ := @resolve_with_cache_keeps rt feed strategy request.start
      request.end_ request.interval request.symbol strategy.auxiliary_symbols none cache hsound
    simp only
    generalize resolve_with_cache rt feed strategy request.start request.end_ request.interval
      request.symbol strategy.auxiliary_symbols none cache = resolved at hkeeps hsound' hcalls
    obtain ⟨outcome, next⟩ := resolved
    cases outcome with
    | error error => exact ⟨hkeeps, hsound', by simp only at hcalls ⊢; omega⟩
    | ok pair => exact ⟨hkeeps, hsound', by simp only at hcalls ⊢; omega⟩

/-- A run on fetched data is a plain run on a provider that serves the data and
    what the cache keeps. -/
theorem run_backtest_for_symbol_of_with
    (hdata : load_prices rt provider request.symbol request.start request.end_ request.interval
      = .ok data)
    (hserves : Serves rt provider request.start request.end_ request.interval request.symbol cache')
    (hsound : cache.Sound (feed.prices rt request.start request.end_ request.interval))
    (h : run_backtest_for_symbol_with rt feed data request cache = (.ok run, cache')) :
    run_backtest_for_symbol rt provider request = .ok run ∧ run.series = data := by
  unfold run_backtest_for_symbol_with at h
  cases hcreate : RegisteredStrategy.create rt request.strategy request.parameters with
  | error error =>
    rw [hcreate] at h
    cases h
  | ok strategy =>
    rw [hcreate] at h
    simp only at h
    cases hresolved : resolve_with_cache rt feed strategy request.start request.end_
        request.interval request.symbol strategy.auxiliary_symbols none cache with
    | mk outcome next =>
      rw [hresolved] at h
      cases outcome with
      | error error => cases h
      | ok pair =>
        obtain ⟨hrun, rfl⟩ := Prod.mk.inj h
        have hpair : resolve_auxiliary_series rt provider strategy request.start request.end_
            request.interval request.symbol = .ok pair := by
          rw [resolve_auxiliary_series_eq]
          exact foldlM_of_resolve_with_cache hserves hsound hresolved
        refine ⟨?_, (run_backtest_eq_ok hrun).2.1⟩
        unfold run_backtest_for_symbol
        rw [hdata, hcreate]
        simp only [Except.mapError, bind, Except.bind, hpair, hrun]

/-- In front of a steady feed a run on fetched data is the plain run. -/
theorem run_backtest_for_symbol_with_of_steady
    (hsteady : Memo.Steady (feed.prices rt request.start request.end_ request.interval))
    (hdata : load_prices rt (feed.at_call 0) request.symbol request.start request.end_
      request.interval = .ok data)
    (hsound : cache.Sound (feed.prices rt request.start request.end_ request.interval)) :
    (run_backtest_for_symbol_with rt feed data request cache).1
      = run_backtest_for_symbol rt (feed.at_call 0) request := by
  unfold run_backtest_for_symbol_with run_backtest_for_symbol
  rw [hdata]
  cases hcreate : RegisteredStrategy.create rt request.strategy request.parameters with
  | error error => simp only [Except.mapError, bind, Except.bind]
  | ok strategy =>
    have hresolved : (resolve_with_cache rt feed strategy request.start request.end_
          request.interval request.symbol strategy.auxiliary_symbols none cache).1
        = resolve_auxiliary_series rt (feed.at_call 0) strategy request.start request.end_
          request.interval request.symbol := by
      rw [resolve_auxiliary_series_eq]
      exact resolve_with_cache_of_steady hsteady hsound
    simp only [Except.mapError, bind, Except.bind, ← hresolved]
    generalize resolve_with_cache rt feed strategy request.start request.end_ request.interval
      request.symbol strategy.auxiliary_symbols none cache = resolved
    obtain ⟨outcome, next⟩ := resolved
    cases outcome <;> rfl

end Run

/-! ## The loop over the strategies -/

/-- The entry that a column, or a failure, stands for. -/
def entry_key (entry : String × StrategySpec) : String × String × List (String × Json) :=
  (entry.1, entry.2.strategy, entry.2.parameters)

def ComparedRun.key (column : ComparedRun) : String × String × List (String × Json) :=
  (column.label, column.spec.strategy, column.spec.parameters)

def ComparisonFailure.key (failure : ComparisonFailure) :
    String × String × List (String × Json) :=
  (failure.label, failure.strategy, failure.parameters)

section Loop

variable {rt : Runtime} {feed : Feed} {request : ComparisonRequest} {data : PriceSeries}
  {done : List (String × StrategySpec)} {entry : String × StrategySpec} {st : Progress}

/-- Where the loop stands after the entries that are done. -/
structure Progress.Holds (rt : Runtime) (feed : Feed) (request : ComparisonRequest)
    (data : PriceSeries) (done : List (String × StrategySpec)) (st : Progress) : Prop where
  sound : st.cache.Sound (feed.prices rt request.start request.end_ request.interval)
  calls : st.cache.calls ≤ 1 + done.length
  /-- Every column is a plain run on any provider that gives the primary bars and
      what the cache keeps. -/
  plain : ∀ provider,
    load_prices rt provider request.symbol request.start request.end_ request.interval = .ok data →
    Serves rt provider request.start request.end_ request.interval request.symbol st.cache →
    ∀ column ∈ st.runs,
      run_backtest_for_symbol rt provider (request.of_spec column.spec) = .ok column.run ∧
        column.run.series = data
  runs_of : (st.runs.map ComparedRun.key).Sublist (done.map entry_key)
  failures_of : (st.failures.map ComparisonFailure.key).Sublist (done.map entry_key)
  all : (st.runs.map ComparedRun.key ++ st.failures.map ComparisonFailure.key).Perm
    (done.map entry_key)

/-- One strategy more. -/
theorem Progress.Holds.step (h : st.Holds rt feed request data done) :
    (compare_step rt feed request data st entry).Holds rt feed request data (done ++ [entry]) := by
  obtain ⟨hkeeps, hsound, hcalls⟩ := @run_backtest_for_symbol_with_keeps rt feed
    (request.of_spec entry.2) data st.cache h.sound
  have hdone := h.calls
  unfold compare_step
  cases hrun : run_backtest_for_symbol_with rt feed data (request.of_spec entry.2) st.cache with
  | mk outcome next =>
    rw [hrun] at hkeeps hsound hcalls
    cases outcome with
    | ok run =>
      exact
        { sound := hsound
          calls := by simp only [List.length_append, List.length_singleton] at hcalls ⊢; omega
          plain := by
            intro provider hdata hserves column hcolumn
            rcases List.mem_append.mp hcolumn with hcolumn | hcolumn
            · exact h.plain provider hdata (hserves.of_keeps hkeeps) column hcolumn
            · obtain rfl := List.mem_singleton.mp hcolumn
              have hrequest : load_prices rt provider (request.of_spec entry.2).symbol
                  (request.of_spec entry.2).start (request.of_spec entry.2).end_
                  (request.of_spec entry.2).interval = .ok data := hdata
              exact run_backtest_for_symbol_of_with hrequest hserves h.sound hrun
          runs_of := by
            rw [List.map_append, List.map_append]
            exact h.runs_of.append (.refl _)
          failures_of := by
            rw [List.map_append]
            exact h.failures_of.trans (List.sublist_append_left _ _)
          all := by
            simp only [List.map_append, List.map_cons, List.map_nil, List.append_assoc]
            refine (List.Perm.append_left _ List.perm_append_comm).trans ?_
            rw [← List.append_assoc]
            exact h.all.append (.refl _) }
    | error error =>
      exact
        { sound := hsound
          calls := by simp only [List.length_append, List.length_singleton] at hcalls ⊢; omega
          plain := fun provider hdata hserves column hcolumn =>
            h.plain provider hdata (hserves.of_keeps hkeeps) column hcolumn
          runs_of := by
            rw [List.map_append]
            exact h.runs_of.trans (List.sublist_append_left _ _)
          failures_of := by
            rw [List.map_append, List.map_append]
            exact h.failures_of.append (.refl _)
          all := by
            simp only [List.map_append, List.map_cons, List.map_nil]
            rw [← List.append_assoc]
            exact h.all.append (.refl _) }

/-- All the strategies, from the first. Induction over the entries to come. -/
theorem Progress.Holds.loop {entries : List (String × StrategySpec)}
    (h : st.Holds rt feed request data done) :
    (entries.foldl (compare_step rt feed request data) st).Holds rt feed request data
      (done ++ entries) := by
  induction entries generalizing done st with
  | nil => simpa using h
  | cons entry entries ih =>
    rw [List.append_cons]
    exact ih h.step

theorem compare_loop_holds (entries : List (String × StrategySpec)) :
    (compare_loop rt feed request data entries).Holds rt feed request data entries := by
  have hbegin : Progress.Holds rt feed request data [] { cache := { calls := 1 } } :=
    { sound := Memo.sound_empty _ 1
      calls := Nat.le_refl _
      plain := fun _ _ _ _ h => nomatch h
      runs_of := .refl _
      failures_of := .refl _
      all := .refl _ }
  exact hbegin.loop

end Loop

/-! ## The comparison -/

section Compared

variable {rt : Runtime} {feed : Feed} {request : ComparisonRequest} {specs : List StrategySpec}
  {compared : Comparison}

/-- What a comparison that is returned is made of. -/
theorem compare_strategies_eq_ok (h : compare_strategies rt feed request specs = .ok compared) :
    2 ≤ specs.length ∧
      feed.prices rt request.start request.end_ request.interval 0 request.symbol
        = .ok compared.data ∧
      compared.runs = (compare_loop rt feed request compared.data
        ((unique_labels rt specs).zip specs)).runs ∧
      compared.failures = (compare_loop rt feed request compared.data
        ((unique_labels rt specs).zip specs)).failures ∧
      compared.runs ≠ [] ∧
      compared.metric_table = comparison.build_metric_table (entries_of compared.runs) := by
  unfold compare_strategies at h
  by_cases hfew : specs.length < 2
  · rw [if_pos hfew] at h
    cases h
  rw [if_neg hfew] at h
  cases hdata : feed.prices rt request.start request.end_ request.interval 0 request.symbol with
  | error error =>
    rw [hdata] at h
    cases h
  | ok data =>
    rw [hdata] at h
    simp only at h
    cases hruns : (compare_loop rt feed request data ((unique_labels rt specs).zip specs)).runs with
    | nil =>
      rw [hruns] at h
      cases h
    | cons first rest =>
      rw [hruns] at h
      obtain rfl := Except.ok.inj h
      exact ⟨Nat.le_of_not_lt hfew, rfl, hruns.symm, rfl, List.cons_ne_nil _ _, rfl⟩

/-- There is one moment for each instrument at which a backtest of each strategy
    gives its column: the first call for the primary bars, and for a second leg
    the call that fetched it. -/
theorem exists_moment (h : compare_strategies rt feed request specs = .ok compared) :
    ∃ moment : String → ℕ, (∀ symbol, moment symbol ≤ specs.length) ∧
      load_prices rt (feed.snapshot moment) request.symbol request.start request.end_
        request.interval = .ok compared.data ∧
      ∀ column ∈ compared.runs,
        run_backtest_for_symbol rt (feed.snapshot moment) (request.of_spec column.spec)
            = .ok column.run ∧
          column.run.series = compared.data := by
  obtain ⟨-, hdata, hruns, -⟩ := compare_strategies_eq_ok h
  have hloop := @compare_loop_holds rt feed request compared.data
    ((unique_labels rt specs).zip specs)
  rw [hruns]
  generalize compare_loop rt feed request compared.data ((unique_labels rt specs).zip specs)
    = final at hloop
  obtain ⟨asked, hasked⟩ := hloop.sound.exists_moments
  have hcalls := hloop.calls
  rw [List.length_zip, length_unique_labels, Nat.min_self] at hcalls
  let moment : String → ℕ := fun symbol =>
    if symbol = request.symbol then 0 else min (asked symbol) specs.length
  have hprimary : load_prices rt (feed.snapshot moment) request.symbol request.start request.end_
      request.interval = .ok compared.data := by
    rw [Feed.load_prices_snapshot]
    simpa only [moment, if_pos] using hdata
  have hserves : Serves rt (feed.snapshot moment) request.start request.end_ request.interval
      request.symbol final.cache := by
    intro symbol series hseries hother
    obtain ⟨hlt, hprices⟩ := hasked symbol series hseries
    have hmoment : moment symbol = asked symbol := by
      simp only [moment, if_neg hother]
      omega
    rw [Feed.load_prices_snapshot, hmoment]
    exact hprices
  refine ⟨moment, fun symbol => ?_, hprimary, hloop.plain _ hprimary hserves⟩
  simp only [moment]
  split_ifs
  · exact Nat.zero_le _
  · exact Nat.min_le_right _ _

/-- Every strategy is a column or a failure. -/
theorem compared_accounts (h : compare_strategies rt feed request specs = .ok compared) :
    (compared.runs.map ComparedRun.key).Sublist
        (((unique_labels rt specs).zip specs).map entry_key) ∧
      (compared.failures.map ComparisonFailure.key).Sublist
        (((unique_labels rt specs).zip specs).map entry_key) ∧
      (compared.runs.map ComparedRun.key ++ compared.failures.map ComparisonFailure.key).Perm
        (((unique_labels rt specs).zip specs).map entry_key) := by
  obtain ⟨-, -, hruns, hfailures, -⟩ := compare_strategies_eq_ok h
  have hloop := @compare_loop_holds rt feed request compared.data
    ((unique_labels rt specs).zip specs)
  rw [hruns, hfailures]
  exact ⟨hloop.runs_of, hloop.failures_of, hloop.all⟩

/-- The provider may revise its history between any two calls. Still, a
    comparison is one of a provider that revises nothing: there is one moment for
    each instrument, such that the bars of the comparison and the run of every
    column are what a backtest of that strategy gives at these moments, all of
    them on the same bars. Every strategy has one column or one failure, under
    its label, and both stand in the order of the request. -/
theorem compared_on_one_snapshot
    (h : compare_strategies rt feed request specs = .ok compared) :
    (∃ moment : String → ℕ, (∀ symbol, moment symbol ≤ specs.length) ∧
      load_prices rt (feed.snapshot moment) request.symbol request.start request.end_
        request.interval = .ok compared.data ∧
      ∀ column ∈ compared.runs,
        run_backtest_for_symbol rt (feed.snapshot moment) (request.of_spec column.spec)
            = .ok column.run ∧
          column.run.series = compared.data) ∧
      compared.runs ≠ [] ∧
      (compared.runs.map ComparedRun.key).Sublist
        (((unique_labels rt specs).zip specs).map entry_key) ∧
      (compared.failures.map ComparisonFailure.key).Sublist
        (((unique_labels rt specs).zip specs).map entry_key) ∧
      (compared.runs.map ComparedRun.key ++ compared.failures.map ComparisonFailure.key).Perm
        (((unique_labels rt specs).zip specs).map entry_key) :=
  ⟨exists_moment h, (compare_strategies_eq_ok h).2.2.2.2.1, compared_accounts h⟩

/-! ## A provider that revises nothing -/

/-- One strategy on its own: its column, or its failure. -/
def alone (rt : Runtime) (feed : Feed) (request : ComparisonRequest)
    (entry : String × StrategySpec) : Except ComparisonFailure ComparedRun :=
  match run_backtest_for_symbol rt (feed.at_call 0) (request.of_spec entry.2) with
  | .ok run => .ok ⟨entry.1, entry.2, run⟩
  | .error error => .error (failure_of rt entry.1 entry.2 error)

/-- The error of an outcome. -/
def failed {ε α : Type} : Except ε α → Option ε
  | .ok _ => none
  | .error error => some error

theorem steady_prices (hsteady : ∀ n, feed.fetch n = feed.fetch 0) (rt : Runtime)
    (start end_ interval : String) : Memo.Steady (feed.prices rt start end_ interval) := by
  intro n symbol
  rw [Feed.prices, Feed.prices]
  exact load_prices_of_fetch rfl (fun instrument _ => by rw [Feed.at_call, hsteady n]; rfl)

/-- The loop is the strategies one by one. Induction over the entries. -/
theorem compare_loop_of_steady {data : PriceSeries} {st : Progress}
    (hsteady : Memo.Steady (feed.prices rt request.start request.end_ request.interval))
    (hdata : load_prices rt (feed.at_call 0) request.symbol request.start request.end_
      request.interval = .ok data)
    (entries : List (String × StrategySpec))
    (hsound : st.cache.Sound (feed.prices rt request.start request.end_ request.interval)) :
    (entries.foldl (compare_step rt feed request data) st).runs
        = st.runs ++ entries.filterMap (fun entry => (alone rt feed request entry).toOption) ∧
      (entries.foldl (compare_step rt feed request data) st).failures
        = st.failures ++ entries.filterMap (fun entry => failed (alone rt feed request entry)) := by
  induction entries generalizing st with
  | nil => exact ⟨(List.append_nil _).symm, (List.append_nil _).symm⟩
  | cons entry entries ih =>
    have hsound' := (@run_backtest_for_symbol_with_keeps rt feed (request.of_spec entry.2) data
      st.cache hsound).2.1
    have hplain : (run_backtest_for_symbol_with rt feed data (request.of_spec entry.2)
        st.cache).1 = run_backtest_for_symbol rt (feed.at_call 0) (request.of_spec entry.2) :=
      run_backtest_for_symbol_with_of_steady hsteady hdata hsound
    rw [List.foldl_cons, List.filterMap_cons, List.filterMap_cons]
    cases hwith : run_backtest_for_symbol_with rt feed data (request.of_spec entry.2) st.cache with
    | mk outcome next =>
      rw [hwith] at hsound' hplain
      cases outcome with
      | ok run =>
        have hstep : compare_step rt feed request data st entry
            = { st with cache := next, runs := st.runs ++ [⟨entry.1, entry.2, run⟩] } := by
          rw [compare_step, hwith]
        have halone : alone rt feed request entry = .ok ⟨entry.1, entry.2, run⟩ := by
          rw [alone, ← hplain]
        obtain ⟨hruns, hfailures⟩ := @ih (compare_step rt feed request data st entry)
          (hstep ▸ hsound')
        rw [hruns, hfailures, halone, hstep]
        simp [Except.toOption, failed]
      | error error =>
        have hstep : compare_step rt feed request data st entry
            = { st with
                cache := next
                failures := st.failures ++ [failure_of rt entry.1 entry.2 error] } := by
          rw [compare_step, hwith]
        have halone : alone rt feed request entry
            = .error (failure_of rt entry.1 entry.2 error) := by
          rw [alone, ← hplain]
        obtain ⟨hruns, hfailures⟩ := @ih (compare_step rt feed request data st entry)
          (hstep ▸ hsound')
        rw [hruns, hfailures, halone, hstep]
        simp [Except.toOption, failed]

/-- The labelled strategies are those of the request. -/
theorem exists_label (rt : Runtime) {spec : StrategySpec} (hspec : spec ∈ specs) :
    ∃ label, (label, spec) ∈ (unique_labels rt specs).zip specs := by
  obtain ⟨i, hi, rfl⟩ := List.mem_iff_getElem.mp hspec
  have hlabels : i < (unique_labels rt specs).length := by rwa [length_unique_labels]
  refine ⟨(unique_labels rt specs)[i], List.mem_iff_getElem.mpr ⟨i, ?_, ?_⟩⟩
  · rw [List.length_zip]
    omega
  · rw [List.getElem_zip]

/-- In front of a provider that revises nothing, a comparison is its backtests:
    it is returned when there are two strategies and one of them can be run on
    its own, its columns are the runs that succeed on their own, and its failures
    are theirs, with their own errors. The bars that were fetched once and the
    second legs that were kept change no outcome. -/
theorem compared_as_alone (rt : Runtime) (request : ComparisonRequest)
    (specs : List StrategySpec) (hsteady : ∀ n, feed.fetch n = feed.fetch 0) :
    ((∃ compared, compare_strategies rt feed request specs = .ok compared) ↔
      2 ≤ specs.length ∧ ∃ spec ∈ specs, ∃ run,
        run_backtest_for_symbol rt (feed.at_call 0) (request.of_spec spec) = .ok run) ∧
      ∀ compared, compare_strategies rt feed request specs = .ok compared →
        compared.runs = ((unique_labels rt specs).zip specs).filterMap
            (fun entry => (alone rt feed request entry).toOption) ∧
          compared.failures = ((unique_labels rt specs).zip specs).filterMap
            (fun entry => failed (alone rt feed request entry)) := by
  have hprices := steady_prices hsteady rt request.start request.end_ request.interval
  have hlists : ∀ data, feed.prices rt request.start request.end_ request.interval 0
        request.symbol = .ok data →
      (compare_loop rt feed request data ((unique_labels rt specs).zip specs)).runs
          = ((unique_labels rt specs).zip specs).filterMap
            (fun entry => (alone rt feed request entry).toOption) ∧
        (compare_loop rt feed request data ((unique_labels rt specs).zip specs)).failures
          = ((unique_labels rt specs).zip specs).filterMap
            (fun entry => failed (alone rt feed request entry)) := by
    intro data hdata
    exact compare_loop_of_steady hprices hdata _ (Memo.sound_empty _ 1)
  refine ⟨⟨?_, ?_⟩, ?_⟩
  · rintro ⟨compared, h⟩
    obtain ⟨hmany, hdata, hruns, -, hne, -⟩ := compare_strategies_eq_ok h
    rw [hruns, (hlists _ hdata).1] at hne
    obtain ⟨column, hcolumn⟩ := List.exists_mem_of_ne_nil _ hne
    obtain ⟨entry, hentry, halone⟩ := List.mem_filterMap.mp hcolumn
    refine ⟨hmany, entry.2, (List.of_mem_zip hentry).2, ?_⟩
    unfold alone at halone
    cases hrun : run_backtest_for_symbol rt (feed.at_call 0) (request.of_spec entry.2) with
    | ok run => exact ⟨run, rfl⟩
    | error error =>
      rw [hrun] at halone
      cases halone
  · rintro ⟨hmany, spec, hspec, run, hrun⟩
    obtain ⟨pair, hdata, -⟩ := run_backtest_for_symbol_eq_ok hrun
    obtain ⟨label, hentry⟩ := exists_label rt hspec
    have hmem : (⟨label, spec, run⟩ : ComparedRun) ∈ (compare_loop rt feed request run.series
        ((unique_labels rt specs).zip specs)).runs := by
      rw [(hlists _ hdata).1]
      refine List.mem_filterMap.mpr ⟨_, hentry, ?_⟩
      rw [alone, hrun]
      rfl
    have hdata' : feed.prices rt request.start request.end_ request.interval 0 request.symbol
        = .ok run.series := hdata
    rw [compare_strategies, if_neg (Nat.not_lt.mpr hmany), hdata']
    simp only
    cases hruns : (compare_loop rt feed request run.series
        ((unique_labels rt specs).zip specs)).runs with
    | nil =>
      rw [hruns] at hmem
      cases hmem
    | cons first rest => exact ⟨_, rfl⟩
  · intro compared h
    obtain ⟨-, hdata, hruns, hfailures, -⟩ := compare_strategies_eq_ok h
    rw [hruns, hfailures]
    exact hlists _ hdata

end Compared

/-! ## A comparison over revised bars -/

/-- A bar that trades at one price, some days into 2024. -/
def level_bar (price : ℚ) (day : ℕ) : RawBar where
  timestamp := (19723 + day) * 86400000000000
  open_ := .num price
  high := .num price
  low := .num price
  close := .num price
  adj_close := .num price
  volume := .num 100

/-- Thirteen days of any instrument, with prices that every call moves up. -/
def revised_feed : Feed where
  name := "yfinance"
  fetch n _ _ _ _ := .ok (List.zipWith (fun price day => level_bar (price + n) day)
    [1, 2, 3, 2, 1, 1, 4, 5, 6, 3, 2, 1, 2] (List.range 13))

/-- The same days, as the first call has them. -/
def steady_feed : Feed := { revised_feed with fetch := fun _ => revised_feed.fetch 0 }

def thirteen_days : ComparisonRequest where
  symbol := "INFY.NS"
  start := "2024-01-01"
  end_ := "2024-01-13"
  interval := "1d"
  config := default

/-- Two strategies that run, one of them on two legs, and one that is unknown. -/
def three_strategies : List StrategySpec :=
  [{ strategy := "macd",
     parameters := [("fast", .int 2), ("slow", .int 3), ("signal", .int 2)] },
    { strategy := "pair_trading",
      parameters := [("lookback", .int 10), ("use_hedge_ratio", .bool false)] },
    { strategy := "momentum" }]

theorem compared_three (feed : Feed) (h : (compare_strategies default feed thirteen_days
      three_strategies).toOption.any (fun compared => compared.runs.length = 2) = true) :
    ∃ compared, compare_strategies default feed thirteen_days three_strategies = .ok compared ∧
      compared.runs.length = 2 := by
  obtain ⟨compared, hcompared, hlength⟩ := Outcome.exists_of_any h
  exact ⟨compared, hcompared, of_decide_eq_true hlength⟩

/-- The bars are revised between the fetch of the primary bars and that of the
    second leg. -/
theorem three_on_one_snapshot :
    ∃ compared, compare_strategies default revised_feed thirteen_days three_strategies
        = .ok compared ∧ compared.runs.length = 2 ∧
      ∃ moment : String → ℕ, ∀ column ∈ compared.runs,
        run_backtest_for_symbol default (revised_feed.snapshot moment)
          (thirteen_days.of_spec column.spec) = .ok column.run := by
  obtain ⟨compared, hcompared, hlength⟩ := compared_three revised_feed (by decide +kernel)
  obtain ⟨⟨moment, -, -, hplain⟩, -⟩ := compared_on_one_snapshot hcompared
  exact ⟨compared, hcompared, hlength, moment, fun column hcolumn => (hplain column hcolumn).1⟩

theorem three_as_alone :
    ∃ compared, compare_strategies default steady_feed thirteen_days three_strategies
        = .ok compared ∧ compared.runs.length = 2 ∧
      compared.failures = ((unique_labels default three_strategies).zip three_strategies).filterMap
        (fun entry => failed (alone default steady_feed thirteen_days entry)) := by
  obtain ⟨compared, hcompared, hlength⟩ := compared_three steady_feed (by decide +kernel)
  exact ⟨compared, hcompared, hlength, ((compared_as_alone default thirteen_days three_strategies
    (fun _ => rfl)).2 compared hcompared).2⟩

end Quantora
