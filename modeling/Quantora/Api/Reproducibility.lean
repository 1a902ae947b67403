import Mathlib.Data.Rat.Encodable
import Mathlib.Logic.Equiv.List
import Quantora.Api.Results
import Quantora.Backtest.Volume

/-! # Same data version, same result

    A rerun whose data version matches and whose metrics do not is reported as a
    regression of the code. That is right for the strategies of one series: the
    version identifies every bar they read. Pair trading reads a second leg,
    which the version does not cover.

    * `without_volume_of_payload` — what a version identifies.
    * `metrics_eq_of_versions` — what a run computes from it.
    * `same_version_same_metrics_iff` — the strategies whose verdict is sound.
    * `second_leg_unversioned` — two markets that differ in the second leg. -/

namespace Quantora

open experiment
open Go (Any)

/-! ## What the version identifies -/

theorem without_volume_of_payload_row {a b : Bar} (ha : a.SixDecimals) (hb : b.SixDecimals)
    (h : PriceSeries.payload_row a = PriceSeries.payload_row b) :
    a.without_volume = b.without_volume := by
  simp only [PriceSeries.payload_row, List.map_cons, List.map_nil, Prod.mk.injEq,
    List.cons.injEq, round6_eq ha.open_, round6_eq ha.high, round6_eq ha.low, round6_eq ha.close,
    round6_eq ha.adj_close, round6_eq hb.open_, round6_eq hb.high, round6_eq hb.low,
    round6_eq hb.close, round6_eq hb.adj_close] at h
  obtain ⟨htime, hopen, hhigh, hlow, hclose, hadj, -, -⟩ := h
  simp only [Bar.without_volume, htime, hopen, hhigh, hlow, hclose, hadj]

/-- Induction over both frames: equal payloads list the same bars, volumes
    apart. -/
theorem bars_of_rows {a b : List Bar} (ha : ∀ bar ∈ a, bar.SixDecimals)
    (hb : ∀ bar ∈ b, bar.SixDecimals)
    (h : a.map PriceSeries.payload_row = b.map PriceSeries.payload_row) :
    a.map Bar.without_volume = b.map Bar.without_volume := by
  induction a generalizing b with
  | nil =>
    cases b with
    | nil => rfl
    | cons bar b => cases h
  | cons bar a ih =>
    cases b with
    | nil => cases h
    | cons bar' b =>
      obtain ⟨hrow, hrest⟩ := List.cons.inj h
      have hbar := without_volume_of_payload_row (ha bar List.mem_cons_self)
        (hb bar' List.mem_cons_self) hrow
      have htail := ih (fun c hc => ha c (List.mem_cons_of_mem _ hc))
        (fun c hc => hb c (List.mem_cons_of_mem _ hc)) hrest
      rw [List.map_cons, List.map_cons, hbar, htail]

theorem data_version_injective {digest : DataPayload → String} (hdigest : digest.Injective)
    {a b : PriceSeries} (h : a.data_version digest = b.data_version digest) :
    a.payload = b.payload := by
  have htext := congrArg String.toList h
  simp only [PriceSeries.data_version, String.toList_append] at htext
  exact hdigest (String.toList_inj.mp (List.append_cancel_left htext))

/-- Two answers to one request with equal payloads are one series, volumes
    apart. -/
theorem without_volume_of_payload {symbol start end_ interval : String} {a b : PriceSeries}
    (ha : Answers symbol start end_ interval a) (hb : Answers symbol start end_ interval b)
    (hda : a.SixDecimals) (hdb : b.SixDecimals) (h : a.payload = b.payload) :
    a.without_volume = b.without_volume := by
  have hbars := bars_of_rows hda hdb (congrArg DataPayload.rows h)
  have hframe : a.frame.without_volume = b.frame.without_volume := by
    simp only [PriceFrame.without_volume, PriceFrame.mk.injEq]
    exact hbars
  obtain ⟨first, hfirst, hastart⟩ := ha.requested_start
  obtain ⟨first', hfirst', hbstart⟩ := hb.requested_start
  obtain ⟨last, hlast, haend⟩ := ha.requested_end
  obtain ⟨last', hlast', hbend⟩ := hb.requested_end
  obtain rfl := Option.some.inj (hfirst.symm.trans hfirst')
  obtain rfl := Option.some.inj (hlast.symm.trans hlast')
  -- The payload lists three of the five fields; the request fixes the other two.
  have hprovenance : a.provenance = b.provenance := by
    cases hpa : a.provenance
    cases hpb : b.provenance
    simp only [hpa] at hastart haend
    simp only [hpb] at hbstart hbend
    have hprovider := congrArg DataPayload.provider h
    have hticker := congrArg DataPayload.provider_ticker h
    have hpolicy := congrArg DataPayload.adjustment_policy h
    simp only [PriceSeries.payload, hpa, hpb] at hprovider hticker hpolicy
    simp only [hastart, haend, hbstart, hbend, hprovider, hticker, hpolicy]
  simp only [PriceSeries.without_volume, hframe, hprovenance, ha.symbol_eq, hb.symbol_eq,
    ha.interval_eq, hb.interval_eq]

/-! ## Two runs of one request -/

/-- A run of `request` on the data of a provider ended, and the services decoded
    its result as `document`. -/
structure Completes (engine : Engine) (provider : PriceProvider) (request : RunRequest)
    (run : BacktestRun) (document : Any) : Prop where
  ran : run_backtest_for_symbol engine.rt provider request = .ok run
  returned : Returned engine run document

/-- The number that the services read for a metric. -/
def compared (document : Any) (name : String) : Option ℚ :=
  asFloat (mapField document "metrics") name

/-- Of two results on prices with at most six decimals, a common data version
    means common metrics, and no rerun that compares them finds the versions
    equal and the metrics different. -/
def SameVersionSameMetrics (engine : Engine) (request : RunRequest)
    (provider provider' : PriceProvider) : Prop :=
  ∀ run run' document document',
    Completes engine provider request run document →
    Completes engine provider' request run' document' →
    run.series.SixDecimals → run'.series.SixDecimals →
    (stringField document "data_version" = stringField document' "data_version" →
      ∀ name ∈ comparedMetrics ++ ["trade_count"],
        compared document name = compared document' name) ∧
    ∀ original, experimentFromResult document = .ok original →
      ¬ ((compareRuns original document').DataVersionMatches = true ∧
        (compareRuns original document').MetricsMatch = false)

/-- The further instruments of the strategy carry equal versions too, on prices
    with at most six decimals. A strategy of one series has none. -/
def AuxiliaryVersionsAgree (engine : Engine) (request : RunRequest)
    (provider provider' : PriceProvider) : Prop :=
  ∀ strategy, RegisteredStrategy.create engine.rt request.strategy request.parameters
      = .ok strategy →
    ∀ symbol ∈ strategy.auxiliary_symbols, ∀ a b,
      load_prices engine.rt provider symbol request.start request.end_ request.interval = .ok a →
      load_prices engine.rt provider' symbol request.start request.end_ request.interval = .ok b →
      a.SixDecimals ∧ b.SixDecimals ∧ a.data_version engine.digest = b.data_version engine.digest

theorem auxiliary_symbols_eq_nil {strategy : RegisteredStrategy}
    (h : strategy.name ≠ "pair_trading") : strategy.auxiliary_symbols = [] := by
  cases strategy with
  | pair_trading p => exact absurd rfl h
  | macd p => rfl
  | bollinger p => rfl
  | dual_thrust p => rfl

theorem auxiliaryVersionsAgree_of_name (engine : Engine) {request : RunRequest}
    (provider provider' : PriceProvider) (h : request.strategy ≠ "pair_trading") :
    AuxiliaryVersionsAgree engine request provider provider' := by
  intro strategy hcreate symbol hsymbol
  rw [auxiliary_symbols_eq_nil (RegisteredStrategy.create_name hcreate ▸ h)] at hsymbol
  cases hsymbol

section SameVersion

variable {engine : Engine} {request : RunRequest} {provider provider' : PriceProvider}
  {run run' : BacktestRun} {document document' : Any}

/-- Where the versions of the further instruments agree, so do their series. -/
theorem auxiliary_without_volume {strategy : RegisteredStrategy} {pair pair' : Option PriceSeries}
    (hdigest : engine.digest.Injective)
    (hcreate : RegisteredStrategy.create engine.rt request.strategy request.parameters
      = .ok strategy)
    (hpair : resolve_auxiliary_series engine.rt provider strategy request.start request.end_
      request.interval request.symbol = .ok pair)
    (hpair' : resolve_auxiliary_series engine.rt provider' strategy request.start request.end_
      request.interval request.symbol = .ok pair')
    (hlegs : AuxiliaryVersionsAgree engine request provider provider') :
    pair.map PriceSeries.without_volume = pair'.map PriceSeries.without_volume := by
  -- The strategy decides how many there are, so both runs read none or both read one.
  rcases resolve_auxiliary_series_eq_ok hpair with ⟨hnone, rfl⟩ | ⟨symbol, a, hsymbols, rfl, ha⟩
  · rcases resolve_auxiliary_series_eq_ok hpair' with ⟨-, rfl⟩ | ⟨symbol, b, hsymbols, -, -⟩
    · rfl
    · rw [hnone] at hsymbols
      cases hsymbols
  · rcases resolve_auxiliary_series_eq_ok hpair' with ⟨hnone, -⟩ | ⟨symbol', b, hsymbols', rfl, hb⟩
    · rw [hsymbols] at hnone
      cases hnone
    · rw [hsymbols] at hsymbols'
      obtain rfl := List.singleton_inj.mp hsymbols'
      obtain ⟨hda, hdb, hleg⟩ := hlegs _ hcreate symbol (by simp [hsymbols]) a b ha hb
      rw [Option.map_some, Option.map_some, without_volume_of_payload (answers_of_load_prices ha)
        (answers_of_load_prices hb) hda hdb (data_version_injective hdigest hleg)]

/-- Runs of one request whose versions agree, the second leg's included, compute
    the same metrics. -/
theorem metrics_eq_of_versions (hdigest : engine.digest.Injective)
    (hrun : run_backtest_for_symbol engine.rt provider request = .ok run)
    (hrun' : run_backtest_for_symbol engine.rt provider' request = .ok run')
    (hdecimals : run.series.SixDecimals) (hdecimals' : run'.series.SixDecimals)
    (hversion : run.series.data_version engine.digest = run'.series.data_version engine.digest)
    (hlegs : AuxiliaryVersionsAgree engine request provider provider') :
    run.metrics = run'.metrics := by
  obtain ⟨pair, hprices, hcreate, hpair, hbacktest⟩ := run_backtest_for_symbol_eq_ok hrun
  obtain ⟨pair', hprices', hcreate', hpair', hbacktest'⟩ := run_backtest_for_symbol_eq_ok hrun'
  have hstrategy : run.strategy = run'.strategy := Except.ok.inj (hcreate.symm.trans hcreate')
  have hseries : run.series.without_volume = run'.series.without_volume :=
    without_volume_of_payload (answers_of_load_prices hprices) (answers_of_load_prices hprices')
      hdecimals hdecimals' (data_version_injective hdigest hversion)
  have hsecond : pair.map PriceSeries.without_volume = pair'.map PriceSeries.without_volume := by
    rw [← hstrategy] at hpair'
    exact auxiliary_without_volume hdigest hcreate hpair hpair' hlegs
  -- A run reads the volumes of neither series.
  have hsame := run_backtest_without_volume engine.rt run.series run.strategy pair request.config
  have hsame' := run_backtest_without_volume engine.rt run'.series run'.strategy pair'
    request.config
  rw [hbacktest] at hsame
  rw [hbacktest', ← hseries, ← hstrategy, ← hsecond, hsame] at hsame'
  simp only [Except.map, Except.ok.injEq] at hsame'
  have hmetrics := congrArg BacktestRun.metrics hsame'
  exact hmetrics

/-- Documents with equal metrics give equal numbers. -/
theorem compared_eq (h : Returned engine run document) (h' : Returned engine run' document')
    (hmetrics : run.metrics = run'.metrics) (name : String) :
    compared document name = compared document' name := by
  have hmaps := h.metrics
  rw [hmetrics, h'.metrics] at hmaps
  rw [compared, compared, Option.some.inj hmaps]

/-- **Main lemma**: equal versions of every series a run reads. -/
theorem sameVersionSameMetrics_of_auxiliary (hdigest : engine.digest.Injective)
    (hlegs : AuxiliaryVersionsAgree engine request provider provider') :
    SameVersionSameMetrics engine request provider provider' := by
  intro run run' document document' hcompletes hcompletes' hdecimals hdecimals'
  have hsame : stringField document "data_version" = stringField document' "data_version" →
      ∀ name, compared document name = compared document' name := by
    intro hversion name
    rw [hcompletes.returned.version, hcompletes'.returned.version] at hversion
    exact compared_eq hcompletes.returned hcompletes'.returned
      (metrics_eq_of_versions hdigest hcompletes.ran hcompletes'.ran hdecimals hdecimals' hversion
        hlegs) name
  refine ⟨fun hversion name _ => hsame hversion name, ?_⟩
  rintro original horiginal ⟨hmatches, hdiffer⟩
  -- The verdict compares what was stored, which is what the first run returned.
  obtain ⟨pair, hprices, -⟩ := run_backtest_for_symbol_eq_ok hcompletes.ran
  obtain ⟨kept, hkept, hresult, hfields⟩ :=
    experimentFromResult_of_returned hcompletes.returned (answers_of_load_prices hprices)
  obtain rfl := Except.ok.inj (hkept.symm.trans horiginal)
  have hversion : stringField document "data_version" = stringField document' "data_version" := by
    have hstored : kept.DataVersion = stringField document' "data_version" :=
      (of_decide_eq_true hmatches).2
    rw [← hstored, hfields.data_version, hcompletes.returned.version]
  have hnone : diffMetrics (mapField document "metrics") (mapField document' "metrics") = [] :=
    diffMetrics_eq_nil (fun name _ => hsame hversion name)
  have hmatch : (compareRuns kept document').MetricsMatch = true := by
    show (diffMetrics (mapField kept.Result "metrics")
      (mapField document' "metrics")).isEmpty = true
    rw [hresult, hnone]
    rfl
  rw [hmatch] at hdiffer
  cases hdiffer

/-- The costs that the services read are those of the run. -/
theorem compared_total_costs (h : Returned engine run document) :
    compared document "total_costs" = some run.metrics.total_costs := by
  have hget := Go.get_unmarshal_fields h.metrics "total_costs"
  have hfind : run.metrics.as_dict.find? (fun field => field.1 = "total_costs")
      = some ("total_costs", .float (.num run.metrics.total_costs)) := rfl
  rw [hfind] at hget
  rw [compared, asFloat, hget]
  rfl

end SameVersion

/-! ## A second leg that the version misses -/

/-- The square root of `n` from its highest bit down. -/
def root_bits (n : ℕ) : ℕ → ℕ → ℕ
  | 0, root => root
  | bits + 1, root =>
    root_bits n bits (if (root + 2 ^ bits) * (root + 2 ^ bits) ≤ n then root + 2 ^ bits else root)

/-- The runtime on the numbers below: logarithms of one and two, whole powers,
    roots to twenty digits. -/
def small_runtime : Runtime where
  log x := if x = 2 then 6243314768165359 / 9007199254740992 else 0
  sqrt x := root_bits ⌊x * 10 ^ 40⌋.toNat 80 0 / 10 ^ 20
  pow x y := if y.den = 1 then x ^ y.num.toNat else x
  casefold := String.toLower
  int_of_str _ := none
  float_of_str _ := none
  repr _ := ""

/-- A bar that trades at one price, some days into 2024. -/
def one_price_bar (price : ℚ) (day : ℕ) : RawBar where
  timestamp := (19723 + day) * 86400000000000
  open_ := .num price
  high := .num price
  low := .num price
  close := .num price
  adj_close := .num price
  volume := .num 100

/-- INFY.NS, and a second leg. -/
def two_legs (second : List ℚ) : PriceProvider where
  name := "yfinance"
  fetch ticker _ _ _ :=
    let closes := if ticker = "INFY.NS" then [1, 2, 1, 2, 1, 2, 1, 2, 1, 2, 1, 1, 1] else second
    .ok (List.zipWith one_price_bar closes (List.range 13))

/-- The second leg stays behind on one day, which opens a trade. -/
def parting_leg : PriceProvider := two_legs [1, 2, 1, 2, 1, 2, 1, 2, 1, 2, 2, 1, 1]

/-- The second leg never moves, so the pair is not correlated. -/
def constant_leg : PriceProvider := two_legs (List.replicate 13 1)

def pair_request : RunRequest where
  symbol := "INFY.NS"
  strategy := "pair_trading"
  start := "2024-01-01"
  end_ := "2024-01-13"
  interval := "1d"
  parameters := [("lookback", .int 10), ("use_hedge_ratio", .bool false)]
  config := default

/-- What is observed of the two runs, whatever the digest. -/
def pair_observation (run run' : BacktestRun) : Bool :=
  run.series.payload = run'.series.payload ∧
    run.series.SixDecimals ∧ run'.series.SixDecimals ∧
    (Json.compliant_fields (parameters_json run.strategy)
      && Json.compliant_fields run.metrics.as_dict) = true ∧
    (Json.compliant_fields (parameters_json run'.strategy)
      && Json.compliant_fields run'.metrics.as_dict) = true ∧
    run.metrics.total_costs = 1710 ∧ run'.metrics.total_costs = 0

theorem pair_runs :
    ((run_backtest_for_symbol small_runtime parting_leg pair_request).toOption.any fun run =>
      (run_backtest_for_symbol small_runtime constant_leg pair_request).toOption.any fun run' =>
        pair_observation run run') = true := by
  decide +kernel

theorem exists_returned (engine : Engine) {run : BacktestRun}
    (h : (Json.compliant_fields (parameters_json run.strategy)
      && Json.compliant_fields run.metrics.as_dict) = true) :
    ∃ document, Returned engine run document := by
  have hcompliant : (build_result engine.digest engine.code_version run none).compliant = true := by
    rw [compliant_build_result, h]
  obtain ⟨document, hdocument⟩ := Go.exists_unmarshal_of_compliant _ hcompliant
  exact ⟨document, none, _, by rw [render, if_pos hcompliant], hdocument⟩

/-- The rerun on the other market finds the version unchanged and the costs
    changed. -/
theorem pair_verdict (digest : DataPayload → String) :
    ∃ run run' document document' original,
      Completes ⟨small_runtime, digest, "dev"⟩ parting_leg pair_request run document ∧
      Completes ⟨small_runtime, digest, "dev"⟩ constant_leg pair_request run' document' ∧
      run.series.SixDecimals ∧ run'.series.SixDecimals ∧
      compared document "total_costs" = some 1710 ∧
      compared document' "total_costs" = some 0 ∧
      experimentFromResult document = .ok original ∧
      (compareRuns original document').DataVersionMatches = true ∧
      (compareRuns original document').MetricsMatch = false := by
  obtain ⟨run, hrun, hobserved⟩ := Outcome.exists_of_any pair_runs
  obtain ⟨run', hrun', hobserved⟩ := Outcome.exists_of_any hobserved
  obtain ⟨hpayload, hdecimals, hdecimals', hrendered, hrendered', hcosts, hcosts'⟩ :=
    of_decide_eq_true hobserved
  obtain ⟨document, hdocument⟩ := exists_returned ⟨small_runtime, digest, "dev"⟩ hrendered
  obtain ⟨document', hdocument'⟩ := exists_returned ⟨small_runtime, digest, "dev"⟩ hrendered'
  obtain ⟨pair, hprices, -⟩ := run_backtest_for_symbol_eq_ok hrun
  obtain ⟨original, horiginal, hresult, hkept⟩ :=
    experimentFromResult_of_returned hdocument (answers_of_load_prices hprices)
  have htotal := compared_total_costs hdocument
  have htotal' := compared_total_costs hdocument'
  rw [hcosts] at htotal
  rw [hcosts'] at htotal'
  refine ⟨run, run', document, document', original, ⟨hrun, hdocument⟩, ⟨hrun', hdocument'⟩,
    hdecimals, hdecimals', htotal, htotal', horiginal, ?_, ?_⟩
  · have hversion : original.DataVersion = stringField document' "data_version" := by
      rw [hkept.data_version, hdocument'.version, PriceSeries.data_version,
        PriceSeries.data_version, hpayload]
    have hsome : original.DataVersion ≠ "" := by
      rw [hkept.data_version]
      exact data_version_ne_empty _ _
    exact decide_eq_true ⟨hsome, hversion⟩
  -- 1710 and 0 are further apart than the tolerance.
  · have hdiffer : diffMetric (mapField document "metrics") (mapField document' "metrics")
        "total_costs" ≠ [] := by
      rw [compared] at htotal htotal'
      rw [diffMetric, htotal, htotal']
      show (if |(1710 : ℚ) - 0| > metricTolerance then _ else []) ≠ []
      rw [if_pos (by norm_num [metricTolerance])]
      simp
    have hdifferences := diffMetrics_ne_nil (by decide) hdiffer
    show (diffMetrics (mapField original.Result "metrics")
      (mapField document' "metrics")).isEmpty = false
    rw [hresult]
    simpa using hdifferences

/-! ## A digest without collisions -/

/-- The code points of a text. -/
def code_points (s : String) : List ℕ := s.toList.map Char.toNat

theorem code_points_injective : code_points.Injective := by
  have hchar : Char.toNat.Injective := fun c d h => Char.toNat_inj.mp h
  intro s t h
  exact String.toList_inj.mp (hchar.list_map h)

/-- As many marks as the number of the payload. -/
def tally (payload : DataPayload) : String :=
  let texts := [payload.symbol, payload.provider, payload.provider_ticker, payload.interval,
    payload.adjustment_policy]
  String.ofList (List.replicate (Encodable.encode (texts.map code_points, payload.rows)) '1')

theorem tally_injective : tally.Injective := by
  intro a b h
  have hlength := congrArg List.length (String.ofList_injective h)
  rw [List.length_replicate, List.length_replicate] at hlength
  obtain ⟨htexts, hrows⟩ := Prod.mk.inj (Encodable.encode_injective hlength)
  have hequal := code_points_injective.list_map htexts
  simp only [List.cons.injEq, and_true] at hequal
  obtain ⟨hsymbol, hprovider, hticker, hinterval, hpolicy⟩ := hequal
  cases a
  cases b
  simp only [DataPayload.mk.injEq]
  exact ⟨hsymbol, hprovider, hticker, hinterval, hpolicy, hrows⟩

/-- Two markets that differ in the second leg only, and a verdict that blames
    the code. -/
theorem second_leg_unversioned :
    tally.Injective ∧ ∃ run run' document document' original,
      Completes ⟨small_runtime, tally, "dev"⟩ parting_leg pair_request run document ∧
      Completes ⟨small_runtime, tally, "dev"⟩ constant_leg pair_request run' document' ∧
      run.series.SixDecimals ∧ run'.series.SixDecimals ∧
      compared document "total_costs" = some 1710 ∧
      compared document' "total_costs" = some 0 ∧
      experimentFromResult document = .ok original ∧
      (compareRuns original document').DataVersionMatches = true ∧
      (compareRuns original document').MetricsMatch = false :=
  ⟨tally_injective, pair_verdict tally⟩

/-! ## When the verdict is right -/

/-- **Main theorem**: the verdict is right for every strategy but pair trading,
    and for pair trading when the versions of the second leg agree as well. -/
theorem same_version_same_metrics_iff (digest : DataPayload → String)
    (hdigest : digest.Injective) (name : String) :
    ((∀ engine request provider provider', engine.digest = digest → request.strategy = name →
        SameVersionSameMetrics engine request provider provider') ↔ name ≠ "pair_trading") ∧
      ∀ engine request provider provider', engine.digest = digest →
        AuxiliaryVersionsAgree engine request provider provider' →
        SameVersionSameMetrics engine request provider provider' := by
  have hagree : ∀ engine request provider provider', engine.digest = digest →
      AuxiliaryVersionsAgree engine request provider provider' →
      SameVersionSameMetrics engine request provider provider' := by
    rintro engine request provider provider' rfl hlegs
    exact sameVersionSameMetrics_of_auxiliary hdigest hlegs
  refine ⟨⟨?_, ?_⟩, hagree⟩
  · rintro h rfl
    obtain ⟨run, run', document, document', original, hrun, hrun', hdecimals, hdecimals', -, -,
      horiginal, hmatches, hdiffer⟩ := pair_verdict digest
    have hverdict := (h ⟨small_runtime, digest, "dev"⟩ pair_request parting_leg constant_leg rfl
      rfl run run' document document' hrun hrun' hdecimals hdecimals').2
    exact hverdict original horiginal ⟨hmatches, hdiffer⟩
  · intro hname engine request provider provider' hdig hstrategy
    exact hagree engine request provider provider' hdig
      (auxiliaryVersionsAgree_of_name engine provider provider' (hstrategy ▸ hname))

theorem same_version_same_metrics_iff_of_tally :
    (∀ engine request provider provider', engine.digest = tally → request.strategy = "macd" →
      SameVersionSameMetrics engine request provider provider') ∧
    ¬ ∀ engine request provider provider', engine.digest = tally →
      request.strategy = "pair_trading" →
      SameVersionSameMetrics engine request provider provider' := by
  constructor
  · exact (same_version_same_metrics_iff tally tally_injective "macd").1.mpr (by decide)
  · intro h
    exact (same_version_same_metrics_iff tally tally_injective "pair_trading").1.mp h rfl

end Quantora
