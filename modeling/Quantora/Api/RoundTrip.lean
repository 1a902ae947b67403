import Quantora.Api.Posted
import Quantora.Api.Reproducibility
import Quantora.Api.Rerun
import Quantora.Strategy.Replay

/-! # Save, rerun, and nothing has changed

    The configuration of a run crosses four boundaries before it is run again:
    the result document, the experiment's maps, the database, and the request of
    the rerun, which leaves zero values out. None of them changes what is asked
    for.

    * `report_of_unmarshal` — the stored parameters stand for the resolved ones.
    * `rerunRequest_eq` — the request, field by field.
    * `parse_replay` — what the engine's models make of it.
    * `rerun_reproduces` — the same backtest is asked for, and reproduced. -/

namespace Quantora

open experiment
open Go (Any)
open portfolio (Time)
open postgres (DateInput Experiments ReadsIsoDates)

/-! ## Parameters -/

theorem denotes_of_unmarshal {parameter : ParameterValue} {value : Any}
    (h : Go.unmarshal parameter.to_json = some value) : Denotes parameter (Go.marshal value) := by
  cases parameter with
  | int n =>
    obtain rfl := Option.some.inj h
    rw [Go.marshal, Go.number]
    split_ifs
    · exact .int n
    · exact .int_as_float n
  | float x =>
    cases x with
    | none => cases h
    | some x =>
      obtain rfl := Option.some.inj h
      rw [Go.marshal, Go.number]
      split_ifs with hwhole
      · have hx := (Rat.den_eq_one_iff x).mp hwhole.1
        have hdenotes := Denotes.float_as_int x.num (Go.num_lt_of_whole hwhole)
        rwa [hx] at hdenotes
      · exact .float x
  | bool b =>
    obtain rfl := Option.some.inj h
    exact .bool b
  | str s =>
    obtain rfl := Option.some.inj h
    exact .str s

/-- Induction over the parameters: each is stored as a value that stands for
    it. -/
theorem report_of_unmarshal {parameters : List (String × ParameterValue)}
    {entries : List (String × Any)}
    (h : Go.unmarshal_fields (parameters.map fun parameter => (parameter.1, parameter.2.to_json))
      = some entries) : Report parameters (Go.marshal_entries entries) := by
  induction parameters generalizing entries with
  | nil =>
    obtain rfl := Option.some.inj h
    exact .nil
  | cons parameter parameters ih =>
    rw [List.map_cons, Go.unmarshal_fields] at h
    obtain ⟨value, hvalue, h⟩ := Option.bind_eq_some_iff.mp h
    obtain ⟨rest, hrest, h⟩ := Option.bind_eq_some_iff.mp h
    obtain rfl := Option.some.inj h
    exact .cons ⟨rfl, denotes_of_unmarshal hvalue⟩ (ih hrest)

/-! ## The stored configuration -/

section Stored

variable {engine : Engine} {run : BacktestRun} {original : Experiment}

/-- A field of the stored configuration. -/
theorem Kept.config_field (h : Kept engine run original) (name : String) {value : Json}
    (hvalue : run.config.as_dict.find? (fun field => field.1 = name) = some (name, value)) :
    original.BacktestConfig.get name = Go.unmarshal value := by
  rw [Go.get_unmarshal_fields h.backtest_config name, hvalue]
  rfl

/-- A field of the stored cost model. -/
theorem Kept.cost_field (h : Kept engine run original) (name : String) {x : ℚ} (fallback : ℚ)
    (hvalue : run.config.cost_model.as_dict.find? (fun field => field.1 = name)
      = some (name, .float (.num x))) :
    numberOr original.CostModel name fallback = x := by
  have hget := Go.get_unmarshal_fields h.cost_model name
  rw [hvalue] at hget
  rw [numberOr, asFloat, hget]
  rfl

/-- A request that states a configuration in full. -/
def replay (symbol strategy start end_ interval : String) (parameters : Go.Map)
    (config : BacktestConfig) (id : String) : quant.BacktestRequest where
  Symbol := symbol
  Strategy := strategy
  Start := start
  End := end_
  Interval := interval
  Parameters := parameters
  InitialCash := config.initial_cash
  CostModel := some ⟨config.cost_model.commission_bps, config.cost_model.commission_min,
    config.cost_model.slippage_bps, config.cost_model.spread_bps⟩
  ExecutionModel := config.execution_model.value
  AllowShort := config.allow_short
  LiquidateAtEnd := config.liquidate_at_end
  RiskFreeRate := config.risk_free_rate
  ExperimentID := id

theorem ExecutionModel.value_ne_empty (model : ExecutionModel) : model.value ≠ "" := by
  cases model <;> decide

/-- The request that a rerun of a kept result sends. -/
theorem rerunRequest_eq (h : Kept engine run original)
    (hinterval : run.series.interval ∈ SUPPORTED_INTERVALS) :
    rerunRequest original =
      replay run.series.symbol run.strategy.name run.series.provenance.requested_start
        run.series.provenance.requested_end run.series.interval original.Parameters run.config
        original.ID := by
  have hcash := h.config_field "initial_cash" rfl
  have hmodel := h.config_field "execution_model" rfl
  have hshort := h.config_field "allow_short" rfl
  have hliquidate := h.config_field "liquidate_at_end" rfl
  have hrate := h.config_field "risk_free_rate" rfl
  have hcommission := h.cost_field "commission_bps" 3 rfl
  have hminimum := h.cost_field "commission_min" 0 rfl
  have hslippage := h.cost_field "slippage_bps" 5 rfl
  have hspread := h.cost_field "spread_bps" 2 rfl
  have hcosts : original.CostModel.isEmpty = false := by
    have hkeys := Go.keys_unmarshal_fields h.cost_model
    cases hempty : original.CostModel with
    | nil =>
      rw [hempty] at hkeys
      cases hkeys
    | cons entry entries => rfl
  have hvalue := run.config.execution_model.value_ne_empty
  simp only [rerunRequest, applyStoredConfig, replay, hcash, hmodel, hshort, hliquidate, hrate,
    hcosts, hcommission, hminimum, hslippage, hspread, Go.unmarshal, run.config.initial_cash_pos,
    if_true, hvalue, ne_eq, not_false_eq_true, h.strategy, h.symbol, h.interval, h.start, h.end_,
    orDefault_of_supported hinterval, Bool.false_eq_true, if_false]

end Stored

/-! ## What the engine makes of the request -/

section Replay

variable {number_text : NumberText}

section Fields

variable {fields : List (String × Json)}

theorem read_interval {interval : String} (hinterval : interval ∈ SUPPORTED_INTERVALS)
    (h : given fields "interval" = quant.omitempty (interval = "") (.str interval)) :
    schemas.optional_field fields "interval" ⟨"1d", by decide⟩
      (schemas.here fun value => (schemas.text value).bind schemas.known_interval)
      = .ok ⟨interval, hinterval⟩ := by
  apply optional_field_of_omitempty h
  · intro hempty
    have hall : ∀ i ∈ SUPPORTED_INTERVALS, i ≠ "" := by decide
    exact absurd (of_decide_eq_true hempty) (hall interval hinterval)
  · intro _
    simp only [schemas.here, schemas.text, Option.bind_some, schemas.known_interval,
      dif_pos hinterval]

theorem read_parameters {parameters : Go.Map}
    (h : given fields "parameters"
      = quant.omitempty parameters.isEmpty (.obj (Go.marshal_entries parameters))) :
    schemas.optional_field fields "parameters" [] (schemas.here schemas.dict)
      = .ok (Go.marshal_entries parameters) := by
  apply optional_field_of_omitempty h
  · intro hempty
    have hnil : parameters = [] := List.isEmpty_iff.mp hempty
    rw [hnil]
    rfl
  · intro _
    rfl

/-- A configuration's cash is never left out, so the default does not matter. -/
theorem read_initial_cash (number_text : NumberText) (config : BacktestConfig)
    (default : {x : Python.Float // (Python.Float.num 0).lt x})
    (h : given fields "initial_cash"
      = quant.omitempty (config.initial_cash = 0) (Go.number config.initial_cash)) :
    schemas.optional_field fields "initial_cash" default
      (schemas.here fun value => (schemas.number number_text value).bind schemas.positive)
      = .ok ⟨.num config.initial_cash, decide_eq_true config.initial_cash_pos⟩ := by
  have hpositive : (Python.Float.num 0).lt (.num config.initial_cash) = true :=
    decide_eq_true config.initial_cash_pos
  apply optional_field_of_omitempty h
  · intro hempty
    exact absurd (of_decide_eq_true hempty) (ne_of_gt config.initial_cash_pos)
  · intro _
    simp only [schemas.here, number_goNumber, Option.bind_some, schemas.positive,
      dif_pos hpositive]

theorem read_execution_model {model : ExecutionModel}
    (h : given fields "execution_model"
      = quant.omitempty (model.value = "") (.str model.value)) :
    schemas.optional_field fields "execution_model" .NEXT_BAR_OPEN
      (schemas.here schemas.execution_model_literal) = .ok model := by
  apply optional_field_of_omitempty h
  · intro hempty
    exact absurd (of_decide_eq_true hempty) model.value_ne_empty
  · intro _
    cases model <;> rfl

/-- A rate of zero is left out, and zero is the default. -/
theorem read_risk_free_rate (number_text : NumberText) (config : BacktestConfig)
    (default : {x : ℚ // -1 ≤ x ∧ x ≤ 1}) (hdefault : default.val = 0)
    (h : given fields "risk_free_rate"
      = quant.omitempty (config.risk_free_rate = 0) (Go.number config.risk_free_rate)) :
    schemas.optional_field fields "risk_free_rate" default
      (schemas.here fun value =>
        (schemas.number number_text value).bind (schemas.between (-1) 1))
      = .ok ⟨config.risk_free_rate, config.risk_free_rate_ge, config.risk_free_rate_le⟩ := by
  apply optional_field_of_omitempty h
  · intro hempty
    exact Subtype.ext (hdefault.trans (of_decide_eq_true hempty).symm)
  · intro _
    simp only [schemas.here, number_goNumber, Option.bind_some,
      between_num ⟨config.risk_free_rate_ge, config.risk_free_rate_le⟩]

/-- An empty id is left out, and read as none. -/
theorem read_experiment_id {id : String}
    (h : given fields "experiment_id" = quant.omitempty (id = "") (.str id)) :
    schemas.optional_field fields "experiment_id" none (schemas.here schemas.text_or_null)
      = .ok (if id = "" then none else some id) := by
  apply optional_field_of_omitempty h
  · intro hempty
    have hblank : id = "" := of_decide_eq_true hempty
    rw [if_pos hblank]
  · intro hfull
    have hsome : id ≠ "" := of_decide_eq_false hfull
    rw [if_neg hsome]
    rfl

end Fields

/-- What the request models and the configuration make of a replay. -/
theorem parse_replay (number_text : NumberText) (symbol strategy start end_ id : String)
    (parameters : Go.Map) {interval : String} {config : BacktestConfig}
    (hinterval : interval ∈ SUPPORTED_INTERVALS) (hlimits : config.cost_model.WithinLimits) :
    ∃ payload,
      BacktestRequest.parse number_text
        (replay symbol strategy start end_ interval parameters config id).marshal = .ok payload ∧
      build_config payload = .ok config ∧ payload.symbol = symbol ∧
      payload.strategy = strategy ∧ payload.start = start ∧ payload.end_ = end_ ∧
      payload.interval.1 = interval ∧ payload.parameters = Go.marshal_entries parameters := by
  obtain ⟨fields, hfields⟩ : ∃ fields, fields
      = quant.present (replay symbol strategy start end_ interval parameters config id).fields :=
    ⟨_, rfl⟩
  have hgiven : ∀ name value,
      (replay symbol strategy start end_ interval parameters config id).fields.find?
        (fun field => field.1 = name) = some (name, value) → given fields name = value := by
    intro name value hvalue
    rw [hfields]
    exact given_present (quant.BacktestRequest.nodup_fields _) name hvalue
  -- What the models read of each field, given or at its default.
  have hsymbol : schemas.required_field fields "symbol" (schemas.here schemas.text) = .ok symbol :=
    schemas.required_field_eq (hgiven _ _ rfl) rfl
  have hstrategy : schemas.required_field fields "strategy" (schemas.here schemas.text)
      = .ok strategy := schemas.required_field_eq (hgiven _ _ rfl) rfl
  have hstart : schemas.required_field fields "start" (schemas.here schemas.text) = .ok start :=
    schemas.required_field_eq (hgiven _ _ rfl) rfl
  have hend : schemas.required_field fields "end" (schemas.here schemas.text) = .ok end_ :=
    schemas.required_field_eq (hgiven _ _ rfl) rfl
  have hintervals := read_interval hinterval (hgiven _ _ rfl)
  have hparameters := read_parameters (hgiven _ _ rfl)
  have hcash := read_initial_cash number_text config ⟨.num 1000000, by decide +kernel⟩
    (hgiven _ _ rfl)
  have hcosts : schemas.optional_field fields "cost_model" {} (CostModelPayload.parse number_text)
      = .ok (config.cost_model.payload hlimits) :=
    schemas.optional_field_eq (hgiven _ _ rfl) (parse_cost_model _ hlimits)
  have hmodel := read_execution_model (hgiven _ _ rfl)
  have hshort : schemas.optional_field fields "allow_short" false (schemas.here schemas.boolean)
      = .ok config.allow_short := schemas.optional_field_eq (hgiven _ _ rfl) rfl
  have hliquidate : schemas.optional_field fields "liquidate_at_end" true
      (schemas.here schemas.boolean) = .ok config.liquidate_at_end :=
    schemas.optional_field_eq (hgiven _ _ rfl) rfl
  have hrate := read_risk_free_rate number_text config ⟨0, by norm_num⟩ rfl (hgiven _ _ rfl)
  have hid := read_experiment_id (hgiven _ _ rfl)
  refine ⟨⟨symbol, strategy, start, end_, ⟨interval, hinterval⟩, Go.marshal_entries parameters,
    ⟨.num config.initial_cash, decide_eq_true config.initial_cash_pos⟩,
    config.cost_model.payload hlimits, config.execution_model, config.allow_short,
    config.liquidate_at_end,
    ⟨config.risk_free_rate, config.risk_free_rate_ge, config.risk_free_rate_le⟩,
    if id = "" then none else some id⟩, ?_, rfl, rfl, rfl, rfl, rfl, rfl, rfl⟩
  rw [quant.BacktestRequest.marshal, ← hfields, BacktestRequest.parse, hsymbol, hstrategy, hstart,
    hend, hintervals, hparameters, hcash, hcosts, hmodel, hshort, hliquidate, hrate, hid]
  rfl

end Replay

/-! ## The rerun -/

section Rerun

variable {engine : Engine} {number_text : NumberText} {provider : PriceProvider}
  {run : BacktestRun} {original : Experiment}

/-- Another result of the same run reproduces the experiment. -/
theorem compareRuns_reproducible {document : Any} (h : Kept engine run original)
    (hreturned : Returned engine run document) :
    (compareRuns original document).Reproducible = true ∧
      (compareRuns original document).Differences = [] := by
  have hversion : original.DataVersion = stringField document "data_version" := by
    rw [h.data_version, hreturned.version]
  have hsome : original.DataVersion ≠ "" := by
    rw [h.data_version]
    exact data_version_ne_empty _ _
  have hmetrics : mapField original.Result "metrics" = mapField document "metrics" :=
    Option.some.inj (h.metrics.symm.trans hreturned.metrics)
  have hnone : diffMetrics (mapField original.Result "metrics") (mapField document "metrics")
      = [] := by
    rw [hmetrics]
    exact diffMetrics_eq_nil (fun _ _ => rfl)
  refine ⟨?_, hnone⟩
  show (decide (original.DataVersion ≠ "" ∧
      original.DataVersion = stringField document "data_version")
    && (diffMetrics (mapField original.Result "metrics")
      (mapField document "metrics")).isEmpty) = true
  rw [hnone, decide_eq_true ⟨hsome, hversion⟩]
  rfl

/-- What `Save` keeps of a result, and that the database takes and returns it
    as it is. -/
theorem kept_of_save {input : DateInput} {experiments experiments' : Experiments}
    {id name notes symbol start end_ interval : String} {now : Time} {rendered : Json}
    {experiment_id : Option String}
    (hrender : render (build_result engine.digest engine.code_version run experiment_id)
      = .ok rendered)
    (hanswers : Answers symbol start end_ interval run.series)
    (hsave : Save input experiments id now name notes rendered = .ok (experiments', original)) :
    Kept engine run original ∧ postgres.Storable original ∧ original.ID = id ∧
      postgres.Save input experiments original = .ok experiments' := by
  obtain ⟨kept, hkept, hsave⟩ := Outcome.bind_eq_ok.mp hsave
  rw [experimentFromRaw] at hkept
  cases hdecode : Go.unmarshal rendered with
  | none =>
    rw [hdecode] at hkept
    cases hkept
  | some document =>
    rw [hdecode] at hkept
    obtain ⟨kept', hkept', hresult, hfields⟩ := experimentFromResult_of_returned
      ⟨experiment_id, rendered, hrender, hdecode⟩ hanswers
    obtain rfl := Except.ok.inj (hkept'.symm.trans hkept)
    obtain ⟨stored, hstored, hsave⟩ := Outcome.bind_eq_ok.mp hsave
    obtain ⟨rfl, rfl⟩ := Prod.mk.inj (Except.ok.inj hsave)
    have htrim : ∀ s, Go.TrimSpace (Go.TrimSpace s) = "" → Go.TrimSpace s = "" := by
      intro s h
      rwa [Go.TrimSpace, Go.TrimSpace, Text.trim_trim] at h
    have hdistinct : ∀ {fields : List (String × Json)} {entries : Go.Map},
        (fields.map Prod.fst).Nodup → Go.unmarshal_fields fields = some entries →
        (Any.map entries).Distinct := by
      intro fields entries hkeys h
      exact ⟨Go.keys_unmarshal_fields h ▸ hkeys, Go.distinct_of_unmarshal_fields fields h⟩
    obtain ⟨first, -, hfirst⟩ := hanswers.requested_start
    obtain ⟨last, -, hlast⟩ := hanswers.requested_end
    refine ⟨?_, ?_, rfl, Outcome.mapError_eq_ok.mp hstored⟩
    · exact { hfields with }
    · exact
        { name := htrim name
          notes := htrim notes
          start := ⟨first, hfields.start.trans hfirst⟩
          end_ := ⟨last, hfields.end_.trans hlast⟩
          parameters := hdistinct (nodup_parameters_json _) hfields.parameters
          cost_model := hdistinct (nodup_cost_model_as_dict _) hfields.cost_model
          backtest_config := hdistinct (nodup_config_as_dict _) hfields.backtest_config
          result := by
            show kept'.Result.Distinct
            rw [hresult]
            exact Go.distinct_of_unmarshal rendered hdecode }

/-- The window of a series is one that the store admits: its dates can be read,
    and the end is not before the start. -/
theorem window_of_answers {input : DateInput} (hinput : ReadsIsoDates input)
    {symbol start end_ interval : String} {series : PriceSeries}
    (hanswers : Answers symbol start end_ interval series) :
    ∃ first last, input series.provenance.requested_start = some first ∧
      input series.provenance.requested_end = some last ∧ ¬ last.Before first := by
  obtain ⟨first, -, hfirst⟩ := hanswers.requested_start
  obtain ⟨last, -, hlast⟩ := hanswers.requested_end
  refine ⟨first, last, by rw [hfirst, hinput], by rw [hlast, hinput], fun hbefore => ?_⟩
  apply hanswers.ordered
  rw [hfirst, hlast]
  exact Python.Date.isoformat_lt hbefore

/-- Nothing but a taken identity or a NUL keeps a result from being saved. -/
theorem exists_save_of_result {input : DateInput} (hinput : ReadsIsoDates input)
    {experiments : Experiments} {id name notes symbol start end_ interval : String} {now : Time}
    {rendered : Json} {experiment_id : Option String}
    (hrender : render (build_result engine.digest engine.code_version run experiment_id)
      = .ok rendered)
    (hanswers : Answers symbol start end_ interval run.series)
    (hfree : rendered.nul_free = true) (hid : '\x00' ∉ id.toList) (hname : '\x00' ∉ name.toList)
    (hnotes : '\x00' ∉ notes.toList) (hnew : experiments.get? id = none) :
    ∃ experiments' original,
      Save input experiments id now name notes rendered = .ok (experiments', original) := by
  have hcompliant := compliant_of_render hrender
  obtain rfl := rendered_eq hrender
  obtain ⟨document, hdocument⟩ := Go.exists_unmarshal_of_compliant _ hcompliant
  obtain ⟨kept, hkept, hresult, hfields⟩ := experimentFromResult_of_returned
    ⟨experiment_id, _, hrender, hdocument⟩ hanswers
  -- Every text that is stored is a text of the result.
  have hpart : ∀ key value,
      (key, value) ∈ result_fields engine.digest engine.code_version run experiment_id →
      value.nul_free = true := fun key value hmem => (nul_free_fields_iff.mp hfree _ hmem).2
  have htext : ∀ key s,
      (key, Json.str s) ∈ result_fields engine.digest engine.code_version run experiment_id →
      '\x00' ∉ s.toList := fun key s hmem => of_decide_eq_true (hpart key _ hmem)
  have hobject : ∀ key {fields : List (String × Json)} {entries : Go.Map},
      (key, Json.obj fields) ∈ result_fields engine.digest engine.code_version run experiment_id →
      Go.unmarshal_fields fields = some entries →
      (Go.marshal (.map entries)).nul_free = true := fun key fields entries hmem h =>
    nul_free_of_unmarshal_fields fields (hpart key _ hmem) h
  have htrim : ∀ s : String, '\x00' ∉ s.toList → '\x00' ∉ (Go.TrimSpace s).toList :=
    fun s h hmem => h (Text.mem_of_mem_trim hmem)
  obtain ⟨first, last, hfirst, hlast, horder⟩ := window_of_answers hinput hanswers
  have hstart : input kept.Start = some first := hfields.start.symm ▸ hfirst
  have hend : input kept.End = some last := hfields.end_.symm ▸ hlast
  have hcode : '\x00' ∉ kept.CodeVersion.toList := by
    rw [hfields.code_version, orDefault]
    split_ifs
    · decide
    · exact htext "code_version" _ (by simp [result_fields])
  have hadmits : postgres.Admits input (kept.named id now name notes) :=
    { id := hid
      name := htrim name hname
      notes := htrim notes hnotes
      strategy := hfields.strategy ▸ htext "strategy" _ (by simp [result_fields])
      parameters := hobject "parameters" (by simp [result_fields]) hfields.parameters
      symbol := hfields.symbol ▸ htext "symbol" _ (by simp [result_fields])
      interval := hfields.interval ▸ htext "interval" _ (by simp [result_fields])
      window := ⟨first, last, hstart, hend, horder⟩
      cost_model := hobject "cost_model" (by simp [result_fields]) hfields.cost_model
      backtest_config :=
        hobject "backtest_config" (by simp [result_fields]) hfields.backtest_config
      data_version := hfields.data_version ▸ htext "data_version" _ (by simp [result_fields])
      code_version := hcode
      contract_version := by
        show -2147483648 ≤ kept.ContractVersion ∧ kept.ContractVersion < 2147483648
        rw [hfields.contract_version, RESULT_CONTRACT_VERSION]
        omega
      result := by
        show (Go.marshal kept.Result).nul_free = true
        rw [hresult]
        exact nul_free_of_unmarshal _ hfree hdocument }
  obtain ⟨experiments', hsave⟩ := postgres.exists_save hadmits hnew
  refine ⟨experiments', kept.named id now name notes, Outcome.bind_eq_ok.mpr ⟨kept, ?_, ?_⟩⟩
  · rw [experimentFromRaw, hdocument]
    exact hkept
  · exact Outcome.bind_eq_ok.mpr ⟨experiments', Outcome.mapError_eq_ok.mpr hsave, rfl⟩

/-- The engine answers the replay with a result of the same run, and both bodies
    ask for the same backtest. -/
theorem replay_accepted {body rendered : Json} {payload : BacktestRequest}
    {config : BacktestConfig} (hpayload : BacktestRequest.parse number_text body = .ok payload)
    (hconfig : build_config payload = .ok config)
    (hrun : run_backtest_for_symbol engine.rt provider (payload.run_request config) = .ok run)
    (hrender : render (build_result engine.digest engine.code_version run payload.experiment_id)
      = .ok rendered)
    (hkept : Kept engine run original) :
    (∃ resolved, resolve engine.rt number_text body = .ok resolved ∧
      resolve engine.rt number_text (rerunRequest original).marshal = .ok resolved) ∧
    ∃ rerun document,
      run_backtest_endpoint engine number_text provider (rerunRequest original).marshal
        = .ok rerun ∧
      Go.unmarshal rerun = some document ∧ Returned engine run document := by
  obtain ⟨pair, hprices, hcreate, hpair, hbacktest⟩ := run_backtest_for_symbol_eq_ok hrun
  have hanswers := answers_of_load_prices hprices
  have hrun_config : run.config = config := (run_backtest_eq_ok hbacktest).2.2
  obtain ⟨first, hstart, hfirst⟩ := hanswers.requested_start
  obtain ⟨last, hend, hlast⟩ := hanswers.requested_end
  have hsupported : run.series.interval ∈ SUPPORTED_INTERVALS :=
    hanswers.interval_eq ▸ hanswers.supported
  -- The replay, as the engine reads it.
  obtain ⟨payload', hpayload', hconfig', hsymbol, hstrategy, hstart', hend', hinterval,
    hparameters⟩ := parse_replay number_text run.series.symbol run.strategy.name
      run.series.provenance.requested_start run.series.provenance.requested_end original.ID
      original.Parameters hsupported (hrun_config ▸ withinLimits_of_build_config hconfig)
  rw [← rerunRequest_eq hkept hsupported] at hpayload'
  have hfirst' : Python.Date.fromisoformat payload'.start = some first := by
    rw [hstart', hfirst, Python.Date.fromisoformat_isoformat]
  have hlast' : Python.Date.fromisoformat payload'.end_ = some last := by
    rw [hend', hlast, Python.Date.fromisoformat_isoformat]
  have hcreate' : RegisteredStrategy.create engine.rt payload'.strategy payload'.parameters
      = .ok run.strategy := by
    rw [hstrategy, hparameters]
    exact RegisteredStrategy.create_of_report (report_of_unmarshal hkept.parameters)
  have hsame_symbol : payload'.symbol = payload.symbol := hsymbol.trans hanswers.symbol_eq
  have hsame_interval : payload'.interval.1 = payload.interval.1 :=
    hinterval.trans hanswers.interval_eq
  have hrun' : run_backtest_for_symbol engine.rt provider (payload'.run_request run.config)
      = .ok run := by
    rw [← hrun]
    exact run_backtest_for_symbol_congr hsame_symbol hsame_interval hstart hfirst' hend hlast'
      (hcreate'.trans hcreate.symm) hrun_config
  -- Its result differs in the identity of the experiment only.
  have hcompliant : (build_result engine.digest engine.code_version run
      payload'.experiment_id).compliant = true := by
    have hcompliant := compliant_of_render hrender
    rw [compliant_build_result] at hcompliant ⊢
    exact hcompliant
  have hrender' : render (build_result engine.digest engine.code_version run
      payload'.experiment_id) = .ok (build_result engine.digest engine.code_version run
      payload'.experiment_id) := by
    rw [render, if_pos hcompliant]
  obtain ⟨document, hdocument⟩ := Go.exists_unmarshal_of_compliant _ hcompliant
  refine ⟨⟨_, resolve_eq_ok hpayload hconfig hcreate hstart hend, ?_⟩, _, document,
    run_backtest_endpoint_eq_ok.mpr ⟨payload', run.config, run, hpayload', hconfig', hrun',
      hrender'⟩, hdocument, payload'.experiment_id, _, hrender', hdocument⟩
  rw [resolve_eq_ok hpayload' hconfig' hcreate' hfirst' hlast', hsame_symbol, hsame_interval,
    hrun_config]

end Rerun

/-! ## The round trip -/

/-- **Main theorem**: an accepted request, saved and rerun. The result can be
    saved; while its row stays as it is, a rerun asks the engine for the same
    instrument, strategy, window, interval and configuration, and reproduces it
    without a difference. -/
theorem rerun_reproduces (engine : Engine) (number_text : NumberText) (provider : PriceProvider)
    (input : DateInput) (hinput : ReadsIsoDates input) (body rendered : Json)
    (haccepted : run_backtest_endpoint engine number_text provider body = .ok rendered)
    (experiments : Experiments) (id : String) (now : Time) (name notes : String) :
    (rendered.nul_free = true → '\x00' ∉ id.toList → '\x00' ∉ name.toList →
      '\x00' ∉ notes.toList → experiments.get? id = none →
      ∃ experiments' original,
        Save input experiments id now name notes rendered = .ok (experiments', original)) ∧
    ∀ experiments' original later,
      Save input experiments id now name notes rendered = .ok (experiments', original) →
      later.get? id = experiments'.get? id →
      postgres.Get later id = .ok (postgres.stored original) ∧
      (∃ resolved, resolve engine.rt number_text body = .ok resolved ∧
        resolve engine.rt number_text (rerunRequest original).marshal = .ok resolved) ∧
      ∃ outcome, Rerun (deployed engine number_text provider) later id = .ok outcome ∧
        outcome.Reproducible = true ∧ outcome.Differences = [] := by
  obtain ⟨payload, config, run, hpayload, hconfig, hrun, hrender⟩ :=
    run_backtest_endpoint_eq_ok.mp haccepted
  obtain ⟨pair, hprices, -⟩ := run_backtest_for_symbol_eq_ok hrun
  have hanswers := answers_of_load_prices hprices
  refine ⟨fun hfree hid hname hnotes hnew =>
    exists_save_of_result hinput hrender hanswers hfree hid hname hnotes hnew, ?_⟩
  intro experiments' original later hsave hlater
  obtain ⟨hkept, hstorable, rfl, hstored⟩ := kept_of_save hrender hanswers hsave
  have hget := postgres.get_of_save hinput hstorable hstored hlater
  obtain ⟨hresolve, rerun, document, hrerun, hdecode, hreturned⟩ :=
    replay_accepted hpayload hconfig hrun hrender hkept
  refine ⟨hget, hresolve, compareRuns original document, ?_,
    compareRuns_reproducible hkept hreturned⟩
  refine Outcome.bind_eq_ok.mpr
    ⟨postgres.stored original, Outcome.mapError_eq_ok.mpr hget, ?_⟩
  refine Outcome.bind_eq_ok.mpr ⟨rerun, Outcome.mapError_eq_ok.mpr hrerun, ?_⟩
  rw [hdecode]
  rfl

/-! ## A request of zeros -/

/-- Zero costs, a zero rate and a false flag: what a request leaves out. -/
def frictionless_body : Json :=
  .obj
    [("symbol", .str "INFY.NS"), ("strategy", .str "macd"), ("start", .str "20240101"),
      ("end", .str "2024-01-13"),
      ("parameters", .obj [("fast", .int 2), ("slow", .float (.num 3)), ("signal", .int 2)]),
      ("initial_cash", .int 1000),
      ("cost_model", .obj [("commission_bps", .int 0), ("slippage_bps", .int 0),
        ("spread_bps", .float (.num (1 / 2)))]),
      ("execution_model", .str "next_bar_close"), ("allow_short", .bool true),
      ("liquidate_at_end", .bool false), ("risk_free_rate", .int 0)]

/-- An engine that hashes one series only. -/
def small_engine : Engine := ⟨small_runtime, fun _ => "9f86d081884c7d65", "dev"⟩

/-- No text of the request is read as a number. -/
def no_number : NumberText := fun _ => none

theorem frictionless_run :
    ((run_backtest_endpoint small_engine no_number parting_leg frictionless_body).toOption.any
      fun rendered => rendered.nul_free) = true := by
  decide +kernel

theorem rerun_reproduces_frictionless :
    ∃ rendered experiments' original outcome,
      run_backtest_endpoint small_engine no_number parting_leg frictionless_body = .ok rendered ∧
      Save Python.Date.fromisoformat ∅ "exp_1" 1718000000123456789 "No costs" "" rendered
        = .ok (experiments', original) ∧
      Rerun (deployed small_engine no_number parting_leg) experiments' "exp_1" = .ok outcome ∧
      outcome.Reproducible = true ∧ outcome.Differences = [] := by
  obtain ⟨rendered, haccepted, hfree⟩ := Outcome.exists_of_any frictionless_run
  obtain ⟨hsave, hrerun⟩ := rerun_reproduces small_engine no_number parting_leg
    Python.Date.fromisoformat Python.Date.fromisoformat_isoformat frictionless_body rendered
    haccepted ∅ "exp_1" 1718000000123456789 "No costs" ""
  obtain ⟨experiments', original, hsaved⟩ :=
    hsave hfree (by decide) (by decide) (by decide) rfl
  obtain ⟨-, -, outcome, hout, hreproducible, hnone⟩ :=
    hrerun experiments' original experiments' hsaved rfl
  exact ⟨rendered, experiments', original, outcome, haccepted, hsaved, hout, hreproducible, hnone⟩

end Quantora
