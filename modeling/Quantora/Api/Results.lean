import Quantora.Api.Experiment
import Quantora.Backtest.Result

/-! # Results, as the services read them

    A result leaves the engine as a rendered document, and the services decode
    it: field by field it says what the run was, and it can always be kept as an
    experiment.

    * `Returned` — a decoded document is the result of a run.
    * `Returned.field` — one field of it; `string_field` and `map_field` follow.
    * `experimentFromResult_of_returned` — what is kept of it. -/

namespace Quantora

open experiment
open Go (Any)

/-- The services decoded the result of `run` as `document`. -/
def Returned (engine : Engine) (run : BacktestRun) (document : Any) : Prop :=
  ∃ experiment_id rendered,
    render (build_result engine.digest engine.code_version run experiment_id) = .ok rendered ∧
      Go.unmarshal rendered = some document

/-! ## Keys are distinct -/

theorem nodup_parameters_json (strategy : RegisteredStrategy) :
    ((parameters_json strategy).map Prod.fst).Nodup := by
  rw [parameters_json, List.map_map]
  cases strategy with
  | macd p =>
    change MACD.specs.Nodup
    decide +kernel
  | bollinger p =>
    change Bollinger.specs.Nodup
    decide +kernel
  | dual_thrust p =>
    change DualThrust.specs.Nodup
    decide +kernel
  | pair_trading p =>
    change PairTrading.specs.Nodup
    decide +kernel

theorem nodup_cost_model_as_dict (m : CostModel) : (m.as_dict.map Prod.fst).Nodup := by
  change ["commission_bps", "commission_min", "slippage_bps", "spread_bps"].Nodup
  decide +kernel

theorem nodup_config_as_dict (config : BacktestConfig) : (config.as_dict.map Prod.fst).Nodup := by
  change ["initial_cash", "cost_model", "execution_model", "allow_short", "liquidate_at_end",
    "risk_free_rate"].Nodup
  decide +kernel

/-! ## Fields -/

section Fields

variable {engine : Engine} {run : BacktestRun} {document : Any}

/-- A field of a decoded result is the decoded field of the result. -/
theorem Returned.field (h : Returned engine run document) (name : String) {value : Json}
    (hvalue : ∀ experiment_id,
      (result_fields engine.digest engine.code_version run experiment_id).find?
        (fun field => field.1 = name) = some (name, value)) :
    ∃ decoded, Go.unmarshal value = some decoded ∧
      experiment.field document name = some decoded := by
  obtain ⟨experiment_id, rendered, hrender, hdecode⟩ := h
  rw [rendered_eq hrender, build_result] at hdecode
  obtain ⟨entries, rfl, hentries⟩ := Go.unmarshal_obj (nodup_result_fields _ _ _ _) hdecode
  have hfound := hvalue experiment_id
  obtain ⟨decoded, hdecoded⟩ := Go.exists_unmarshal_of_mem hentries
    (List.mem_of_find?_eq_some hfound)
  have hget := Go.get_unmarshal_fields hentries name
  rw [hfound] at hget
  exact ⟨decoded, hdecoded, hget.trans hdecoded⟩

theorem Returned.string_field (h : Returned engine run document) (name : String) {value : String}
    (hvalue : ∀ experiment_id,
      (result_fields engine.digest engine.code_version run experiment_id).find?
        (fun field => field.1 = name) = some (name, .str value)) :
    experiment.field document name = some (.string value) := by
  obtain ⟨decoded, hdecoded, hfield⟩ := h.field name hvalue
  obtain rfl := Option.some.inj hdecoded
  exact hfield

theorem Returned.map_field (h : Returned engine run document) (name : String)
    {fields : List (String × Json)} (hkeys : (fields.map Prod.fst).Nodup)
    (hvalue : ∀ experiment_id,
      (result_fields engine.digest engine.code_version run experiment_id).find?
        (fun field => field.1 = name) = some (name, .obj fields)) :
    ∃ entries, Go.unmarshal_fields fields = some entries ∧
      experiment.field document name = some (.map entries) := by
  obtain ⟨decoded, hdecoded, hfield⟩ := h.field name hvalue
  obtain ⟨entries, rfl, hentries⟩ := Go.unmarshal_obj hkeys hdecoded
  exact ⟨entries, hentries, hfield⟩

/-- The version that the services read off a result is the primary series'. -/
theorem Returned.version (h : Returned engine run document) :
    stringField document "data_version" = run.series.data_version engine.digest := by
  rw [stringField, h.string_field "data_version" (fun _ => rfl)]

/-- The metrics that the services read off a result are those of the run. -/
theorem Returned.metrics (h : Returned engine run document) :
    Go.unmarshal_fields run.metrics.as_dict = some (mapField document "metrics") := by
  obtain ⟨entries, hentries, hfield⟩ :=
    h.map_field "metrics" (nodup_metrics_as_dict _) (fun _ => rfl)
  rw [mapField, hfield, hentries]

/-! ## What is kept of a result -/

/-- The parts of a result that a rerun needs, as they are stored. -/
structure Kept (engine : Engine) (run : BacktestRun) (original : Experiment) : Prop where
  strategy : original.Strategy = run.strategy.name
  symbol : original.Symbol = run.series.symbol
  interval : original.Interval = run.series.interval
  start : original.Start = run.series.provenance.requested_start
  end_ : original.End = run.series.provenance.requested_end
  parameters : Go.unmarshal_fields (parameters_json run.strategy) = some original.Parameters
  cost_model : Go.unmarshal_fields run.config.cost_model.as_dict = some original.CostModel
  backtest_config : Go.unmarshal_fields run.config.as_dict = some original.BacktestConfig
  data_version : original.DataVersion = run.series.data_version engine.digest
  code_version : original.CodeVersion = orDefault engine.code_version "dev"
  contract_version : original.ContractVersion = RESULT_CONTRACT_VERSION
  metrics : Go.unmarshal_fields run.metrics.as_dict
    = some (mapField original.Result "metrics")

theorem orDefault_of_supported {interval : String} (h : interval ∈ SUPPORTED_INTERVALS)
    (fallback : String) : orDefault interval fallback = interval := by
  have hkept : ∀ i ∈ SUPPORTED_INTERVALS, Go.TrimSpace i ≠ "" := by decide +kernel
  rw [orDefault, if_neg (hkept interval h)]

theorem symbol_ne_empty {symbol : String} {instrument : Instrument}
    (h : get_instrument symbol = .ok instrument) : symbol ≠ "" := by
  rintro rfl
  have hunknown : get_instrument ""
      = .error (.UnknownSymbolError "" (INSTRUMENTS.map Instrument.symbol)) := by decide +kernel
  rw [hunknown] at h
  cases h

theorem isoformat_ne_empty (date : Python.Date) : date.isoformat ≠ "" := by
  intro h
  have hlist := congrArg String.toList h
  simp [Python.Date.isoformat, Python.Date.four_digits] at hlist

theorem data_version_ne_empty (digest : DataPayload → String) (series : PriceSeries) :
    series.data_version digest ≠ "" := by
  intro h
  have hlist := congrArg String.toList h
  simp [PriceSeries.data_version] at hlist

/-- **Main result**: the result of any run can be kept as an experiment. -/
theorem experimentFromResult_of_returned (h : Returned engine run document)
    {symbol start end_ interval : String}
    (hanswers : Answers symbol start end_ interval run.series) :
    ∃ original, experimentFromResult document = .ok original ∧ original.Result = document ∧
      Kept engine run original := by
  have hstrategy := h.string_field "strategy" (fun _ => rfl)
  have hsymbol := h.string_field "symbol" (fun _ => rfl)
  have hinterval := h.string_field "interval" (fun _ => rfl)
  have hstart := h.string_field "start" (fun _ => rfl)
  have hend := h.string_field "end" (fun _ => rfl)
  have hversion := h.string_field "data_version" (fun _ => rfl)
  have hcode := h.string_field "code_version" (fun _ => rfl)
  obtain ⟨parameters, hparameters, hparameters_field⟩ :=
    h.map_field "parameters" (nodup_parameters_json _) (fun _ => rfl)
  obtain ⟨costs, hcosts, hcosts_field⟩ :=
    h.map_field "cost_model" (nodup_cost_model_as_dict _) (fun _ => rfl)
  obtain ⟨config, hconfig, hconfig_field⟩ :=
    h.map_field "backtest_config" (nodup_config_as_dict _) (fun _ => rfl)
  obtain ⟨contract, hcontract, hcontract_field⟩ := h.field "contract_version" (fun _ => rfl)
  obtain rfl := Option.some.inj hcontract
  have hobject : ∃ entries, document = .map entries := by
    cases document with
    | map entries => exact ⟨entries, rfl⟩
    | nil => cases hstrategy
    | bool b => cases hstrategy
    | float64 x => cases hstrategy
    | string s => cases hstrategy
    | slice items => cases hstrategy
  have hreadable : readable document = true := by
    obtain ⟨entries, rfl⟩ := hobject
    simp only [readable, stringTyped, mapTyped, intTyped, List.all_cons, List.all_nil, hstrategy,
      hsymbol, hinterval, hstart, hend, hversion, hcode, hparameters_field, hcosts_field,
      hconfig_field, hcontract_field, Bool.and_true, Bool.true_and]
    decide
  have hname : run.strategy.name ≠ "" := by
    cases run.strategy <;> simp [RegisteredStrategy.name]
  obtain ⟨instrument, hknown⟩ := hanswers.known
  have hsymbol_ne : run.series.symbol ≠ "" := hanswers.symbol_eq ▸ symbol_ne_empty hknown
  obtain ⟨first, -, hfirst⟩ := hanswers.requested_start
  obtain ⟨last, -, hlast⟩ := hanswers.requested_end
  have hstart_ne : run.series.provenance.requested_start ≠ "" := hfirst ▸ isoformat_ne_empty first
  have hend_ne : run.series.provenance.requested_end ≠ "" := hlast ▸ isoformat_ne_empty last
  have hmissing : missingFields document = [] := by
    simp only [missingFields, stringField, hstrategy, hsymbol, hstart, hend, hversion, hname,
      hsymbol_ne, hstart_ne, hend_ne, data_version_ne_empty, or_self, if_false, List.append_nil]
  have hsupported : orDefault run.series.interval "1d" = run.series.interval :=
    orDefault_of_supported (hanswers.interval_eq ▸ hanswers.supported) _
  refine ⟨_, by
    rw [experimentFromResult, if_neg (by simp [hreadable]), if_neg (by simp [hmissing])], rfl, ?_⟩
  exact
    { strategy := by simp only [stringField, hstrategy]
      symbol := by simp only [stringField, hsymbol]
      interval := by simp only [stringField, hinterval, hsupported]
      start := by simp only [stringField, hstart]
      end_ := by simp only [stringField, hend]
      parameters := by simp only [mapField, hparameters_field, hparameters]
      cost_model := by simp only [mapField, hcosts_field, hcosts]
      backtest_config := by simp only [mapField, hconfig_field, hconfig]
      data_version := by simp only [stringField, hversion]
      code_version := by simp only [stringField, hcode]
      contract_version := by
        simp only [intField, hcontract_field]
        rfl
      metrics := h.metrics }

end Fields

end Quantora
