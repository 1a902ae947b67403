import Quantora.Api.Backtest
import Quantora.Api.Posted

/-! # Costs that a request leaves out

    A client may state some of the four costs and leave out the others. The
    engine's own model fills in its defaults. Through the API the object passes a
    struct whose fields are always written, so what was left out arrives as zero.

    * `PartialCosts` — some of the four costs, each with a valid value.
    * `costs_of_engine`, `posted_costs` — the costs that each way leads to: a given
      value is kept, any other is a default.
    * `engine_defaults_iff` — the two agree when every cost with a default other
      than zero is given. -/

namespace Quantora

open schemas

/-! ## Both ways -/

/-- The cost model that `_build_config` makes of a payload. -/
def CostModelPayload.cost_model (payload : CostModelPayload) : Except ApiError CostModel :=
  match non_negative_amount payload.commission_min with
  | some ⟨minimum, hminimum⟩ =>
    .ok
      { commission_bps := payload.commission_bps.1
        commission_min := minimum
        slippage_bps := payload.slippage_bps.1
        spread_bps := payload.spread_bps.1
        commission_bps_nonneg := payload.commission_bps.2.1
        commission_min_nonneg := hminimum
        slippage_bps_nonneg := payload.slippage_bps.2.1
        spread_bps_nonneg := payload.spread_bps.2.1 }
  | none => .error .unbounded_amount

theorem cost_model_of_build_config {payload : BacktestRequest} {config : BacktestConfig}
    (h : build_config payload = .ok config) :
    payload.cost_model.cost_model = .ok config.cost_model := by
  unfold build_config at h
  split at h
  · next hminimum =>
    obtain rfl := Except.ok.inj h
    simp only [CostModelPayload.cost_model, hminimum]
  · cases h

/-- The costs that the engine runs with when it is given the object itself. -/
def engine_costs (number_text : NumberText) (costs : Json) : Except ApiError CostModel := do
  let payload ← (CostModelPayload.parse number_text costs).mapError ApiError.invalid_body
  payload.cost_model

/-- The number of a JSON number, which some float is close to. -/
def json_number : Json → Option ℚ
  | .int n => if Python.too_large n then none else some n
  | .float (.num x) => some x
  | _ => none

theorem json_number_eq_some {value : Json} {x : ℚ} (h : json_number value = some x) :
    (∃ n : ℤ, value = .int n ∧ ¬ Python.too_large n ∧ x = n) ∨ value = .float (.num x) := by
  unfold json_number at h
  split at h
  · next n =>
    split_ifs at h with hlarge
    exact Or.inl ⟨n, rfl, hlarge, (Option.some.inj h).symm⟩
  · obtain rfl := Option.some.inj h
    exact Or.inr rfl
  · cases h

theorem json_number_short {n : ℤ} (h : n.natAbs < 10 ^ 21) : json_number (.int n) = some ↑n := by
  rw [json_number, if_neg (Python.not_too_large h)]

/-- Some of the four costs, each once and with a valid value. -/
structure PartialCosts (costs : List (String × Json)) : Prop where
  keys : (costs.map Prod.fst).Nodup
  names : ∀ field ∈ costs,
    field.1 ∈ ["commission_bps", "commission_min", "slippage_bps", "spread_bps"]
  values : ∀ field ∈ costs, ∃ x, json_number field.2 = some x ∧ 0 ≤ x ∧
    (field.1 ≠ "commission_min" → x ≤ 1000)

/-- The value given for a cost, or a default. -/
def cost_or (costs : List (String × Json)) (name : String) (default : ℚ) : ℚ :=
  ((given costs name).bind json_number).getD default

section Costs

variable {costs : List (String × Json)} {name : String}

theorem given_of_mem (hkeys : (costs.map Prod.fst).Nodup) {value : Json}
    (hmem : (name, value) ∈ costs) : given costs name = some value := by
  induction costs with
  | nil => cases hmem
  | cons field costs ih =>
    obtain ⟨hnew, hrest⟩ := List.nodup_cons.mp hkeys
    rw [given_cons]
    rcases List.mem_cons.mp hmem with rfl | hlater
    · rw [if_pos rfl]
    · have hne : field.1 ≠ name := by
        rintro rfl
        exact hnew (List.mem_map.mpr ⟨_, hlater, rfl⟩)
      rw [if_neg hne]
      exact ih hrest hlater

theorem mem_of_given {value : Json} (h : given costs name = some value) :
    (name, value) ∈ costs := by
  obtain ⟨field, hfield, rfl⟩ := Option.map_eq_some_iff.mp h
  have hname : field.1 = name := by simpa using List.find?_some hfield
  rw [← hname]
  exact List.mem_of_find?_eq_some hfield

theorem given_of_absent (h : ∀ field ∈ costs, field.1 ≠ name) : given costs name = none := by
  rw [given, Option.map_eq_none_iff, List.find?_eq_none]
  intro field hfield heq
  exact h field hfield (of_decide_eq_true heq)

/-- A cost that is given has a valid value; one that is not has its default. -/
theorem PartialCosts.cost_cases (h : PartialCosts costs) (name : String) :
    (given costs name = none ∧ ∀ default, cost_or costs name default = default) ∨
      ∃ value x, given costs name = some value ∧ json_number value = some x ∧ 0 ≤ x ∧
        (name ≠ "commission_min" → x ≤ 1000) ∧ ∀ default, cost_or costs name default = x := by
  cases hgiven : given costs name with
  | none => exact Or.inl ⟨rfl, fun default => by simp [cost_or, hgiven]⟩
  | some value =>
    obtain ⟨x, hx, hnonneg, hle⟩ := h.values _ (mem_of_given hgiven)
    exact Or.inr ⟨value, x, rfl, hx, hnonneg, hle, fun default => by simp [cost_or, hgiven, hx]⟩

theorem PartialCosts.cost_or_bounds (h : PartialCosts costs) (name : String) {default : ℚ}
    (hdefault : 0 ≤ default ∧ default ≤ 1000) :
    0 ≤ cost_or costs name default ∧
      (name ≠ "commission_min" → cost_or costs name default ≤ 1000) := by
  rcases h.cost_cases name with ⟨-, heq⟩ | ⟨value, x, -, -, hnonneg, hle, heq⟩
  · rw [heq]
    exact ⟨hdefault.1, fun _ => hdefault.2⟩
  · rw [heq]
    exact ⟨hnonneg, hle⟩

/-- Two defaults make no difference exactly where the cost is given. -/
theorem PartialCosts.cost_or_eq_iff (h : PartialCosts costs) (name : String) {a b : ℚ}
    (hne : a ≠ b) : cost_or costs name a = cost_or costs name b ↔ (given costs name).isSome := by
  rcases h.cost_cases name with ⟨hnone, heq⟩ | ⟨value, x, hsome, -, -, -, heq⟩
  · simp [heq, hnone, hne]
  · simp [heq, hsome]

end Costs

/-! ## What the engine makes of the object -/

section Engine

variable {costs : List (String × Json)}

theorem number_of_json_number (number_text : NumberText) {value : Json} {x : ℚ}
    (h : json_number value = some x) : schemas.number number_text value = some (.num x) := by
  rcases json_number_eq_some h with ⟨n, rfl, hlarge, rfl⟩ | rfl
  · rw [schemas.number, if_neg hlarge]
  · rfl

theorem basis_points_field (number_text : NumberText) (h : PartialCosts costs) (name : String)
    (hname : name ≠ "commission_min") (default : {x : ℚ // 0 ≤ x ∧ x ≤ 1000}) :
    ∃ hbounds, optional_field costs name default (basis_points number_text)
      = .ok ⟨cost_or costs name default.1, hbounds⟩ := by
  rcases h.cost_cases name with ⟨hnone, heq⟩ | ⟨value, x, hsome, hx, hnonneg, hle, heq⟩
  · rw [heq]
    exact ⟨default.2, optional_field_eq_default hnone⟩
  · rw [heq]
    refine ⟨⟨hnonneg, hle hname⟩, optional_field_eq hsome ?_⟩
    simp only [basis_points, here, number_of_json_number number_text hx, Option.bind_some,
      between_num ⟨hnonneg, hle hname⟩]

theorem minimum_field (number_text : NumberText) (h : PartialCosts costs) :
    ∃ hnonneg, optional_field costs "commission_min"
        (⟨.num 0, rfl⟩ : {x : Python.Float // (Python.Float.num 0).le x})
        (here fun value => (schemas.number number_text value).bind non_negative)
      = .ok ⟨.num (cost_or costs "commission_min" 0), hnonneg⟩ := by
  rcases h.cost_cases "commission_min" with
    ⟨hnone, heq⟩ | ⟨value, x, hsome, hx, hnonneg, -, heq⟩
  · rw [heq]
    exact ⟨rfl, optional_field_eq_default hnone⟩
  · rw [heq]
    have hle : (Python.Float.num 0).le (.num x) = true := decide_eq_true hnonneg
    refine ⟨hle, optional_field_eq hsome ?_⟩
    simp only [here, number_of_json_number number_text hx, Option.bind_some, non_negative,
      dif_pos hle]

/-- **Direct**: what is left out takes the documented default. -/
theorem costs_of_engine (number_text : NumberText) (h : PartialCosts costs) :
    ∃ direct, engine_costs number_text (.obj costs) = .ok direct ∧
      direct.commission_bps = cost_or costs "commission_bps" 3 ∧
      direct.commission_min = cost_or costs "commission_min" 0 ∧
      direct.slippage_bps = cost_or costs "slippage_bps" 5 ∧
      direct.spread_bps = cost_or costs "spread_bps" 2 := by
  obtain ⟨hc, hcommission⟩ := basis_points_field number_text h "commission_bps" (by decide)
    ({} : CostModelPayload).commission_bps
  obtain ⟨hs, hslippage⟩ := basis_points_field number_text h "slippage_bps" (by decide)
    ({} : CostModelPayload).slippage_bps
  obtain ⟨hp, hspread⟩ := basis_points_field number_text h "spread_bps" (by decide)
    ({} : CostModelPayload).spread_bps
  obtain ⟨hm, hminimum⟩ := minimum_field number_text h
  -- The payload holds what each field was parsed to.
  have hparse : CostModelPayload.parse number_text (.obj costs)
      = .ok ⟨⟨_, hc⟩, ⟨_, hm⟩, ⟨_, hs⟩, ⟨_, hp⟩⟩ := by
    simp only [CostModelPayload.parse]
    rw [hcommission, hminimum, hslippage, hspread]
    rfl
  refine ⟨⟨cost_or costs "commission_bps" 3, cost_or costs "commission_min" 0,
    cost_or costs "slippage_bps" 5, cost_or costs "spread_bps" 2, hc.1, of_decide_eq_true hm,
    hs.1, hp.1⟩, ?_, rfl, rfl, rfl, rfl⟩
  rw [engine_costs, hparse]
  rfl

end Engine

/-! ## What the API makes of it -/

section Api

variable {costs : List (String × Json)} {m : quant.CostModel}

/-- Decoding one field of a cost model changes that field, to the number it is
    given. -/
structure DecodesCost (get : quant.CostModel → ℚ) (name : String) : Prop where
  zero : get quant.CostModel.zero = 0
  other : ∀ t key value t', quant.CostModel.decode_field t (key, value) = some t' →
    key ≠ name → get t' = get t
  same : ∀ t value t' x, json_number value = some x →
    quant.CostModel.decode_field t (name, value) = some t' → get t' = x

theorem decode_float64_of_json_number {value : Json} {x : ℚ} (h : json_number value = some x)
    (current : ℚ) : Go.decode_float64 current value = some x := by
  rcases json_number_eq_some h with ⟨n, rfl, hlarge, rfl⟩ | rfl
  · rw [Go.decode_float64, if_neg hlarge]
  · rfl

/-- The fields of the struct. -/
inductive CostField where
  | commission_bps
  | commission_min
  | slippage_bps
  | spread_bps

namespace CostField

/-- The tag of a field. -/
def tag : CostField → String
  | commission_bps => "commission_bps"
  | commission_min => "commission_min"
  | slippage_bps => "slippage_bps"
  | spread_bps => "spread_bps"

def get : CostField → quant.CostModel → ℚ
  | commission_bps, m => m.CommissionBps
  | commission_min, m => m.CommissionMin
  | slippage_bps, m => m.SlippageBps
  | spread_bps, m => m.SpreadBps

def set : CostField → quant.CostModel → ℚ → quant.CostModel
  | commission_bps, m, x => { m with CommissionBps := x }
  | commission_min, m, x => { m with CommissionMin := x }
  | slippage_bps, m, x => { m with SlippageBps := x }
  | spread_bps, m, x => { m with SpreadBps := x }

theorem get_set (field : CostField) (m : quant.CostModel) (x : ℚ) :
    field.get (field.set m x) = x := by
  cases field <;> rfl

theorem get_set_of_ne {field other : CostField} (h : field ≠ other) (m : quant.CostModel) (x : ℚ) :
    field.get (other.set m x) = field.get m := by
  cases field <;> cases other <;> first | rfl | exact absurd rfl h

/-- The branch of a field. -/
theorem decode_field_tag (field : CostField) (t : quant.CostModel) (value : Json) :
    quant.CostModel.decode_field t (field.tag, value)
      = (Go.decode_float64 (field.get t) value).map (field.set t) := by
  cases field <;> rfl

end CostField

/-- There are no other branches: one field of the object sets one field of the
    struct. -/
theorem decode_field_cases {t t' : quant.CostModel} {key : String} {value : Json}
    (h : quant.CostModel.decode_field t (key, value) = some t') :
    ∃ field : CostField, key = field.tag ∧ ∃ x, t' = field.set t x := by
  -- One branch for each tag, and one for any other key.
  unfold quant.CostModel.decode_field at h
  split at h
  · next heq =>
    obtain ⟨x, -, rfl⟩ := Option.map_eq_some_iff.mp h
    exact ⟨.commission_bps, (Prod.mk.inj heq).1, x, rfl⟩
  · next heq =>
    obtain ⟨x, -, rfl⟩ := Option.map_eq_some_iff.mp h
    exact ⟨.commission_min, (Prod.mk.inj heq).1, x, rfl⟩
  · next heq =>
    obtain ⟨x, -, rfl⟩ := Option.map_eq_some_iff.mp h
    exact ⟨.slippage_bps, (Prod.mk.inj heq).1, x, rfl⟩
  · next heq =>
    obtain ⟨x, -, rfl⟩ := Option.map_eq_some_iff.mp h
    exact ⟨.spread_bps, (Prod.mk.inj heq).1, x, rfl⟩
  · cases h

theorem decodes_cost (field : CostField) : DecodesCost field.get field.tag := by
  refine ⟨by cases field <;> rfl, ?_, ?_⟩
  · intro t key value t' h hne
    obtain ⟨other, rfl, x, rfl⟩ := decode_field_cases h
    have hfield : field ≠ other := by
      rintro rfl
      exact hne rfl
    exact CostField.get_set_of_ne hfield t x
  · intro t value t' x hx h
    rw [field.decode_field_tag, decode_float64_of_json_number hx] at h
    rw [← Option.some.inj h]
    exact field.get_set t x

/-- **The struct rule**: a decoded cost is the one that is given, or zero. -/
theorem DecodesCost.decoded {get : quant.CostModel → ℚ} {name : String}
    (hdecodes : DecodesCost get name) (h : PartialCosts costs)
    (hdecode : Go.decode_struct quant.CostModel.decode_field quant.CostModel.zero (.obj costs)
      = some m) : get m = cost_or costs name 0 := by
  rcases Go.decode_struct_field hdecodes.other h.keys hdecode with
    ⟨habsent, hget⟩ | ⟨value, t, t', hmem, -, hfield, hget⟩
  · rw [hget, hdecodes.zero, cost_or, given_of_absent habsent]
    rfl
  · obtain ⟨x, hx, -⟩ := h.values _ hmem
    rw [hget, hdecodes.same t value t' x hx hfield, cost_or, given_of_mem h.keys hmem,
      Option.bind_some, hx, Option.getD_some]

/-- Decoding one field of a request changes its costs only under their name. -/
theorem request_costs_of_other (t : backtest.Request) (key : String) (value : Json)
    (t' : backtest.Request) (h : backtest.Request.decode_field t (key, value) = some t')
    (hne : key ≠ "cost_model") : t'.CostModel = t.CostModel := by
  unfold backtest.Request.decode_field at h
  split at h
  case h_8 heq => exact absurd (Prod.mk.inj heq).1 hne
  case h_13 => cases h
  all_goals
    obtain ⟨x, -, rfl⟩ := Option.map_eq_some_iff.mp h
    rfl

/-- The costs of a decoded request are the decoded costs. -/
theorem costs_of_request {fields : List (String × Json)} {r : backtest.Request}
    (hkeys : (fields.map Prod.fst).Nodup) (hcosts : given fields "cost_model" = some (.obj costs))
    (h : backtest.Request.decode (.obj fields) = some r) :
    ∃ m, r.CostModel = some m ∧
      Go.decode_struct quant.CostModel.decode_field quant.CostModel.zero (.obj costs)
        = some m := by
  have hmem := mem_of_given hcosts
  rcases Go.decode_struct_field request_costs_of_other hkeys h with
    ⟨habsent, -⟩ | ⟨value, t, t', hvalue, ht, hfield, hget⟩
  · exact absurd rfl (habsent _ hmem)
  · -- The one field of that name is the object.
    obtain rfl : value = .obj costs :=
      Option.some.inj ((given_of_mem hkeys hvalue).symm.trans hcosts)
    obtain ⟨decoded, hdecoded, rfl⟩ := Option.map_eq_some_iff.mp hfield
    rw [ht] at hdecoded
    obtain ⟨m, hm, rfl⟩ := Option.map_eq_some_iff.mp hdecoded
    exact ⟨m, hget, hm⟩

end Api

/-! ## What the engine makes of the posted request -/

section Posted

variable {number_text : NumberText} {m : quant.CostModel}

/-- The costs of a valid body are those of its field. -/
theorem cost_model_of_parse {fields : List (String × Json)} {payload : BacktestRequest}
    (h : BacktestRequest.parse number_text (.obj fields) = .ok payload) :
    ∃ default, optional_field fields "cost_model" default (CostModelPayload.parse number_text)
      = .ok payload.cost_model := by
  -- The eighth field is the cost model; the others are not looked at.
  unfold BacktestRequest.parse at h
  obtain ⟨_, -, h⟩ := Outcome.bind_eq_ok.mp h
  obtain ⟨_, -, h⟩ := Outcome.bind_eq_ok.mp h
  obtain ⟨_, -, h⟩ := Outcome.bind_eq_ok.mp h
  obtain ⟨_, -, h⟩ := Outcome.bind_eq_ok.mp h
  obtain ⟨_, -, h⟩ := Outcome.bind_eq_ok.mp h
  obtain ⟨_, -, h⟩ := Outcome.bind_eq_ok.mp h
  obtain ⟨_, -, h⟩ := Outcome.bind_eq_ok.mp h
  obtain ⟨cost_model, hcosts, h⟩ := Outcome.bind_eq_ok.mp h
  obtain ⟨_, -, h⟩ := Outcome.bind_eq_ok.mp h
  obtain ⟨_, -, h⟩ := Outcome.bind_eq_ok.mp h
  obtain ⟨_, -, h⟩ := Outcome.bind_eq_ok.mp h
  obtain ⟨_, -, h⟩ := Outcome.bind_eq_ok.mp h
  obtain ⟨_, -, h⟩ := Outcome.bind_eq_ok.mp h
  obtain rfl := Except.ok.inj h
  exact ⟨_, hcosts⟩

/-- A cost model within the limits is read and built as it is. -/
theorem parse_posted_costs (number_text : NumberText) (sent : CostModel) (h : sent.WithinLimits)
    (payload : CostModelPayload)
    (hparse : CostModelPayload.parse number_text (.obj (quant.CostModel.fields
      ⟨sent.commission_bps, sent.commission_min, sent.slippage_bps, sent.spread_bps⟩))
        = .ok payload) : payload.cost_model = .ok sent := by
  obtain rfl := Except.ok.inj ((parse_cost_model sent h).symm.trans hparse)
  rfl

/-- The configuration of a posted request has the costs that were decoded. -/
theorem posted_costs {r : backtest.Request} {id : String} {config : BacktestConfig}
    {costs : List (String × Json)} (h : PartialCosts costs) (hcosts : r.CostModel = some m)
    (hdecode : Go.decode_struct quant.CostModel.decode_field quant.CostModel.zero (.obj costs)
      = some m)
    (hconfig : (validate_body number_text (r.posted id).marshal >>= build_config) = .ok config) :
    config.cost_model.commission_bps = cost_or costs "commission_bps" 0 ∧
      config.cost_model.commission_min = cost_or costs "commission_min" 0 ∧
      config.cost_model.slippage_bps = cost_or costs "slippage_bps" 0 ∧
      config.cost_model.spread_bps = cost_or costs "spread_bps" 0 := by
  have hzero : (0 : ℚ) ≤ 0 ∧ (0 : ℚ) ≤ 1000 := by norm_num
  obtain ⟨hc, hc'⟩ := h.cost_or_bounds "commission_bps" hzero
  obtain ⟨hm, -⟩ := h.cost_or_bounds "commission_min" hzero
  obtain ⟨hs, hs'⟩ := h.cost_or_bounds "slippage_bps" hzero
  obtain ⟨hp, hp'⟩ := h.cost_or_bounds "spread_bps" hzero
  have hdecoded : ∀ field : CostField, field.get m = cost_or costs field.tag 0 :=
    fun field => (decodes_cost field).decoded h hdecode
  have hm_eq : m = ⟨cost_or costs "commission_bps" 0, cost_or costs "commission_min" 0,
      cost_or costs "slippage_bps" 0, cost_or costs "spread_bps" 0⟩ := by
    cases m
    exact (quant.CostModel.mk.injEq ..).mpr ⟨hdecoded .commission_bps, hdecoded .commission_min,
      hdecoded .slippage_bps, hdecoded .spread_bps⟩
  -- The posted object, read as a cost model of the engine.
  have hread := parse_posted_costs number_text
    ⟨cost_or costs "commission_bps" 0, cost_or costs "commission_min" 0,
      cost_or costs "slippage_bps" 0, cost_or costs "spread_bps" 0, hc, hm, hs, hp⟩
    ⟨hc' (by decide), hs' (by decide), hp' (by decide)⟩
  obtain ⟨payload, hpayload, hbuilt⟩ := Outcome.bind_eq_ok.mp hconfig
  obtain ⟨default, hparse⟩ := cost_model_of_parse (Outcome.mapError_eq_ok.mp hpayload)
  have hfield : given (quant.present (r.posted id).fields) "cost_model" = some (.obj m.fields) := by
    have hgiven := given_present (quant.BacktestRequest.nodup_fields (r.posted id)) "cost_model" rfl
    rw [hgiven]
    show r.CostModel.map (fun m => Json.obj m.fields) = some (.obj m.fields)
    rw [hcosts]
    rfl
  rw [optional_field, hfield] at hparse
  have hcosts_read := Outcome.mapError_eq_ok.mp hparse
  rw [hm_eq] at hcosts_read
  have hcost_model := cost_model_of_build_config hbuilt
  rw [hread _ hcosts_read] at hcost_model
  rw [← Except.ok.inj hcost_model]
  exact ⟨rfl, rfl, rfl, rfl⟩

end Posted

/-! ## Where the two agree -/

/-- Two cost models are equal when their costs are. -/
theorem CostModel.eq_iff {a b : CostModel} :
    a = b ↔ a.commission_bps = b.commission_bps ∧ a.commission_min = b.commission_min ∧
      a.slippage_bps = b.slippage_bps ∧ a.spread_bps = b.spread_bps := by
  constructor
  · rintro rfl
    exact ⟨rfl, rfl, rfl, rfl⟩
  · cases a
    cases b
    rintro ⟨hc, hm, hs, hp⟩
    congr

/-- **Omitted costs**: a request that states some of the costs runs with those that
    the engine itself would take, exactly if it states every cost but the
    minimum commission, whose default is zero. -/
theorem engine_defaults_iff {number_text : NumberText} {id : String} {config : BacktestConfig}
    {fields costs : List (String × Json)} (hkeys : (fields.map Prod.fst).Nodup)
    (hcosts : given fields "cost_model" = some (.obj costs)) (h : PartialCosts costs)
    (hposted : backtest.posted_config number_text id (.obj fields) = .ok config) :
    engine_costs number_text (.obj costs) = .ok config.cost_model ↔
      ∀ name ∈ ["commission_bps", "slippage_bps", "spread_bps"], (given costs name).isSome := by
  obtain ⟨r, haccept, hconfig⟩ := Outcome.bind_eq_ok.mp hposted
  have hdecode : backtest.Request.decode (.obj fields) = some r := by
    unfold backtest.accept at haccept
    cases hr : backtest.Request.decode (.obj fields) with
    | none =>
      rw [hr] at haccept
      cases haccept
    | some decoded =>
      rw [hr] at haccept
      cases hvalid : decoded.Validate with
      | some text =>
        simp only [hvalid] at haccept
        cases haccept
      | none =>
        simp only [hvalid] at haccept
        rw [Except.ok.inj haccept]
  obtain ⟨m, hm, hstruct⟩ := costs_of_request hkeys hcosts hdecode
  obtain ⟨hc, hmin, hs, hp⟩ := posted_costs h hm hstruct (Outcome.mapError_eq_ok.mp hconfig)
  obtain ⟨direct, hdirect, hc', hmin', hs', hp'⟩ := costs_of_engine number_text h
  -- Cost by cost: the defaults are 3, 0, 5 and 2 on one side, zero on the other.
  rw [hdirect, Except.ok.injEq, CostModel.eq_iff, hc, hmin, hs, hp, hc', hmin', hs', hp',
    h.cost_or_eq_iff "commission_bps" (by norm_num), h.cost_or_eq_iff "slippage_bps" (by norm_num),
    h.cost_or_eq_iff "spread_bps" (by norm_num)]
  simp

/-- A request for a run of `macd` with the given costs. -/
def macd_body (costs : List (String × Json)) : List (String × Json) :=
  [("symbol", .str "RELIANCE.NS"), ("strategy", .str "macd"), ("start", .str "2022-01-01"),
    ("end", .str "2024-12-31"), ("cost_model", .obj costs)]

/-- A client that states its commission trades without slippage and spread. -/
theorem partial_costs_lose_defaults :
    PartialCosts [("commission_bps", .int 10)] ∧
      ∃ config direct,
        backtest.posted_config (fun _ => none) "bt_1"
          (.obj (macd_body [("commission_bps", .int 10)])) = .ok config ∧
        engine_costs (fun _ => none) (.obj [("commission_bps", .int 10)]) = .ok direct ∧
        config.cost_model ≠ direct := by
  have hcosts : PartialCosts [("commission_bps", .int 10)] := by
    refine ⟨by decide, by decide, fun field hfield => ?_⟩
    obtain rfl := List.mem_singleton.mp hfield
    exact ⟨10, json_number_short (by decide), by norm_num, fun _ => by norm_num⟩
  obtain ⟨config, hconfig, hzero⟩ := Outcome.exists_of_any
    (x := backtest.posted_config (fun _ => none) "bt_1"
      (.obj (macd_body [("commission_bps", .int 10)])))
    (p := fun config => config.cost_model.slippage_bps = 0) (by decide +kernel)
  -- Direct, the slippage is 5; posted, it is 0.
  obtain ⟨direct, hdirect, -, -, hslippage, -⟩ := costs_of_engine (fun _ => none) hcosts
  refine ⟨hcosts, config, direct, hconfig, hdirect, fun heq => ?_⟩
  have hfive : cost_or [("commission_bps", .int 10)] "slippage_bps" 5 = 5 := rfl
  rw [← heq, of_decide_eq_true hzero, hfive] at hslippage
  norm_num at hslippage

/-- The equivalence at a request that leaves the minimum commission out. -/
theorem engine_defaults_iff_without_minimum :
    ∃ config,
      backtest.posted_config (fun _ => none) "bt_1" (.obj (macd_body
        [("commission_bps", .int 10), ("slippage_bps", .int 0), ("spread_bps", .int 1)]))
          = .ok config ∧
      (engine_costs (fun _ => none)
          (.obj [("commission_bps", .int 10), ("slippage_bps", .int 0), ("spread_bps", .int 1)])
            = .ok config.cost_model ↔
        ∀ name ∈ ["commission_bps", "slippage_bps", "spread_bps"],
          (given [("commission_bps", Json.int 10), ("slippage_bps", .int 0),
            ("spread_bps", .int 1)] name).isSome) := by
  have hcosts : PartialCosts
      [("commission_bps", .int 10), ("slippage_bps", .int 0), ("spread_bps", .int 1)] := by
    refine ⟨by decide, by decide, fun field hfield => ?_⟩
    simp only [List.mem_cons, List.not_mem_nil, or_false] at hfield
    rcases hfield with rfl | rfl | rfl
    · exact ⟨10, json_number_short (by decide), by norm_num, fun _ => by norm_num⟩
    · exact ⟨0, json_number_short (by decide), by norm_num, fun _ => by norm_num⟩
    · exact ⟨1, json_number_short (by decide), by norm_num, fun _ => by norm_num⟩
  obtain ⟨config, hconfig⟩ := Outcome.exists_eq_ok
    (x := backtest.posted_config (fun _ => none) "bt_1" (.obj (macd_body
      [("commission_bps", .int 10), ("slippage_bps", .int 0), ("spread_bps", .int 1)])))
    (by decide +kernel)
  have hkeys : ((macd_body [("commission_bps", .int 10), ("slippage_bps", .int 0),
      ("spread_bps", .int 1)]).map Prod.fst).Nodup := by
    decide
  exact ⟨config, hconfig, engine_defaults_iff hkeys rfl hcosts hconfig⟩

end Quantora
