import Quantora.Api.QuantClient
import Quantora.Webapi.Routes

/-! # What the engine reads of a posted request

    The request models of the engine over a body that the client has written.

    * `given_present` — a field is found under its name, or left out.
    * `parse_cost_model` — a cost model within the limits is read as it is.
    * `optional_field_of_omitempty` — a field that is left out when it is empty
      takes the default of the model. -/

namespace Quantora

section Posted

variable {number_text : NumberText}

/-- Induction over the fields: a name is looked up in the body as it is in the
    request. -/
theorem given_present {fields : List (String × Option Json)} (h : (fields.map Prod.fst).Nodup)
    (name : String) {value : Option Json}
    (hvalue : fields.find? (fun field => field.1 = name) = some (name, value)) :
    given (quant.present fields) name = value := by
  induction fields with
  | nil => cases hvalue
  | cons field fields ih =>
    obtain ⟨key, item⟩ := field
    obtain ⟨hnew, hrest⟩ := List.nodup_cons.mp h
    by_cases hkey : key = name
    · subst hkey
      rw [List.find?_cons_of_pos (by simp)] at hvalue
      obtain rfl := (Prod.mk.inj (Option.some.inj hvalue)).2
      cases item with
      | some value => simp [quant.present, given_cons]
      | none =>
        -- The name occurs once, so nothing else can stand in for it.
        have hnone : given (quant.present fields) key = none := by
          rw [given, Option.map_eq_none_iff, List.find?_eq_none]
          intro other hother heq
          obtain ⟨field, hfield, hsome⟩ := List.mem_filterMap.mp hother
          obtain ⟨value, -, rfl⟩ := Option.map_eq_some_iff.mp hsome
          exact hnew (List.mem_map.mpr ⟨field, hfield, of_decide_eq_true heq⟩)
        simpa [quant.present] using hnone
    · rw [List.find?_cons_of_neg (by simpa using hkey)] at hvalue
      have htail := ih hrest hvalue
      cases item with
      | some value => simpa [quant.present, given_cons, hkey] using htail
      | none => simpa [quant.present] using htail

theorem number_goNumber (x : ℚ) :
    schemas.number number_text (Go.number x) = some (.num x) := by
  rw [Go.number]
  split_ifs with hwhole
  · have hx := (Rat.den_eq_one_iff x).mp hwhole.1
    have hshort : x.num.natAbs < 10 ^ 21 := Go.num_lt_of_whole hwhole
    rw [schemas.number, if_neg (Python.not_too_large hshort), hx]
  · rfl

theorem between_num {low high x : ℚ} (h : low ≤ x ∧ x ≤ high) :
    schemas.between low high (.num x) = some ⟨x, h⟩ := by
  rw [schemas.between, dif_pos h]

theorem basis_points_goNumber {x : ℚ} (h : 0 ≤ x ∧ x ≤ 1000) :
    basis_points number_text (Go.number x) = .ok ⟨x, h⟩ := by
  simp only [basis_points, schemas.here, number_goNumber, Option.bind_some, between_num h]

/-- The limits of the request models on a cost model. -/
structure CostModel.WithinLimits (m : CostModel) : Prop where
  commission_bps : m.commission_bps ≤ 1000
  slippage_bps : m.slippage_bps ≤ 1000
  spread_bps : m.spread_bps ≤ 1000

theorem withinLimits_of_build_config {payload : BacktestRequest} {config : BacktestConfig}
    (h : build_config payload = .ok config) : config.cost_model.WithinLimits := by
  unfold build_config at h
  split at h
  · obtain rfl := Except.ok.inj h
    exact
      { commission_bps := payload.cost_model.commission_bps.2.2
        slippage_bps := payload.cost_model.slippage_bps.2.2
        spread_bps := payload.cost_model.spread_bps.2.2 }
  · cases h

/-- The payload of a cost model. -/
def CostModel.payload (m : CostModel) (h : m.WithinLimits) : CostModelPayload where
  commission_bps := ⟨m.commission_bps, m.commission_bps_nonneg, h.commission_bps⟩
  commission_min := ⟨.num m.commission_min, decide_eq_true m.commission_min_nonneg⟩
  slippage_bps := ⟨m.slippage_bps, m.slippage_bps_nonneg, h.slippage_bps⟩
  spread_bps := ⟨m.spread_bps, m.spread_bps_nonneg, h.spread_bps⟩

theorem parse_cost_model (m : CostModel) (h : m.WithinLimits) :
    CostModelPayload.parse number_text
        (.obj (quant.CostModel.fields
          ⟨m.commission_bps, m.commission_min, m.slippage_bps, m.spread_bps⟩))
      = .ok (m.payload h) := by
  have hminimum : schemas.here
      (fun value => (schemas.number number_text value).bind schemas.non_negative)
      (Go.number m.commission_min)
      = .ok ⟨.num m.commission_min, decide_eq_true m.commission_min_nonneg⟩ := by
    have hnonneg : (Python.Float.num 0).le (.num m.commission_min) = true :=
      decide_eq_true m.commission_min_nonneg
    simp only [schemas.here, number_goNumber, Option.bind_some, schemas.non_negative,
      dif_pos hnonneg]
  -- The other three fields are basis points.
  rw [CostModelPayload.parse,
    schemas.optional_field_eq rfl
      (basis_points_goNumber ⟨m.commission_bps_nonneg, h.commission_bps⟩),
    schemas.optional_field_eq rfl hminimum,
    schemas.optional_field_eq rfl (basis_points_goNumber ⟨m.slippage_bps_nonneg, h.slippage_bps⟩),
    schemas.optional_field_eq rfl (basis_points_goNumber ⟨m.spread_bps_nonneg, h.spread_bps⟩)]
  rfl

/-- A field tagged `omitempty` is read as its value, if what is left out is the
    default of the model. -/
theorem optional_field_of_omitempty {α : Type} {fields : List (String × Json)} {name : String}
    {empty : Bool} {value : Json} {default a : α} {read : Json → Except schemas.Location α}
    (hgiven : given fields name = quant.omitempty empty value)
    (hempty : empty = true → default = a) (hread : empty = false → read value = .ok a) :
    schemas.optional_field fields name default read = .ok a := by
  cases empty with
  | true =>
    rw [schemas.optional_field_eq_default hgiven, hempty rfl]
  | false => exact schemas.optional_field_eq hgiven (hread rfl)

end Posted

end Quantora
