import Quantora.Backtest.Runner

/-! # Request models

    `schemas.py`: what the engine accepts over HTTP. A field that is absent
    takes its default; a field that is there is converted as pydantic's lax mode
    does, and checked. Unknown fields are ignored.

    * `number`, `boolean`, `text`, … — the conversions, one for each type.
    * `required_field`, `optional_field` — a field of a model, under its location.
    * `BacktestRequest.parse` — the body of `POST /v1/backtests`. Its checks are
      fields of the structures, so a request that exists is a valid one. -/

namespace Quantora

/-- How pydantic reads a number from a text, `none` for a text that is none. -/
abbrev NumberText := String → Option Python.Float

namespace schemas

/-- Where a body is not valid. -/
abbrev Location := List String

/-! ## Conversions -/

section Conversions

/-- `str`. -/
def text : Json → Option String
  | .str s => some s
  | _ => none

/-- `str | None`. -/
def text_or_null : Json → Option (Option String)
  | .null => some none
  | .str s => some (some s)
  | _ => none

/-- `dict[str, Any]`. -/
def dict : Json → Option (List (String × Json))
  | .obj fields => some fields
  | _ => none

/-- `bool`. -/
def boolean : Json → Option Bool
  | .bool b => some b
  | .int n => if n = 0 then some false else if n = 1 then some true else none
  | .float x => if x = .num 0 then some false else if x = .num 1 then some true else none
  | .str s =>
    if s.toLower ∈ ["0", "off", "f", "false", "n", "no"] then some false
    else if s.toLower ∈ ["1", "on", "t", "true", "y", "yes"] then some true
    else none
  | _ => none

/-- `float`. -/
def number (number_text : NumberText) : Json → Option Python.Float
  | .bool b => some (.num (if b then 1 else 0))
  | .int n => if Python.too_large n then none else some (.num n)
  | .float x => some x
  | .str s => number_text s
  | _ => none

/-- `Field(ge=low, le=high)`. NaN is not above a bound. -/
def between (low high : ℚ) : Python.Float → Option {x : ℚ // low ≤ x ∧ x ≤ high}
  | .num x => if h : low ≤ x ∧ x ≤ high then some ⟨x, h⟩ else none
  | _ => none

/-- `Field(ge=0)`: infinity is accepted. -/
def non_negative (x : Python.Float) : Option {x : Python.Float // (Python.Float.num 0).le x} :=
  if h : (Python.Float.num 0).le x then some ⟨x, h⟩ else none

/-- `Field(gt=0)`: infinity is accepted. -/
def positive (x : Python.Float) : Option {x : Python.Float // (Python.Float.num 0).lt x} :=
  if h : (Python.Float.num 0).lt x then some ⟨x, h⟩ else none

/-- The validator of `interval`. -/
def known_interval (value : String) : Option {s // s ∈ SUPPORTED_INTERVALS} :=
  if h : value ∈ SUPPORTED_INTERVALS then some ⟨value, h⟩ else none

/-- `Literal["next_bar_open", "next_bar_close"]`. -/
def execution_model_literal : Json → Option ExecutionModel
  | .str "next_bar_open" => some .NEXT_BAR_OPEN
  | .str "next_bar_close" => some .NEXT_BAR_CLOSE
  | _ => none

end Conversions

/-! ## Fields -/

section Fields

variable {α : Type} (fields : List (String × Json)) (name : String)

/-- A value of a model, under the name of its field. -/
def under (x : Except Location α) : Except Location α := x.mapError (name :: ·)

/-- A conversion that fails fails at the value itself. -/
def here (convert : Json → Option α) (value : Json) : Except Location α :=
  match convert value with
  | some a => .ok a
  | none => .error []

def required_field (read : Json → Except Location α) : Except Location α :=
  match given fields name with
  | some value => under name (read value)
  | none => .error [name]

def optional_field (default : α) (read : Json → Except Location α) : Except Location α :=
  match given fields name with
  | some value => under name (read value)
  | none => .ok default

variable {fields name} {value : Json} {a default : α} {read : Json → Except Location α}

theorem required_field_eq (hgiven : given fields name = some value) (hread : read value = .ok a) :
    required_field fields name read = .ok a := by
  rw [required_field, hgiven]
  simp only [under, hread, Except.mapError]

theorem optional_field_eq (hgiven : given fields name = some value) (hread : read value = .ok a) :
    optional_field fields name default read = .ok a := by
  rw [optional_field, hgiven]
  simp only [under, hread, Except.mapError]

theorem optional_field_eq_default (hgiven : given fields name = none) :
    optional_field fields name default read = .ok default := by
  rw [optional_field, hgiven]

end Fields

end schemas

open schemas

/-! ## The models -/

structure CostModelPayload where
  commission_bps : {x : ℚ // 0 ≤ x ∧ x ≤ 1000} := ⟨3, by norm_num⟩
  commission_min : {x : Python.Float // (Python.Float.num 0).le x} := ⟨.num 0, rfl⟩
  slippage_bps : {x : ℚ // 0 ≤ x ∧ x ≤ 1000} := ⟨5, by norm_num⟩
  spread_bps : {x : ℚ // 0 ≤ x ∧ x ≤ 1000} := ⟨2, by norm_num⟩

structure BacktestRequest where
  symbol : String
  strategy : String
  start : String
  end_ : String
  interval : {s // s ∈ SUPPORTED_INTERVALS}
  parameters : List (String × Json)
  initial_cash : {x : Python.Float // (Python.Float.num 0).lt x}
  cost_model : CostModelPayload
  execution_model : ExecutionModel
  allow_short : Bool
  liquidate_at_end : Bool
  risk_free_rate : {x : ℚ // -1 ≤ x ∧ x ≤ 1}
  experiment_id : Option String

section Parse

variable (number_text : NumberText)

/-- A rate in basis points. -/
def basis_points : Json → Except Location {x : ℚ // 0 ≤ x ∧ x ≤ 1000} :=
  here fun value => (number number_text value).bind (between 0 1000)

def CostModelPayload.parse : Json → Except Location CostModelPayload
  | .obj fields => do
    let defaults : CostModelPayload := {}
    let commission_bps ← optional_field fields "commission_bps" defaults.commission_bps
      (basis_points number_text)
    let commission_min ← optional_field fields "commission_min" defaults.commission_min
      (here fun value => (number number_text value).bind non_negative)
    let slippage_bps ← optional_field fields "slippage_bps" defaults.slippage_bps
      (basis_points number_text)
    let spread_bps ← optional_field fields "spread_bps" defaults.spread_bps
      (basis_points number_text)
    .ok
      { commission_bps := commission_bps
        commission_min := commission_min
        slippage_bps := slippage_bps
        spread_bps := spread_bps }
  | _ => .error []

/-- The first location that is not valid, if there is one. -/
def BacktestRequest.parse : Json → Except Location BacktestRequest
  | .obj fields => do
    let symbol ← required_field fields "symbol" (here text)
    let strategy ← required_field fields "strategy" (here text)
    let start ← required_field fields "start" (here text)
    let end_ ← required_field fields "end" (here text)
    let interval ← optional_field fields "interval" ⟨"1d", by decide⟩
      (here fun value => (text value).bind known_interval)
    let parameters ← optional_field fields "parameters" [] (here dict)
    let initial_cash ← optional_field fields "initial_cash" ⟨.num 1000000, by decide +kernel⟩
      (here fun value => (number number_text value).bind positive)
    let cost_model ← optional_field fields "cost_model" {} (CostModelPayload.parse number_text)
    let execution_model ← optional_field fields "execution_model" .NEXT_BAR_OPEN
      (here execution_model_literal)
    let allow_short ← optional_field fields "allow_short" false (here boolean)
    let liquidate_at_end ← optional_field fields "liquidate_at_end" true (here boolean)
    let risk_free_rate ← optional_field fields "risk_free_rate" ⟨0, by norm_num⟩
      (here fun value => (number number_text value).bind (between (-1) 1))
    let experiment_id ← optional_field fields "experiment_id" none (here text_or_null)
    .ok
      { symbol := symbol
        strategy := strategy
        start := start
        end_ := end_
        interval := interval
        parameters := parameters
        initial_cash := initial_cash
        cost_model := cost_model
        execution_model := execution_model
        allow_short := allow_short
        liquidate_at_end := liquidate_at_end
        risk_free_rate := risk_free_rate
        experiment_id := experiment_id }
  | _ => .error []

end Parse

end Quantora
