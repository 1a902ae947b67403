import Quantora.Backtest.Result
import Quantora.Strategy.Replay

/-! # Resolving twice

    A strategy reports its resolved parameters, and a saved experiment is rerun
    from what it reported.

    * `ParameterSpec` — a spec of any type; `parameter_specs` lists those of a
      registered strategy.
    * `Admits` — the declared bounds and choices of a spec.
    * `GivenNaN` — a float parameter was given something that converts to NaN.
    * `admits_iff` — one parameter; `resolves_of_create` — all of a strategy.
    * `reresolves_iff` — a report resolves to itself, and it is as declared unless
      NaN was given. -/

namespace Quantora

/-- A spec of any type. -/
inductive ParameterSpec where
  | int (spec : IntSpec)
  | float (spec : FloatSpec)
  | bool (spec : BoolSpec)
  | str (spec : StrSpec)

namespace ParameterSpec

def name : ParameterSpec → String
  | int spec => spec.name
  | float spec => spec.name
  | bool spec => spec.name
  | str spec => spec.name

section Resolve

variable (rt : Runtime) (parameters : List (String × Json))

/-- `spec.validate(parameters.get(spec.name, spec.default))`. -/
def resolve : ParameterSpec → Except StrategyError ParameterValue
  | int spec => (spec.resolve rt parameters).map (fun v => .int v.1)
  | float spec => (spec.resolve rt parameters).map (fun v => .float v.1)
  | bool spec => .ok (.bool (spec.resolve parameters))
  | str spec => (spec.resolve rt parameters).map (fun v => .str v.1)

/-- The value given for a float converts to NaN. -/
def GivenNaN : ParameterSpec → Prop
  | float spec => (given parameters spec.name).bind (Python.float_parameter rt) = some .nan
  | _ => False

instance (spec : ParameterSpec) : Decidable (spec.GivenNaN rt parameters) :=
  match spec with
  | int _ => .isFalse id
  | float _ => inferInstanceAs (Decidable (_ = _))
  | bool _ => .isFalse id
  | str _ => .isFalse id

end Resolve

/-- A number within the declared bounds, a text among the declared choices. -/
def Admits : ParameterSpec → ParameterValue → Prop
  | int spec, .int n => spec.minimum ≤ n ∧ n ≤ spec.maximum
  | float spec, .float x => ∃ q, x = some q ∧ spec.minimum ≤ q ∧ q ≤ spec.maximum
  | bool _, .bool _ => True
  | str spec, .str s => ∀ allowed ∈ spec.choices, s ∈ allowed
  | _, _ => False

end ParameterSpec

/-! ## One parameter -/

section Parameter

variable {rt : Runtime} {parameters : List (String × Json)}

/-- Only NaN comes out of the bounds check as NaN. -/
theorem FloatSpec.eq_none_of_check {spec : FloatSpec} {x : Python.Float} {v : spec.Value}
    (h : spec.check rt x = .ok v) : v.1 = none ↔ x = .nan := by
  cases x with
  | nan =>
    obtain rfl := Except.ok.inj h
    exact ⟨fun _ => rfl, fun _ => rfl⟩
  | inf negative => cases negative <;> cases h
  | num x =>
    rw [FloatSpec.check] at h
    split_ifs at h
    obtain rfl := Except.ok.inj h
    constructor
    · rintro ⟨⟩
    · rintro ⟨⟩

theorem FloatSpec.eq_none_of_resolve {spec : FloatSpec} {v : spec.Value}
    (h : spec.resolve rt parameters = .ok v) :
    v.1 = none ↔ (given parameters spec.name).bind (Python.float_parameter rt) = some .nan := by
  rw [FloatSpec.resolve, FloatSpec.validate] at h
  cases hgiven : given parameters spec.name with
  | none =>
    -- The default is a number.
    rw [hgiven] at h
    have hcheck : spec.check rt (.num spec.default) = .ok v := h
    rw [FloatSpec.eq_none_of_check hcheck]
    constructor
    · rintro ⟨⟩
    · rintro ⟨⟩
  | some value =>
    rw [hgiven, Option.getD_some] at h
    split_ifs at h
    rw [Option.bind_some]
    cases hread : Python.float_parameter rt value with
    | none =>
      rw [hread] at h
      cases h
    | some x =>
      rw [hread] at h
      rw [FloatSpec.eq_none_of_check h, Option.some.injEq]

namespace ParameterSpec

/-- A resolved value is as declared, unless it is NaN. One case per type. -/
theorem admits_iff {spec : ParameterSpec} {value : ParameterValue}
    (h : spec.resolve rt parameters = .ok value) :
    spec.Admits value ↔ ¬ spec.GivenNaN rt parameters := by
  cases spec with
  | int spec =>
    obtain ⟨v, -, rfl⟩ := Outcome.map_eq_ok.mp h
    exact ⟨fun _ => id, fun _ => v.2⟩
  | float spec =>
    obtain ⟨v, hv, rfl⟩ := Outcome.map_eq_ok.mp h
    show (∃ q, v.1 = some q ∧ _) ↔ ¬ _ = _
    rw [← FloatSpec.eq_none_of_resolve hv]
    constructor
    · rintro ⟨q, hq, -⟩ hnone
      rw [hq] at hnone
      cases hnone
    · intro hnumber
      obtain ⟨q, hq⟩ := Option.ne_none_iff_exists'.mp hnumber
      exact ⟨q, hq, v.2 q hq⟩
  | bool spec =>
    obtain rfl := Except.ok.inj h
    exact ⟨fun _ => id, fun _ => trivial⟩
  | str spec =>
    obtain ⟨v, -, rfl⟩ := Outcome.map_eq_ok.mp h
    exact ⟨fun _ => id, fun _ => v.2.2.2⟩

/-- Only the value given under the spec's own name is read. -/
theorem resolve_congr {spec : ParameterSpec} {parameters' : List (String × Json)}
    (h : given parameters spec.name = given parameters' spec.name) :
    spec.resolve rt parameters = spec.resolve rt parameters' := by
  cases spec with
  | int spec =>
    rw [name] at h
    rw [resolve, resolve, IntSpec.resolve, IntSpec.resolve, h]
  | float spec =>
    rw [name] at h
    rw [resolve, resolve, FloatSpec.resolve, FloatSpec.resolve, h]
  | bool spec =>
    rw [name] at h
    rw [resolve, resolve, BoolSpec.resolve, BoolSpec.resolve, h]
  | str spec =>
    rw [name] at h
    rw [resolve, resolve, StrSpec.resolve, StrSpec.resolve, h]

end ParameterSpec

/-! ## All parameters of a strategy -/

/-- The parameter that a spec resolves to. -/
structure ParameterSpec.Resolves (rt : Runtime) (parameters : List (String × Json))
    (spec : ParameterSpec) (parameter : String × ParameterValue) : Prop where
  name : spec.name = parameter.1
  value : spec.resolve rt parameters = .ok parameter.2

namespace ParameterSpec.Resolves

theorem int {spec : IntSpec} {v : spec.Value} (h : spec.resolve rt parameters = .ok v) :
    Resolves rt parameters (.int spec) (spec.name, .int v.1) :=
  ⟨rfl, Outcome.map_eq_ok.mpr ⟨v, h, rfl⟩⟩

theorem float {spec : FloatSpec} {v : spec.Value} (h : spec.resolve rt parameters = .ok v) :
    Resolves rt parameters (.float spec) (spec.name, .float v.1) :=
  ⟨rfl, Outcome.map_eq_ok.mpr ⟨v, h, rfl⟩⟩

theorem bool (spec : BoolSpec) :
    Resolves rt parameters (.bool spec) (spec.name, .bool (spec.resolve parameters)) :=
  ⟨rfl, rfl⟩

theorem str {spec : StrSpec} {v : spec.Value} (h : spec.resolve rt parameters = .ok v) :
    Resolves rt parameters (.str spec) (spec.name, .str v.1) :=
  ⟨rfl, Outcome.map_eq_ok.mpr ⟨v, h, rfl⟩⟩

end ParameterSpec.Resolves

/-- Parameter by parameter: all are as declared when none is NaN. -/
theorem ParameterSpec.forall₂_admits_iff {specs : List ParameterSpec}
    {resolved : List (String × ParameterValue)}
    (h : List.Forall₂ (ParameterSpec.Resolves rt parameters) specs resolved) :
    List.Forall₂ (fun spec parameter => spec.name = parameter.1 ∧ spec.Admits parameter.2)
        specs resolved ↔
      ∀ spec ∈ specs, ¬ spec.GivenNaN rt parameters := by
  induction h with
  | nil => simp
  | cons hspec _ ih =>
    rw [List.forall₂_cons, List.forall_mem_cons, ih, ParameterSpec.admits_iff hspec.value]
    exact and_congr_left fun _ => and_iff_right hspec.name

/-- What the strategies declare, in the order of their reports. -/
def MACD.parameter_specs : List ParameterSpec :=
  [.int fast, .int slow, .int signal, .bool allow_short, .bool require_zero_line]

def Bollinger.parameter_specs : List ParameterSpec :=
  [.int window, .float num_std, .bool exit_at_middle, .bool allow_short]

def DualThrust.parameter_specs : List ParameterSpec :=
  [.int lookback, .float k_upper, .float k_lower, .bool allow_short, .str trigger_on]

def PairTrading.parameter_specs : List ParameterSpec :=
  [.str pair_symbol, .int lookback, .float entry_z, .float exit_z, .float min_correlation,
    .bool use_hedge_ratio]

theorem MACD.resolves_of_create {p : MACD.Parameters} (h : MACD.create rt parameters = .ok p) :
    List.Forall₂ (ParameterSpec.Resolves rt parameters) MACD.parameter_specs p.as_dict := by
  obtain ⟨-, -, h⟩ := Outcome.bind_eq_ok.mp h
  obtain ⟨fast, hfast, h⟩ := Outcome.bind_eq_ok.mp h
  obtain ⟨slow, hslow, h⟩ := Outcome.bind_eq_ok.mp h
  obtain ⟨signal, hsignal, h⟩ := Outcome.bind_eq_ok.mp h
  split_ifs at h
  obtain rfl := Except.ok.inj h
  exact .cons (.int hfast) <| .cons (.int hslow) <| .cons (.int hsignal) <|
    .cons (.bool _) <| .cons (.bool _) .nil

theorem Bollinger.resolves_of_create {p : Bollinger.Parameters}
    (h : Bollinger.create rt parameters = .ok p) :
    List.Forall₂ (ParameterSpec.Resolves rt parameters) Bollinger.parameter_specs p.as_dict := by
  obtain ⟨-, -, h⟩ := Outcome.bind_eq_ok.mp h
  obtain ⟨window, hwindow, h⟩ := Outcome.bind_eq_ok.mp h
  obtain ⟨num_std, hstd, h⟩ := Outcome.bind_eq_ok.mp h
  obtain rfl := Except.ok.inj h
  exact .cons (.int hwindow) <| .cons (.float hstd) <| .cons (.bool _) <| .cons (.bool _) .nil

theorem DualThrust.resolves_of_create {p : DualThrust.Parameters}
    (h : DualThrust.create rt parameters = .ok p) :
    List.Forall₂ (ParameterSpec.Resolves rt parameters) DualThrust.parameter_specs p.as_dict := by
  obtain ⟨-, -, h⟩ := Outcome.bind_eq_ok.mp h
  obtain ⟨lookback, hlookback, h⟩ := Outcome.bind_eq_ok.mp h
  obtain ⟨k_upper, hupper, h⟩ := Outcome.bind_eq_ok.mp h
  obtain ⟨k_lower, hlower, h⟩ := Outcome.bind_eq_ok.mp h
  obtain ⟨trigger_on, htrigger, h⟩ := Outcome.bind_eq_ok.mp h
  obtain rfl := Except.ok.inj h
  exact .cons (.int hlookback) <| .cons (.float hupper) <| .cons (.float hlower) <|
    .cons (.bool _) <| .cons (.str htrigger) .nil

theorem PairTrading.resolves_of_create_parameters {p : PairTrading.Parameters}
    (h : PairTrading.create_parameters rt parameters = .ok p) :
    List.Forall₂ (ParameterSpec.Resolves rt parameters) PairTrading.parameter_specs p.as_dict := by
  obtain ⟨-, -, h⟩ := Outcome.bind_eq_ok.mp h
  obtain ⟨pair_symbol, hsymbol, h⟩ := Outcome.bind_eq_ok.mp h
  obtain ⟨lookback, hlookback, h⟩ := Outcome.bind_eq_ok.mp h
  obtain ⟨entry_z, hentry, h⟩ := Outcome.bind_eq_ok.mp h
  obtain ⟨exit_z, hexit, h⟩ := Outcome.bind_eq_ok.mp h
  obtain ⟨min_correlation, hminimum, h⟩ := Outcome.bind_eq_ok.mp h
  split_ifs at h
  obtain rfl := Except.ok.inj h
  exact .cons (.str hsymbol) <| .cons (.int hlookback) <| .cons (.float hentry) <|
    .cons (.float hexit) <| .cons (.float hminimum) <| .cons (.bool _) .nil

/-- Dropping another name changes nothing that is given. -/
theorem given_filter_ne {key name : String} (h : name ≠ key) :
    given (parameters.filter (fun field => field.1 ≠ key)) name = given parameters name := by
  unfold given
  rw [List.find?_filter]
  congr 2
  funext field
  by_cases hname : field.1 = name
  · simp [hname, h]
  · simp [hname]

/-- The keyword `pair_series` is no parameter of the strategy. -/
theorem PairTrading.resolves_of_create {p : PairTrading.Parameters}
    (h : PairTrading.create rt parameters = .ok p) :
    List.Forall₂ (ParameterSpec.Resolves rt parameters) PairTrading.parameter_specs p.as_dict := by
  obtain ⟨resolved, hresolved, h⟩ := Outcome.bind_eq_ok.mp h
  have hp : resolved = p := by
    split at h
    · exact Except.ok.inj h
    · exact Except.ok.inj h
    · cases h
  rw [← hp]
  have hnames : ∀ spec ∈ PairTrading.parameter_specs, spec.name ≠ "pair_series" := by decide
  have hboth := (List.forall₂_and_left _ _).mpr
    ⟨hnames, PairTrading.resolves_of_create_parameters hresolved⟩
  refine hboth.imp fun spec parameter hspec => ⟨hspec.2.name, ?_⟩
  rw [← hspec.2.value]
  exact ParameterSpec.resolve_congr (given_filter_ne hspec.1).symm

end Parameter

/-! ## Registered strategies -/

namespace RegisteredStrategy

/-- `get_strategy_class(name).parameter_specs`. -/
def parameter_specs (name : String) : List ParameterSpec :=
  if name = "macd" then MACD.parameter_specs
  else if name = "bollinger" then Bollinger.parameter_specs
  else if name = "dual_thrust" then DualThrust.parameter_specs
  else if name = "pair_trading" then PairTrading.parameter_specs
  else []

/-- Every reported parameter is one that was declared, and as it was declared. -/
def AsDeclared (name : String) (strategy : RegisteredStrategy) : Prop :=
  List.Forall₂ (fun spec parameter => spec.name = parameter.1 ∧ spec.Admits parameter.2)
    (parameter_specs name) strategy.parameters

/-- What a strategy reports creates it again, within bounds and choices. -/
structure Reresolves (rt : Runtime) (name : String) (strategy : RegisteredStrategy) : Prop where
  again : create rt name (parameters_json strategy) = .ok strategy
  declared : AsDeclared name strategy

section Create

variable {rt : Runtime} {name : String} {parameters : List (String × Json)}
  {strategy : RegisteredStrategy}

theorem resolves_of_create (h : create rt name parameters = .ok strategy) :
    List.Forall₂ (ParameterSpec.Resolves rt parameters) (parameter_specs name)
      strategy.parameters := by
  unfold create at h
  unfold parameter_specs
  split_ifs at h ⊢
  · obtain ⟨p, hp, rfl⟩ := Outcome.map_eq_ok.mp h
    exact MACD.resolves_of_create hp
  · obtain ⟨p, hp, rfl⟩ := Outcome.map_eq_ok.mp h
    exact Bollinger.resolves_of_create hp
  · obtain ⟨p, hp, rfl⟩ := Outcome.map_eq_ok.mp h
    exact DualThrust.resolves_of_create hp
  · obtain ⟨p, hp, rfl⟩ := Outcome.map_eq_ok.mp h
    exact PairTrading.resolves_of_create hp

/-- A parameter in JSON stands for itself. -/
theorem denotes_to_json (value : ParameterValue) : Denotes value value.to_json := by
  cases value with
  | int n => exact .int n
  | float x =>
    cases x with
    | none => exact .nan
    | some x => exact .float x
  | bool b => exact .bool b
  | str s => exact .str s

theorem report_parameters_json (strategy : RegisteredStrategy) :
    Report strategy.parameters (parameters_json strategy) := by
  unfold Report parameters_json
  rw [List.forall₂_map_right_iff, List.forall₂_same]
  exact fun parameter _ => ⟨rfl, denotes_to_json parameter.2⟩

/-- A report always creates the strategy again, NaN or not. -/
theorem create_parameters_json (h : create rt name parameters = .ok strategy) :
    create rt name (parameters_json strategy) = .ok strategy := by
  rw [← create_name h]
  exact create_of_report (report_parameters_json strategy)

/-- **Main result**: what an accepted strategy reports creates it again, and is
    within the declared bounds and choices, exactly when no float parameter was
    given NaN. -/
theorem reresolves_iff (h : create rt name parameters = .ok strategy) :
    Reresolves rt name strategy ↔
      ∀ spec ∈ parameter_specs name, ¬ spec.GivenNaN rt parameters := by
  have hdeclared : AsDeclared name strategy ↔ _ :=
    ParameterSpec.forall₂_admits_iff (resolves_of_create h)
  rw [← hdeclared]
  exact ⟨Reresolves.declared, fun hdeclared => ⟨create_parameters_json h, hdeclared⟩⟩

/-- An integer for a float, and a text for a bool: it is set unless it is empty. -/
theorem reresolves_of_whole_number :
    ∃ strategy, create default "dual_thrust" [("k_upper", .int 1), ("allow_short", .str "no")]
        = .ok strategy ∧ Reresolves default "dual_thrust" strategy := by
  obtain ⟨strategy, hstrategy⟩ := Outcome.exists_eq_ok
    (show (create default "dual_thrust" [("k_upper", .int 1), ("allow_short", .str "no")]).isOk
      = true by decide +kernel)
  exact ⟨strategy, hstrategy, (reresolves_iff hstrategy).mpr (by decide +kernel)⟩

/-- A runtime in which the text "nan" reads as NaN, as it does in Python. -/
def reads_nan : Runtime :=
  { (default : Runtime) with
    float_of_str := fun s => if s = "nan" then some .nan else none }

/-- NaN is neither below the minimum nor above the maximum. -/
theorem nan_is_within_no_bounds :
    ∃ strategy, create reads_nan "dual_thrust" [("k_upper", .str "nan")] = .ok strategy ∧
      ("k_upper", .float none) ∈ strategy.parameters ∧
      ¬ Reresolves reads_nan "dual_thrust" strategy := by
  obtain ⟨strategy, hstrategy, hnan⟩ := Outcome.exists_of_any
    (show (create reads_nan "dual_thrust" [("k_upper", .str "nan")]).toOption.any
      (fun strategy => decide (("k_upper", .float none) ∈ strategy.parameters)) = true by
      decide +kernel)
  refine ⟨strategy, hstrategy, of_decide_eq_true hnan, fun h => ?_⟩
  exact absurd ((ParameterSpec.forall₂_admits_iff (resolves_of_create hstrategy)).mp h.declared)
    (by decide +kernel)

end Create

end RegisteredStrategy

end Quantora
