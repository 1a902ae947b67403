import Mathlib.Data.List.Sort
import Mathlib.Tactic.NormNum
import Quantora.Python.Cells
import Quantora.Python.Runtime
import Quantora.Strategy.Base

/-! # Strategy parameters

    `ParameterSpec`, one structure for each of its four types, and `validate`,
    which coerces a JSON value and checks its bounds. A validated value carries
    the rules of its spec, so a strategy cannot be built from anything else.

    * `IntSpec`, `FloatSpec`, `BoolSpec`, `StrSpec` — name, default and rules.
    * `Value` of a spec — the values that follow the rules. NaN is a float that
      no bound rejects.
    * `validate` — from a given JSON value, or the default, to a `Value`.
-/

namespace Quantora

/-- The errors of the strategy layer, and those that a value of the wrong kind
    raises in a constructor. -/
inductive StrategyError where
  | InsufficientDataError (strategy : String) (required available : ℕ)
  | InvalidParametersError (message : String)
  | PairDataMissingError (strategy pair_symbol : String)
  | UnknownStrategyError (name : String) (known : List String)
  | AttributeError (name : String)
  | NotImplementedError (message : String)
  | OverflowError (message : String)
  deriving DecidableEq, Repr

structure IntSpec where
  name : String
  default : ℤ
  minimum : ℤ
  maximum : ℤ
  default_valid : minimum ≤ default ∧ default ≤ maximum := by norm_num

structure FloatSpec where
  name : String
  default : ℚ
  minimum : ℚ
  maximum : ℚ
  default_valid : minimum ≤ default ∧ default ≤ maximum := by norm_num

structure BoolSpec where
  name : String
  default : Bool

structure StrSpec where
  name : String
  default : String
  choices : Option (List String) := none
  default_valid : default ≠ "" ∧ Python.strip default = default ∧
    ∀ allowed ∈ choices, default ∈ allowed
  choices_stripped : ∀ allowed ∈ choices, ∀ s ∈ allowed, Python.strip s = s

/-- The value given under `name`, if there is one. -/
def given (parameters : List (String × Json)) (name : String) : Option Json :=
  (parameters.find? (fun field => field.1 = name)).map Prod.snd

theorem given_cons (field : String × Json) (parameters : List (String × Json)) (name : String) :
    given (field :: parameters) name
      = if field.1 = name then some field.2 else given parameters name := by
  by_cases h : field.1 = name
  · simp [given, h]
  · simp [given, h]

/-- Neither a conversion nor a bound accepted the value. -/
def wrong_type (rt : Runtime) (name type : String) (value : Json) : StrategyError :=
  .InvalidParametersError (name ++ " must be a " ++ type ++ ", got " ++ rt.repr value)

def out_of_bounds (name relation bound value : String) : StrategyError :=
  .InvalidParametersError (name ++ " must be " ++ relation ++ " " ++ bound ++ ", got " ++ value)

/-! ## Integers -/

namespace IntSpec

variable (spec : IntSpec)

def Value : Type := {n : ℤ // spec.minimum ≤ n ∧ n ≤ spec.maximum}

instance : DecidableEq spec.Value := inferInstanceAs (DecidableEq (Subtype _))

def check (n : ℤ) : Except StrategyError spec.Value :=
  if hmin : n < spec.minimum then
    .error (out_of_bounds spec.name ">=" (toString spec.minimum) (toString n))
  else if hmax : n > spec.maximum then
    .error (out_of_bounds spec.name "<=" (toString spec.maximum) (toString n))
  else .ok ⟨n, not_lt.mp hmin, not_lt.mp hmax⟩

def validate (rt : Runtime) (value : Json) : Except StrategyError spec.Value :=
  match Python.int_parameter rt value with
  | none => .error (wrong_type rt spec.name "int" value)
  | some n => spec.check n

/-- The resolved value of `parameters.get(name, default)`. -/
def resolve (rt : Runtime) (parameters : List (String × Json)) : Except StrategyError spec.Value :=
  spec.validate rt ((given parameters spec.name).getD (.int spec.default))

end IntSpec

/-! ## Floats -/

namespace FloatSpec

variable (spec : FloatSpec)

/-- A number within the bounds, or NaN. -/
def Value : Type := {x : Cell // ∀ q ∈ x, spec.minimum ≤ q ∧ q ≤ spec.maximum}

instance : DecidableEq spec.Value := inferInstanceAs (DecidableEq (Subtype _))

def below (rt : Runtime) (x : Python.Float) : StrategyError :=
  out_of_bounds spec.name ">=" (rt.repr (.float (.num spec.minimum))) (rt.repr (.float x))

def above (rt : Runtime) (x : Python.Float) : StrategyError :=
  out_of_bounds spec.name "<=" (rt.repr (.float (.num spec.maximum))) (rt.repr (.float x))

/-- Both comparisons are false for NaN, so no bound rejects it. -/
def check (rt : Runtime) : Python.Float → Except StrategyError spec.Value
  | .nan => .ok ⟨none, fun _ h => nomatch h⟩
  | .inf true => .error (spec.below rt (.inf true))
  | .inf false => .error (spec.above rt (.inf false))
  | .num x =>
    if hmin : x < spec.minimum then .error (spec.below rt (.num x))
    else if hmax : x > spec.maximum then .error (spec.above rt (.num x))
    else .ok ⟨some x, fun _ h => Option.some.inj h ▸ ⟨not_lt.mp hmin, not_lt.mp hmax⟩⟩

/-- Only a `TypeError` and a `ValueError` are caught. -/
def validate (rt : Runtime) (value : Json) : Except StrategyError spec.Value :=
  if Python.float_overflows value then .error (.OverflowError "int too large to convert to float")
  else
    match Python.float_parameter rt value with
    | none => .error (wrong_type rt spec.name "float" value)
    | some x => spec.check rt x

def resolve (rt : Runtime) (parameters : List (String × Json)) : Except StrategyError spec.Value :=
  spec.validate rt ((given parameters spec.name).getD (.float (.num spec.default)))

end FloatSpec

/-! ## Booleans and texts -/

/-- Every value has a truth value. -/
def BoolSpec.resolve (spec : BoolSpec) (parameters : List (String × Json)) : Bool :=
  Python.truth ((given parameters spec.name).getD (.bool spec.default))

namespace StrSpec

variable (spec : StrSpec)

def Value : Type :=
  {s : String // s ≠ "" ∧ Python.strip s = s ∧ ∀ allowed ∈ spec.choices, s ∈ allowed}

instance : DecidableEq spec.Value := inferInstanceAs (DecidableEq (Subtype _))

def not_a_choice (rt : Runtime) (allowed : List String) (value : Json) : StrategyError :=
  .InvalidParametersError (spec.name ++ " must be one of "
    ++ rt.repr (.arr (allowed.map .str)) ++ ", got " ++ rt.repr value)

def empty_or_wrong (rt : Runtime) (value : Json) : StrategyError :=
  .InvalidParametersError (spec.name ++ " must be a non-empty str, got " ++ rt.repr value)

/-- The choices are compared before the text is stripped. -/
def validate (rt : Runtime) (value : Json) : Except StrategyError spec.Value :=
  match value with
  | .str s =>
    if hchoice : ∀ allowed ∈ spec.choices, s ∈ allowed then
      if hempty : Python.strip s ≠ "" then
        .ok ⟨Python.strip s, hempty, Text.trim_trim _ _, fun allowed h => by
          rw [spec.choices_stripped allowed h s (hchoice allowed h)]
          exact hchoice allowed h⟩
      else .error (spec.empty_or_wrong rt value)
    else .error (spec.not_a_choice rt (spec.choices.getD []) value)
  | _ =>
    match spec.choices with
    | some allowed => .error (spec.not_a_choice rt allowed value)
    | none => .error (spec.empty_or_wrong rt value)

def resolve (rt : Runtime) (parameters : List (String × Json)) : Except StrategyError spec.Value :=
  spec.validate rt ((given parameters spec.name).getD (.str spec.default))

end StrSpec

/-! ## Unknown names -/

/-- `sorted(set(parameters) - set(specs))`. -/
def unknown_parameters (specs : List String) (parameters : List (String × Json)) : List String :=
  (((parameters.map Prod.fst).filter (fun name => name ∉ specs)).dedup).insertionSort (· ≤ ·)

def reject_unknown (strategy : String) (specs : List String) (parameters : List (String × Json)) :
    Except StrategyError Unit :=
  let unknown := unknown_parameters specs parameters
  if unknown = [] then .ok ()
  else
    .error (.InvalidParametersError ("Unknown parameter(s) for " ++ strategy ++ ": "
      ++ ", ".intercalate unknown ++ ". Supported: "
      ++ ", ".intercalate (specs.insertionSort (· ≤ ·)) ++ "."))

end Quantora
