import Mathlib.Algebra.Ring.Nat
import Mathlib.Data.Rat.Defs
import Quantora.Framework.Text

/-! # Python values from JSON

    * `Json` — a value that `json.loads` returns. Python keeps integers and
      floats apart; a float may be infinite or NaN.
    * `Runtime` — the functions of the Python runtime that the model leaves open:
      logarithms and roots of floats, and the conversions between numbers and
      texts. A result that needs more of a root than this says so.
-/

namespace Quantora

namespace Python

/-- Any float. -/
inductive Float where
  | nan
  | inf (negative : Bool)
  | num (value : ℚ)
  deriving DecidableEq, Repr

end Python

inductive Json where
  | null
  | bool (value : Bool)
  | int (value : ℤ)
  | float (value : Python.Float)
  | str (value : String)
  | arr (items : List Json)
  | obj (fields : List (String × Json))

/-- What the model leaves open. -/
structure Runtime where
  /-- `np.log` of a positive number. -/
  log : ℚ → ℚ
  /-- The square root of a number that is not negative. -/
  sqrt : ℚ → ℚ
  /-- `x ** y` for an `x` that is not negative and a positive `y`, where the result
      is a float. -/
  pow : ℚ → ℚ → ℚ
  /-- `str.casefold`. -/
  casefold : String → String
  /-- `int(text)`, `none` for a `ValueError`. -/
  int_of_str : String → Option ℤ
  /-- `float(text)`, `none` for a `ValueError`. -/
  float_of_str : String → Option Python.Float
  /-- `repr(value)`. -/
  repr : Json → String

/-- A runtime whose functions are the identity wherever the types allow it. -/
instance : Inhabited Runtime where
  default :=
    { log := id
      sqrt := id
      pow := fun x _ => x
      casefold := id
      int_of_str := fun _ => none
      float_of_str := fun _ => none
      repr := fun _ => "" }

namespace Python

/-- `str.isspace` of one character. -/
def is_space (c : Char) : Bool :=
  let n := c.toNat
  (9 ≤ n ∧ n ≤ 13) ∨ (0x1C ≤ n ∧ n ≤ 0x20) ∨ n = 0x85 ∨ n = 0xA0 ∨ n = 0x1680 ∨
    (0x2000 ≤ n ∧ n ≤ 0x200A) ∨ n = 0x2028 ∨ n = 0x2029 ∨ n = 0x202F ∨ n = 0x205F ∨ n = 0x3000

/-- `str.strip()`. -/
def strip (s : String) : String := Text.trim is_space s

/-- `bool(value)`. -/
def truth : Json → Bool
  | .null => false
  | .bool b => b
  | .int n => n ≠ 0
  | .float x => x ≠ .num 0
  | .str s => s ≠ ""
  | .arr items => ¬ items.isEmpty
  | .obj fields => ¬ fields.isEmpty

/-- `int(value)`, for a parameter: a bool or a fractional float is rejected. -/
def int_parameter (rt : Runtime) : Json → Option ℤ
  | .int n => some n
  | .float (.num x) => if x.den = 1 then some x.num else none
  | .str s => rt.int_of_str s
  | _ => none

/-- `float(n)` raises an `OverflowError`: it would be rounded past every float. -/
def too_large (n : ℤ) : Prop := 2 ^ 1024 - 2 ^ 970 ≤ n.natAbs

instance (n : ℤ) : Decidable (too_large n) :=
  inferInstanceAs (Decidable (2 ^ 1024 - 2 ^ 970 ≤ n.natAbs))

theorem not_too_large {n : ℤ} (h : n.natAbs < 10 ^ 21) : ¬ too_large n := by
  have hroom : 10 ^ 21 ≤ 2 ^ 1024 - 2 ^ 970 := by decide +kernel
  exact Nat.not_le.mpr (Nat.lt_of_lt_of_le h hroom)

/-- Only the conversion of an integer can overflow: a text that is too large is
    infinite. -/
def float_overflows : Json → Bool
  | .int n => too_large n
  | _ => false

theorem float_overflows_short {n : ℤ} (h : n.natAbs < 10 ^ 21) :
    float_overflows (.int n) = false := by
  rw [float_overflows, decide_eq_false (not_too_large h)]

/-- `float(value)`, where it does not overflow. -/
def float_parameter (rt : Runtime) : Json → Option Float
  | .bool b => some (.num (if b then 1 else 0))
  | .int n => some (.num n)
  | .float x => some x
  | .str s => rt.float_of_str s
  | _ => none

end Python

end Quantora
