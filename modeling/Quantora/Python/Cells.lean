import Mathlib.Algebra.Order.Ring.Rat
import Mathlib.Data.Option.NAry
import Quantora.Python.Conversions

/-! # Cells of a float column

    A float that the indicators compute is a number or NaN. Arithmetic passes
    NaN on, and a comparison with NaN is false.
-/

namespace Quantora

/-- A number, or NaN. -/
abbrev Cell := Option ℚ

namespace Cell

def add (a b : Cell) : Cell := Option.map₂ (· + ·) a b

def sub (a b : Cell) : Cell := Option.map₂ (· - ·) a b

def mul (a b : Cell) : Cell := Option.map₂ (· * ·) a b

/-- Division by a column that has no zeros: each caller divides by one that is
    positive or masked, or by an average of prices. -/
def div (a b : Cell) : Cell := Option.map₂ (· / ·) a b

def abs (a : Cell) : Cell := a.map (|·|)

def neg (a : Cell) : Cell := a.map (-·)

/-- `np.maximum`. -/
def maximum (a b : Cell) : Cell := Option.map₂ max a b

def le (a b : Cell) : Bool :=
  match a, b with
  | some a, some b => a ≤ b
  | _, _ => false

def lt (a b : Cell) : Bool :=
  match a, b with
  | some a, some b => a < b
  | _, _ => false

@[simp] theorem le_some (a b : ℚ) : le (some a) (some b) = true ↔ a ≤ b := decide_eq_true_iff

@[simp] theorem lt_some (a b : ℚ) : lt (some a) (some b) = true ↔ a < b := decide_eq_true_iff

/-- What compares true is not NaN. -/
theorem exists_of_le {a b : Cell} (h : le a b = true) :
    ∃ x y, a = some x ∧ b = some y ∧ x ≤ y := by
  cases a with
  | none => cases h
  | some x =>
    cases b with
    | none => cases h
    | some y => exact ⟨x, y, rfl, rfl, (le_some x y).mp h⟩

theorem exists_of_lt {a b : Cell} (h : lt a b = true) :
    ∃ x y, a = some x ∧ b = some y ∧ x < y := by
  cases a with
  | none => cases h
  | some x =>
    cases b with
    | none => cases h
    | some y => exact ⟨x, y, rfl, rfl, (lt_some x y).mp h⟩

theorem le_of_neg (a b : Cell) : le (neg a) (neg b) = le b a := by
  cases a <;> cases b <;> simp [le, neg]

theorem le_neg_swap (a b : Cell) : le a (neg b) = le b (neg a) := by
  cases a <;> cases b <;> simp [le, neg, le_neg]

theorem neg_lt_swap (a b : Cell) : lt (neg a) b = lt (neg b) a := by
  cases a <;> cases b <;> simp [lt, neg, neg_lt]

theorem abs_of_neg (a : Cell) : abs (neg a) = abs a := by
  cases a <;> simp [abs, neg]

/-- `x.where(x > 0)`. -/
def where_positive (a : Cell) : Cell := a.filter (fun x => 0 < x)

/-- `x.replace(0, nan)`. -/
def mask_zero (a : Cell) : Cell := a.filter (fun x => x ≠ 0)

/-- `x.clip(low, high)`. -/
def clip (low high : ℚ) (a : Cell) : Cell := a.map (fun x => min (max x low) high)

/-- `f"{x:g}"`. -/
def fmt_g : Cell → String
  | none => "nan"
  | some x => Python.fmt_g x

/-- `f"{x:+.2f}"`, and `n/a` for NaN. -/
def format_z : Cell → String
  | none => "n/a"
  | some x => if x < 0 then Python.fmt_2f x else "+" ++ Python.fmt_2f x

end Cell

end Quantora
