import Mathlib.Tactic.FieldSimp
import Quantora.Framework.Smoothing

/-! # Compounding

    A level that every step multiplies by one plus a rate.

    * `grow` — one step. Above a rate of -1 a positive level stays positive.
    * `changes` — the rates of a list of values.
    * `levels_changes` — compounding the changes of a list gives the list again,
      up to the factor between the two first values. -/

namespace Compounding

variable {K : Type*} [Field K]

/-- A level after one rate. -/
def grow (level rate : K) : K := level * (1 + rate)

/-- Each value but the first, as a fraction of change since the one before it. -/
def changes (values : List K) : List K :=
  List.zipWith (fun before now => now / before - 1) values values.tail

theorem grow_change (level now : K) {before : K} (h : before ≠ 0) :
    grow (level * before) (now / before - 1) = level * now := by
  unfold grow
  rw [add_sub_cancel, mul_assoc, mul_div_cancel₀ now h]

/-- Induction over the values after the first, for any level to start from. -/
theorem levels_changes {first : K} {rest : List K} (h : ∀ x ∈ first :: rest, x ≠ 0) (level : K) :
    Column.levels grow (level * first) (changes (first :: rest))
      = rest.map (fun x => level * x) := by
  induction rest generalizing first with
  | nil => rfl
  | cons second rest ih =>
    obtain ⟨hfirst, hrest⟩ := List.forall_mem_cons.mp h
    have hstep := grow_change level second hfirst
    show grow (level * first) (second / first - 1)
      :: Column.levels grow (grow (level * first) (second / first - 1)) (changes (second :: rest))
      = level * second :: rest.map (fun x => level * x)
    rw [hstep, ih hrest]

/-- A level of 1 compounds to the values over the first of them. -/
theorem one_levels_changes {first : K} {rest : List K} (h : ∀ x ∈ first :: rest, x ≠ 0) :
    1 :: Column.levels grow 1 (changes (first :: rest))
      = (first :: rest).map (fun x => x / first) := by
  have hfirst : first ≠ 0 := h first List.mem_cons_self
  have hlevels := levels_changes h first⁻¹
  rw [inv_mul_cancel₀ hfirst] at hlevels
  rw [hlevels, List.map_cons, div_self hfirst]
  congr 1
  exact List.map_congr_left fun x _ => inv_mul_eq_div first x

section Positive

variable [LinearOrder K] [IsStrictOrderedRing K] {level rate : K} {rates : List K}

theorem grow_pos (hlevel : 0 < level) (hrate : -1 < rate) : 0 < grow level rate :=
  mul_pos hlevel (by linarith)

theorem levels_pos (hlevel : 0 < level) (h : ∀ r ∈ rates, -1 < r) :
    ∀ l ∈ Column.levels grow level rates, 0 < l := by
  induction rates generalizing level with
  | nil =>
    intro l hl
    cases hl
  | cons rate rates ih =>
    obtain ⟨hrate, hrates⟩ := List.forall_mem_cons.mp h
    have hgrown : 0 < grow level rate := grow_pos hlevel hrate
    exact List.forall_mem_cons.mpr ⟨hgrown, ih hgrown hrates⟩

/-- Between positive values nothing loses all of its value. -/
theorem neg_one_lt_change {before now : K} (hbefore : 0 < before) (hnow : 0 < now) :
    -1 < now / before - 1 := by
  have hratio : 0 < now / before := div_pos hnow hbefore
  linarith

end Positive

end Compounding
