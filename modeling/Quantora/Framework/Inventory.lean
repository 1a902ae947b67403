import Mathlib.Algebra.BigOperators.Ring.List
import Mathlib.Algebra.Order.BigOperators.Group.List
import Mathlib.Algebra.Order.Field.Basic
import Mathlib.Data.List.Induction
import Mathlib.Tactic.FieldSimp
import Mathlib.Tactic.Linarith
import Mathlib.Tactic.LinearCombination
import Mathlib.Tactic.Ring

/-! # Inventories at average cost

    An inventory is the list of lots that make up what is held. Units are signed,
    so a lot may also be owed; all lots of an inventory are on one side.

    * A trade on the side of the inventory appends a lot.
    * A smaller trade on the other side takes the same share of every lot.
    * A trade as large as the inventory empties it, and a larger one leaves a
      single lot of the rest, at its own price.

    `mean` is the average price, weighted by the units that are left of each lot.
    Reducing keeps it, and it lies between the prices of two lots. -/

namespace Inventory

/-- Units acquired together. -/
structure Lot (α τ : Type*) where
  price : α
  units : α
  entry : τ
  deriving DecidableEq

section Definitions

variable {α τ : Type*} [Field α]

/-- What is held. -/
def total (lots : List (Lot α τ)) : α := (lots.map Lot.units).sum

/-- What it was acquired for. -/
def value (lots : List (Lot α τ)) : α := (lots.map fun lot => lot.price * lot.units).sum

/-- The average price of what is held. -/
def mean (lots : List (Lot α τ)) : α := value lots / total lots

/-- A share of every lot. -/
def scale (share : α) (lots : List (Lot α τ)) : List (Lot α τ) :=
  lots.map fun lot => { lot with units := share * lot.units }

@[simp] theorem total_nil : total ([] : List (Lot α τ)) = 0 := rfl

@[simp] theorem total_singleton (lot : Lot α τ) : total [lot] = lot.units := by
  simp [total]

@[simp] theorem value_singleton (lot : Lot α τ) : value [lot] = lot.price * lot.units := by
  simp [value]

@[simp] theorem total_append (lots later : List (Lot α τ)) :
    total (lots ++ later) = total lots + total later := by
  simp [total]

@[simp] theorem value_append (lots later : List (Lot α τ)) :
    value (lots ++ later) = value lots + value later := by
  simp [value]

theorem total_scale (share : α) (lots : List (Lot α τ)) :
    total (scale share lots) = share * total lots := by
  simp only [total, scale, List.map_map, Function.comp_def, List.sum_map_mul_left]

theorem value_scale (share : α) (lots : List (Lot α τ)) :
    value (scale share lots) = share * value lots := by
  simp only [value, scale, List.map_map, Function.comp_def]
  rw [← List.sum_map_mul_left]
  congr 1
  apply List.map_congr_left
  intro lot _
  ring

/-- Taking the same share of every lot keeps the average. -/
theorem mean_scale {share : α} (hshare : share ≠ 0) (lots : List (Lot α τ)) :
    mean (scale share lots) = mean lots := by
  rw [mean, value_scale, total_scale, mul_div_mul_left _ _ hshare, mean]

theorem mem_head?_scale {share : α} {lots : List (Lot α τ)} {first : Lot α τ}
    (h : first ∈ (scale share lots).head?) :
    ∃ lot ∈ lots.head?, { lot with units := share * lot.units } = first := by
  rw [scale, List.head?_map] at h
  exact Option.mem_map.mp h

/-- Adding a lot moves the average toward its price. -/
theorem mean_append {lots : List (Lot α τ)} (hne : total lots ≠ 0) (lot : Lot α τ) :
    mean (lots ++ [lot])
      = (mean lots * total lots + lot.price * lot.units) / (total lots + lot.units) := by
  rw [mean, value_append, total_append, value_singleton, total_singleton, mean,
    div_mul_cancel₀ _ hne]

end Definitions

variable {α τ : Type*} [Field α] [LinearOrder α] [IsStrictOrderedRing α]

/-- All lots are held, or all are owed. -/
def OneSided (lots : List (Lot α τ)) : Prop :=
  (∀ lot ∈ lots, 0 < lot.units) ∨ ∀ lot ∈ lots, lot.units < 0

/-- Trade `units` at `price`. -/
def trade (lots : List (Lot α τ)) (price units : α) (entry : τ) : List (Lot α τ) :=
  if lots.isEmpty then [⟨price, units, entry⟩]
  else if 0 < total lots * units then lots ++ [⟨price, units, entry⟩]
  else if |units| < |total lots| then scale ((total lots + units) / total lots) lots
  else if |units| = |total lots| then []
  else [⟨price, total lots + units, entry⟩]

/-! ## One side -/

section OneSided

variable {lots : List (Lot α τ)}

theorem total_pos (h : ∀ lot ∈ lots, 0 < lot.units) (hne : lots ≠ []) : 0 < total lots := by
  refine List.sum_pos _ ?_ (by simpa using hne)
  intro x hx
  obtain ⟨lot, hlot, rfl⟩ := List.mem_map.mp hx
  exact h lot hlot

theorem total_neg (h : ∀ lot ∈ lots, lot.units < 0) (hne : lots ≠ []) : total lots < 0 := by
  have hopposite : total (scale (-1) lots) = -total lots := by rw [total_scale, neg_one_mul]
  have hpos : 0 < total (scale (-1) lots) := by
    refine total_pos ?_ (by simpa [scale] using hne)
    intro lot hlot
    obtain ⟨lot', hlot', rfl⟩ := List.mem_map.mp hlot
    simpa using h lot' hlot'
  rw [hopposite] at hpos
  exact neg_pos.mp hpos

/-- Lots on one side do not cancel. -/
theorem total_ne_zero (h : OneSided lots) (hne : lots ≠ []) : total lots ≠ 0 := by
  rcases h with hpos | hneg
  · exact (total_pos hpos hne).ne'
  · exact (total_neg hneg hne).ne

omit [IsStrictOrderedRing α] in
theorem one_sided_singleton {lot : Lot α τ} (h : lot.units ≠ 0) : OneSided [lot] := by
  rcases lt_or_gt_of_ne h with hneg | hpos
  · exact Or.inr (by simpa using hneg)
  · exact Or.inl (by simpa using hpos)

theorem one_sided_append (h : OneSided lots) {lot : Lot α τ}
    (hside : 0 < total lots * lot.units) : OneSided (lots ++ [lot]) := by
  have hne : lots ≠ [] := by
    rintro rfl
    simp at hside
  rcases h with hpos | hneg
  · have hlot : 0 < lot.units := (mul_pos_iff_of_pos_left (total_pos hpos hne)).mp hside
    exact Or.inl (List.forall_mem_append.mpr ⟨hpos, List.forall_mem_singleton.mpr hlot⟩)
  · have hlot : lot.units < 0 := by
      rcases pos_and_pos_or_neg_and_neg_of_mul_pos hside with ⟨htotal, -⟩ | ⟨-, hlot⟩
      · exact absurd htotal (total_neg hneg hne).not_gt
      · exact hlot
    exact Or.inr (List.forall_mem_append.mpr ⟨hneg, List.forall_mem_singleton.mpr hlot⟩)

theorem one_sided_scale (h : OneSided lots) {share : α} (hshare : 0 < share) :
    OneSided (scale share lots) := by
  rcases h with hpos | hneg
  · refine Or.inl fun lot hlot => ?_
    obtain ⟨lot', hlot', rfl⟩ := List.mem_map.mp hlot
    exact mul_pos hshare (hpos lot' hlot')
  · refine Or.inr fun lot hlot => ?_
    obtain ⟨lot', hlot', rfl⟩ := List.mem_map.mp hlot
    exact mul_neg_of_pos_of_neg hshare (hneg lot' hlot')

/-- The average lies between the prices of two lots. -/
theorem exists_le_mean (h : OneSided lots) (hne : lots ≠ []) :
    (∃ lot ∈ lots, lot.price ≤ mean lots) ∧ ∃ lot ∈ lots, mean lots ≤ lot.price := by
  have htotal := total_ne_zero h hne
  -- The prices and the average are worth the same.
  have hsame : (lots.map fun lot => lot.price * lot.units).sum
      = (lots.map fun lot => mean lots * lot.units).sum := by
    rw [List.sum_map_mul_left]
    show value lots = mean lots * total lots
    rw [mean, div_mul_cancel₀ _ htotal]
  obtain ⟨low, hlow, hle⟩ := List.exists_le_of_sum_le hne _ _ hsame.le
  obtain ⟨high, hhigh, hge⟩ := List.exists_le_of_sum_le hne _ _ hsame.ge
  rcases h with hpos | hneg
  · exact ⟨⟨low, hlow, (mul_le_mul_iff_left₀ (hpos low hlow)).mp hle⟩,
      ⟨high, hhigh, (mul_le_mul_iff_left₀ (hpos high hhigh)).mp hge⟩⟩
  · exact ⟨⟨high, hhigh, (mul_le_mul_right_of_neg (hneg high hhigh)).mp hge⟩,
      ⟨low, hlow, (mul_le_mul_right_of_neg (hneg low hlow)).mp hle⟩⟩

end OneSided

/-! ## Trades -/

section Trade

variable {lots : List (Lot α τ)} {price units : α} {entry : τ}

omit [IsStrictOrderedRing α] in
theorem trade_nil (price units : α) (entry : τ) :
    trade ([] : List (Lot α τ)) price units entry = [⟨price, units, entry⟩] := rfl

omit [IsStrictOrderedRing α] in
theorem trade_add (hside : 0 < total lots * units) (price : α) (entry : τ) :
    trade lots price units entry = lots ++ [⟨price, units, entry⟩] := by
  have hne : lots.isEmpty = false := by
    cases lots with
    | nil => simp at hside
    | cons lot lots => rfl
  rw [trade, hne, if_neg Bool.false_ne_true, if_pos hside]

omit [IsStrictOrderedRing α] in
/-- A trade on the other side, by its size. -/
theorem trade_against (hne : lots ≠ []) (hside : total lots * units ≤ 0) (price : α) (entry : τ) :
    trade lots price units entry
      = if |units| < |total lots| then scale ((total lots + units) / total lots) lots
        else if |units| = |total lots| then []
        else [⟨price, total lots + units, entry⟩] := by
  have hempty : ¬ lots.isEmpty = true := by simpa using hne
  rw [trade, if_neg hempty, if_neg hside.not_gt]

/-- What is left of an inventory that a smaller trade reduces. -/
theorem share_pos (htotal : total lots ≠ 0) (hless : |units| < |total lots|) :
    0 < (total lots + units) / total lots := by
  have hunits := abs_lt.mp hless
  rcases lt_or_gt_of_ne htotal with hneg | hpos
  · rw [abs_of_neg hneg] at hunits
    exact div_pos_of_neg_of_neg (by linarith) hneg
  · rw [abs_of_pos hpos] at hunits
    exact div_pos (by linarith) hpos

/-- **Every trade moves the total by its units.** -/
theorem total_trade (h : OneSided lots) (price : α) (entry : τ) :
    total (trade lots price units entry) = total lots + units := by
  by_cases hne : lots = []
  · subst hne
    rw [trade_nil]
    simp
  have htotal := total_ne_zero h hne
  by_cases hside : 0 < total lots * units
  · rw [trade_add hside, total_append, total_singleton]
  rw [trade_against hne (not_lt.mp hside)]
  split_ifs with hless hequal
  · rw [total_scale, div_mul_cancel₀ _ htotal]
  · -- As large as the inventory and on the other side.
    rcases abs_eq_abs.mp hequal with hsame | hopposite
    · rw [hsame] at hside
      exact absurd (mul_self_pos.mpr htotal) hside
    · rw [hopposite, add_neg_cancel]
      rfl
  · rw [total_singleton]

theorem one_sided_trade (h : OneSided lots) (hunits : units ≠ 0) (price : α) (entry : τ) :
    OneSided (trade lots price units entry) := by
  by_cases hne : lots = []
  · subst hne
    exact one_sided_singleton hunits
  have htotal := total_ne_zero h hne
  by_cases hside : 0 < total lots * units
  · rw [trade_add hside]
    exact one_sided_append h hside
  rw [trade_against hne (not_lt.mp hside)]
  split_ifs with hless hequal
  · exact one_sided_scale h (share_pos htotal hless)
  · exact Or.inl fun lot hlot => nomatch hlot
  · -- What is left over is not nothing.
    apply one_sided_singleton
    intro hzero
    have hopposite : units = -total lots := by linear_combination hzero
    rw [hopposite, abs_neg] at hequal
    exact hequal rfl

omit [IsStrictOrderedRing α] in
/-- A lot's price and entry are those of some trade: reducing moves neither. -/
theorem mem_trade {lot : Lot α τ} (hlot : lot ∈ trade lots price units entry) :
    (lot.price = price ∧ lot.entry = entry) ∨
      ∃ lot' ∈ lots, lot.price = lot'.price ∧ lot.entry = lot'.entry := by
  unfold trade at hlot
  split_ifs at hlot with hempty hside hless hequal
  · rw [List.mem_singleton.mp hlot]
    exact Or.inl ⟨rfl, rfl⟩
  · rcases List.mem_append.mp hlot with hold | hnew
    · exact Or.inr ⟨lot, hold, rfl, rfl⟩
    · rw [List.mem_singleton.mp hnew]
      exact Or.inl ⟨rfl, rfl⟩
  · obtain ⟨lot', hlot', rfl⟩ := List.mem_map.mp hlot
    exact Or.inr ⟨lot', hlot', rfl, rfl⟩
  · cases hlot
  · rw [List.mem_singleton.mp hlot]
    exact Or.inl ⟨rfl, rfl⟩

end Trade

/-! ## Any trades -/

/-- What is held after the trades, from nothing. -/
def after (trades : List (Lot α τ)) : List (Lot α τ) :=
  trades.foldl (fun lots t => trade lots t.price t.units t.entry) []

omit [IsStrictOrderedRing α] in
@[simp] theorem after_nil : after ([] : List (Lot α τ)) = [] := rfl

omit [IsStrictOrderedRing α] in
@[simp] theorem after_concat (trades : List (Lot α τ)) (t : Lot α τ) :
    after (trades ++ [t]) = trade (after trades) t.price t.units t.entry := by
  rw [after, List.foldl_append, ← after]
  rfl

omit [IsStrictOrderedRing α] in
/-- No price and no entry is made up. -/
theorem mem_after (trades : List (Lot α τ)) :
    ∀ lot ∈ after trades, ∃ t ∈ trades, lot.price = t.price ∧ lot.entry = t.entry := by
  induction trades using List.reverseRecOn with
  | nil => exact fun lot hlot => nomatch hlot
  | append_singleton trades t ih =>
    intro lot hlot
    rw [after_concat] at hlot
    rcases mem_trade hlot with ⟨hprice, hentry⟩ | ⟨lot', hlot', hprice, hentry⟩
    · exact ⟨t, List.mem_append_right _ (List.mem_singleton_self t), hprice, hentry⟩
    · obtain ⟨t', ht', hprice', hentry'⟩ := ih lot' hlot'
      exact ⟨t', List.mem_append_left _ ht', hprice.trans hprice', hentry.trans hentry'⟩

end Inventory
