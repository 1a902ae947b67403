import Mathlib.Tactic.LinearCombination
import Quantora.Backtest.Portfolio

/-! # What a fill does to a position

    `PositionState.take_fill` has four cases that account differently. This
    module says once what all four have in common (`Settled`): the quantity
    moves by the signed quantity of the fill, the cost basis moves by what was
    paid less what was realized, and the fill's costs are split without loss
    between the closed trades and the position that stays open.

    The statements need whole quantities: `close` discards a residue below
    `RESIDUE`, and only a whole quantity that small is surely zero. -/

namespace Quantora

/-! ## Whole quantities -/

/-- A whole number of units. -/
def Whole (x : ℚ) : Prop := x.den = 1

instance (x : ℚ) : Decidable (Whole x) := inferInstanceAs (Decidable (x.den = 1))

theorem whole_iff {x : ℚ} : Whole x ↔ ∃ z : ℤ, x = z := by
  constructor
  · intro h
    exact ⟨x.num, ((Rat.den_eq_one_iff x).mp h).symm⟩
  · rintro ⟨z, rfl⟩
    exact Rat.den_intCast z

@[simp] theorem whole_intCast (z : ℤ) : Whole z := whole_iff.mpr ⟨z, rfl⟩

@[simp] theorem whole_zero : Whole 0 := by simpa using whole_intCast 0

theorem Whole.add {x y : ℚ} (hx : Whole x) (hy : Whole y) : Whole (x + y) := by
  obtain ⟨a, rfl⟩ := whole_iff.mp hx
  obtain ⟨b, rfl⟩ := whole_iff.mp hy
  exact whole_iff.mpr ⟨a + b, by push_cast; rfl⟩

theorem Whole.neg {x : ℚ} (hx : Whole x) : Whole (-x) := by
  obtain ⟨a, rfl⟩ := whole_iff.mp hx
  exact whole_iff.mpr ⟨-a, by push_cast; rfl⟩

theorem Whole.sub {x y : ℚ} (hx : Whole x) (hy : Whole y) : Whole (x - y) := by
  rw [sub_eq_add_neg]
  exact hx.add hy.neg

theorem Whole.abs {x : ℚ} (hx : Whole x) : Whole |x| := by
  rcases abs_choice x with h | h <;> rw [h]
  · exact hx
  · exact hx.neg

theorem Whole.sign_mul {x : ℚ} (hx : Whole x) (side : OrderSide) : Whole (side.sign * x) := by
  cases side
  · simpa using hx
  · simpa using hx.neg

/-- A whole quantity below one unit is zero. -/
theorem Whole.eq_zero_of_abs_lt {x : ℚ} (hx : Whole x) (h : |x| < 1) : x = 0 := by
  obtain ⟨a, rfl⟩ := whole_iff.mp hx
  have habs : |a| < 1 := by exact_mod_cast h
  exact_mod_cast Int.abs_lt_one_iff.mp habs

namespace PositionState

/-! ## Sound positions -/

/-- What the open position cost at its average price. -/
def basis (position : PositionState) : ℚ := position.average_price * position.quantity

/-- A whole position that carries neither a price nor costs while flat. -/
structure Sound (position : PositionState) : Prop where
  whole : Whole position.quantity
  average_price_of_flat : position.quantity = 0 → position.average_price = 0
  open_costs_of_flat : position.quantity = 0 → position.open_costs = 0

theorem sound_fresh (symbol : String) : Sound { symbol := symbol } :=
  ⟨whole_zero, fun _ => rfl, fun _ => rfl⟩

@[simp] theorem is_flat_iff {position : PositionState} :
    position.is_flat = true ↔ position.quantity = 0 := by simp [is_flat]

theorem unrealized_pnl_eq (position : PositionState) (price : ℚ) :
    position.unrealized_pnl price = position.market_value price - position.basis := by
  unfold unrealized_pnl market_value basis
  ring

/-- Long, short or neither. -/
theorem sign_cases (position : PositionState) :
    (0 < position.quantity ∧ position.sign = 1) ∨ (position.quantity < 0 ∧ position.sign = -1) ∨
      (position.quantity = 0 ∧ position.sign = 0) := by
  unfold sign
  split_ifs with hpos hneg
  · exact Or.inl ⟨hpos, rfl⟩
  · exact Or.inr (Or.inl ⟨hneg, rfl⟩)
  · exact Or.inr (Or.inr ⟨le_antisymm (not_lt.mp hpos) (not_lt.mp hneg), rfl⟩)

theorem sign_mul_quantity (position : PositionState) :
    (position.sign : ℚ) * position.quantity = |position.quantity| := by
  rcases position.sign_cases with ⟨hpos, hsign⟩ | ⟨hneg, hsign⟩ | ⟨hzero, hsign⟩
  · simp [hsign, abs_of_pos hpos]
  · simp [hsign, abs_of_neg hneg]
  · simp [hsign, hzero]

theorem sign_mul_abs (position : PositionState) :
    (position.sign : ℚ) * |position.quantity| = position.quantity := by
  rcases position.sign_cases with ⟨hpos, hsign⟩ | ⟨hneg, hsign⟩ | ⟨hzero, hsign⟩
  · simp [hsign, abs_of_pos hpos]
  · simp [hsign, abs_of_neg hneg]
  · simp [hsign, hzero]

/-- An open position on the other side of a fill has the opposite sign. -/
theorem sign_eq_neg {position : PositionState} {side : OrderSide}
    (hopen : position.quantity ≠ 0) (hne : position.sign ≠ side.sign) :
    position.sign = -side.sign := by
  revert hne
  unfold sign
  cases side <;> split_ifs with hpos hneg <;> simp
  all_goals exact hopen (le_antisymm (not_lt.mp hpos) (not_lt.mp hneg))

/-! ## Closing -/

section Close

variable {position : PositionState} {fill : FillEvent} {closing_quantity exit_cost : ℚ}
  {bar_index : ℕ}

@[simp] theorem close_symbol (bar_index : ℕ) :
    (position.close fill closing_quantity exit_cost bar_index).1.symbol = position.symbol := by
  simp only [close, clear_residue]
  split_ifs <;> rfl

@[simp] theorem close_realized_pnl :
    (position.close fill closing_quantity exit_cost bar_index).1.realized_pnl
      = position.realized_pnl
        + (position.close fill closing_quantity exit_cost bar_index).2.pnl := by
  simp only [close, clear_residue]
  split_ifs <;> rfl

theorem close_pnl :
    (position.close fill closing_quantity exit_cost bar_index).2.pnl
      = (position.close fill closing_quantity exit_cost bar_index).2.gross_pnl
        - (position.close fill closing_quantity exit_cost bar_index).2.costs := rfl

theorem close_gross_pnl :
    (position.close fill closing_quantity exit_cost bar_index).2.gross_pnl
      = (fill.fill_price - position.average_price) * closing_quantity * position.sign := rfl

theorem close_costs (hfill : fill.quantity ≠ 0) :
    (position.close fill closing_quantity exit_cost bar_index).2.costs
      = position.open_costs * (closing_quantity / |position.quantity|)
        + exit_cost * (closing_quantity / fill.quantity) := by
  simp [close, hfill]

/-- Closing a part keeps the average price and releases costs in proportion. -/
theorem close_of_remaining (fill : FillEvent) (exit_cost : ℚ) (bar_index : ℕ)
    (h : RESIDUE ≤ |position.quantity + position.sign * -closing_quantity|) :
    let closed := (position.close fill closing_quantity exit_cost bar_index).1
    closed.quantity = position.quantity + position.sign * -closing_quantity ∧
      closed.average_price = position.average_price ∧
      closed.open_costs = position.open_costs
        - position.open_costs * (closing_quantity / |position.quantity|) := by
  have hlt : ¬ |position.quantity + position.sign * -closing_quantity| < RESIDUE := not_lt.mpr h
  simp only [close, clear_residue]
  rw [if_neg hlt]
  exact ⟨rfl, rfl, rfl⟩

/-- Closing everything leaves a flat position. -/
theorem close_of_residue (fill : FillEvent) (exit_cost : ℚ) (bar_index : ℕ)
    (h : |position.quantity + position.sign * -closing_quantity| < RESIDUE) :
    let closed := (position.close fill closing_quantity exit_cost bar_index).1
    closed.quantity = 0 ∧ closed.average_price = 0 ∧ closed.open_costs = 0 := by
  simp only [close, clear_residue]
  rw [if_pos h]
  exact ⟨rfl, rfl, rfl⟩

/-- Closing the whole position leaves nothing to be cleared. -/
theorem residue_of_full (position : PositionState) :
    |position.quantity + position.sign * -(|position.quantity|)| < RESIDUE := by
  have hz : position.quantity + position.sign * -(|position.quantity|) = 0 := by
    have := position.sign_mul_abs
    linarith
  rw [hz, abs_zero]
  norm_num [RESIDUE]

end Close

/-! ## The common effect of all four cases -/

/-- What `take_fill` guarantees, whichever case it takes. -/
structure Settled (position : PositionState) (fill : FillEvent)
    (position' : PositionState) (closed : List Trade) : Prop where
  symbol : position'.symbol = position.symbol
  quantity : position'.quantity = position.quantity + fill.signed_quantity
  basis : position'.basis
    = position.basis + fill.signed_quantity * fill.fill_price + (closed.map Trade.gross_pnl).sum
  open_costs : position'.open_costs + (closed.map Trade.costs).sum
    = position.open_costs + fill.total_cost
  realized_pnl : position'.realized_pnl = position.realized_pnl + (closed.map Trade.pnl).sum
  pnl : ∀ trade ∈ closed, trade.pnl = trade.gross_pnl - trade.costs
  sound : position'.Sound

section TakeFill

variable {position : PositionState} {fill : FillEvent} {bar_index : ℕ}

theorem signed_quantity_ne_zero (hpos : 0 < fill.quantity) : fill.signed_quantity ≠ 0 := by
  rw [← abs_ne_zero, fill.abs_signed_quantity, abs_of_pos hpos]
  exact hpos.ne'

theorem settled_open (hsound : position.Sound) (hflat : position.quantity = 0)
    (hwhole : Whole fill.quantity) (hpos : 0 < fill.quantity) :
    Settled position fill
      (position.open_ fill fill.signed_quantity fill.total_cost bar_index) [] := by
  have hne := signed_quantity_ne_zero hpos
  constructor
  · rfl
  · simp [open_, hflat]
  · simp [basis, open_, hflat, mul_comm]
  · simp [open_, hsound.open_costs_of_flat hflat]
  · simp [open_]
  · simp
  · exact ⟨hwhole.sign_mul fill.side, fun h => absurd h hne, fun h => absurd h hne⟩

/-- Adding on the position's own side never reaches zero. -/
theorem add_quantity_ne_zero (hopen : position.quantity ≠ 0)
    (hside : position.sign = fill.side.sign) (hpos : 0 < fill.quantity) :
    position.quantity + fill.signed_quantity ≠ 0 := by
  have hq : 0 < (fill.side.sign : ℚ) * position.quantity := by
    rw [← hside, position.sign_mul_quantity]
    exact abs_pos.mpr hopen
  intro hz
  have hs := fill.side.sign_mul_self
  have hsum : (fill.side.sign : ℚ) * position.quantity + fill.quantity = 0 := by
    unfold FillEvent.signed_quantity at hz
    linear_combination (fill.side.sign : ℚ) * hz - fill.quantity * hs
  linarith

theorem settled_add (hsound : position.Sound) (hopen : position.quantity ≠ 0)
    (hside : position.sign = fill.side.sign) (hwhole : Whole fill.quantity)
    (hpos : 0 < fill.quantity) :
    Settled position fill (position.add fill fill.signed_quantity fill.total_cost) [] := by
  have hne := add_quantity_ne_zero hopen hside hpos
  constructor
  · rfl
  · rfl
  · simp only [basis, add, List.map_nil, List.sum_nil, add_zero]
    rw [div_mul_cancel₀ _ hne]
    ring
  · simp [add]
  · simp [add]
  · simp
  · exact ⟨hsound.whole.add (hwhole.sign_mul fill.side), fun h => absurd h hne,
      fun h => absurd h hne⟩

theorem cast_sign_eq_neg (hsign : position.sign = -fill.side.sign) :
    (position.sign : ℚ) = -fill.side.sign := by
  rw [hsign]
  push_cast
  rfl

/-- The quantity after closing `closing_quantity` units against a fill of the
    other side. -/
theorem reduced_quantity_eq (hsign : position.sign = -fill.side.sign) (closing_quantity : ℚ) :
    position.quantity + position.sign * -closing_quantity
      = position.quantity + fill.side.sign * closing_quantity := by
  rw [cast_sign_eq_neg hsign]
  ring

/-- A smaller fill of the other side leaves something open. -/
theorem reduced_quantity_ne_zero (hsign : position.sign = -fill.side.sign)
    (hlt : fill.quantity < |position.quantity|) :
    position.quantity + position.sign * -fill.quantity ≠ 0 := by
  have hsq := cast_sign_eq_neg hsign
  intro hz
  have habs := position.sign_mul_quantity
  have hs := fill.side.sign_mul_self
  rw [hsq] at habs hz
  -- Nothing open would mean that the fill was as large as the position.
  have : |position.quantity| = fill.quantity := by
    linear_combination -habs + (-(fill.side.sign : ℚ)) * hz + fill.quantity * hs
  linarith

theorem whole_reduced_quantity (hsound : position.Sound)
    (hsign : position.sign = -fill.side.sign) (hwhole : Whole fill.quantity) :
    Whole (position.quantity + position.sign * -fill.quantity) := by
  rw [reduced_quantity_eq hsign fill.quantity]
  exact hsound.whole.add (hwhole.sign_mul fill.side)

/-- The rest is whole and not zero, hence above the residue. -/
theorem residue_le_reduced_quantity (hsound : position.Sound)
    (hsign : position.sign = -fill.side.sign) (hwhole : Whole fill.quantity)
    (hlt : fill.quantity < |position.quantity|) :
    RESIDUE ≤ |position.quantity + position.sign * -fill.quantity| := by
  have hrest := whole_reduced_quantity hsound hsign hwhole
  -- Below the residue it is below one unit, and so zero.
  by_contra hcon
  refine reduced_quantity_ne_zero hsign hlt (hrest.eq_zero_of_abs_lt ((not_le.mp hcon).trans ?_))
  norm_num [RESIDUE]

/-- The fill is smaller than the position: a part is closed. -/
theorem settled_reduce (hsound : position.Sound) (hsign : position.sign = -fill.side.sign)
    (hwhole : Whole fill.quantity) (hpos : 0 < fill.quantity)
    (hlt : fill.quantity < |position.quantity|) :
    Settled position fill
      (position.close fill fill.quantity fill.total_cost bar_index).1
      [(position.close fill fill.quantity fill.total_cost bar_index).2] := by
  have hopen : position.quantity ≠ 0 := abs_pos.mp (hpos.trans hlt)
  have hsq := cast_sign_eq_neg hsign
  have hred := reduced_quantity_eq hsign fill.quantity
  have hwhole' := whole_reduced_quantity hsound hsign hwhole
  have hrest := reduced_quantity_ne_zero hsign hlt
  have hres := residue_le_reduced_quantity hsound hsign hwhole hlt
  obtain ⟨hq, ha, hc⟩ := close_of_remaining fill fill.total_cost bar_index hres
  constructor
  · exact close_symbol bar_index
  · rw [hq, hred]; rfl
  -- The basis leaves with the units; what they brought in above it is gross PnL.
  · simp only [basis, hq, ha, List.map_cons, List.map_nil, List.sum_cons, List.sum_nil, add_zero,
      close_gross_pnl, hsq, FillEvent.signed_quantity]
    ring
  · simp only [List.map_cons, List.map_nil, List.sum_cons, List.sum_nil, add_zero, hc,
      close_costs hpos.ne']
    rw [div_self hpos.ne']
    ring
  · simp
  · simp only [List.mem_singleton]
    rintro trade rfl
    exact close_pnl
  · refine ⟨hq ▸ hwhole', fun h => absurd (hq ▸ h) hrest, fun h => absurd (hq ▸ h) hrest⟩

/-- The fill is as large as the position: everything is closed. -/
theorem settled_close (hopen : position.quantity ≠ 0) (hsign : position.sign = -fill.side.sign)
    (hpos : 0 < fill.quantity) (heq : fill.quantity = |position.quantity|) :
    Settled position fill
      (position.close fill |position.quantity| fill.total_cost bar_index).1
      [(position.close fill |position.quantity| fill.total_cost bar_index).2] := by
  have hsq := cast_sign_eq_neg hsign
  have habs := position.sign_mul_abs
  obtain ⟨hq, ha, hc⟩ := close_of_residue fill fill.total_cost bar_index
    (residue_of_full position)
  have hsigned : fill.signed_quantity = -position.quantity := by
    rw [FillEvent.signed_quantity, heq]
    rw [hsq] at habs
    linarith
  constructor
  · exact close_symbol bar_index
  · rw [hq, hsigned]; ring
  · simp only [basis, hq, ha, List.map_cons, List.map_nil, List.sum_cons, List.sum_nil, add_zero,
      close_gross_pnl, hsigned]
    linear_combination -(fill.fill_price - position.average_price) * habs
  · simp only [List.map_cons, List.map_nil, List.sum_cons, List.sum_nil, add_zero, hc,
      close_costs hpos.ne']
    rw [div_self (abs_ne_zero.mpr hopen), ← heq, div_self hpos.ne']
    ring
  · simp
  · simp only [List.mem_singleton]
    rintro trade rfl
    exact close_pnl
  · exact ⟨hq ▸ whole_zero, fun _ => ha, fun _ => hc⟩

/-- The fill is larger than the position: everything is closed and the rest
    opens a position on the fill's side. -/
theorem settled_reverse (hopen : position.quantity ≠ 0) (hsign : position.sign = -fill.side.sign)
    (hq : Whole position.quantity) (hwhole : Whole fill.quantity)
    (hlt : |position.quantity| < fill.quantity) (reversal : FillEvent)
    (hprice : reversal.fill_price = fill.fill_price) :
    Settled position fill
      ((position.close fill |position.quantity| fill.total_cost bar_index).1.open_ reversal
        (fill.side.sign * (fill.quantity - |position.quantity|))
        (fill.total_cost * ((fill.quantity - |position.quantity|) / fill.quantity)) bar_index)
      [(position.close fill |position.quantity| fill.total_cost bar_index).2] := by
  have hpos : 0 < fill.quantity := (abs_nonneg _).trans_lt hlt
  have hsq := cast_sign_eq_neg hsign
  have habs := position.sign_mul_abs
  rw [hsq] at habs
  have hrest : fill.side.sign * (fill.quantity - |position.quantity|) ≠ 0 := by
    rw [← abs_ne_zero, abs_mul, fill.side.abs_sign, one_mul, abs_ne_zero]
    exact sub_ne_zero.mpr hlt.ne'
  have hwhole' := (hwhole.sub hq.abs).sign_mul fill.side
  constructor
  · exact close_symbol bar_index
  · simp only [open_, FillEvent.signed_quantity]
    linear_combination habs
  · simp only [basis, open_, hprice, List.map_cons, List.map_nil, List.sum_cons, List.sum_nil,
      add_zero, close_gross_pnl, hsq, FillEvent.signed_quantity]
    linear_combination position.average_price * habs
  -- The fill's costs are split between what it closes and what it opens.
  · simp only [open_, List.map_cons, List.map_nil, List.sum_cons, List.sum_nil, add_zero,
      close_costs hpos.ne']
    rw [div_self (abs_ne_zero.mpr hopen)]
    have hq0 := hpos.ne'
    field_simp
    ring
  · simp [open_]
  · simp only [List.mem_singleton]
    rintro trade rfl
    exact close_pnl
  · exact ⟨hwhole', fun h => absurd h hrest, fun h => absurd h hrest⟩

/-- **Every fill settles**: all four cases of `take_fill` keep the books. -/
theorem take_fill_settled (position : PositionState) (fill : FillEvent) (bar_index : ℕ)
    (hsound : position.Sound) (hwhole : Whole fill.quantity) (hpos : 0 < fill.quantity) :
    Settled position fill (position.take_fill fill bar_index).1
      (position.take_fill fill bar_index).2 := by
  have habs : |fill.signed_quantity| = fill.quantity := by
    rw [fill.abs_signed_quantity, abs_of_pos hpos]
  by_cases hflat : position.quantity = 0
  · simp only [take_fill, is_flat_iff.mpr hflat, if_true]
    exact settled_open hsound hflat hwhole hpos
  have hnf : ¬ (position.is_flat = true) := fun h => hflat (is_flat_iff.mp h)
  by_cases hside : position.sign = fill.side.sign
  · simp only [take_fill, if_neg hnf, if_pos hside]
    exact settled_add hsound hflat hside hwhole hpos
  have hsign := sign_eq_neg hflat hside
  simp only [take_fill, if_neg hnf, if_neg hside, habs]
  rcases lt_trichotomy fill.quantity |position.quantity| with hlt | heq | hgt
  · rw [min_eq_left hlt.le, if_neg (by simp)]
    exact settled_reduce hsound hsign hwhole hpos hlt
  · rw [min_eq_right heq.ge, if_neg (by simp [heq])]
    exact settled_close hflat hsign hpos heq
  · rw [min_eq_right hgt.le, if_pos (by simpa using hgt)]
    exact settled_reverse hflat hsign hsound.whole hwhole hgt _ rfl

end TakeFill

end PositionState

end Quantora
