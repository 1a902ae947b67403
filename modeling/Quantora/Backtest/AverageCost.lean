import Quantora.Backtest.Interleaving
import Quantora.Cpp.Parity
import Quantora.Framework.Inventory

/-! # What the average price is an average of

    A position records one average price and the bar of its entry. The abstract
    account of the same fills is an inventory of lots (`Framework.Inventory`),
    which reads the signed quantities and the prices of the fills and nothing
    else.

    * `take_fill_cases` — the fields after a fill, case by case.
    * `Tracks` — a position records its inventory; every fill keeps it so.
    * `position_representation` — over any fills, on any symbols, and in the C++
      portfolio as well. -/

namespace Quantora

open Inventory (Lot total mean trade OneSided)

/-! ## The fields after a fill -/

namespace PositionState

section Cases

variable {position : PositionState} {fill : FillEvent} {bar_index : ℕ}

@[simp] theorem close_entry_bar_index (position : PositionState) (fill : FillEvent)
    (closing_quantity exit_cost : ℚ) (bar_index : ℕ) :
    (position.close fill closing_quantity exit_cost bar_index).1.entry_bar_index
      = position.entry_bar_index := by
  simp only [close, clear_residue]
  split_ifs <;> rfl

/-- A fill on the position's own side. -/
theorem same_side_pos (hopen : position.quantity ≠ 0) (hside : position.sign = fill.side.sign)
    (hpos : 0 < fill.quantity) : 0 < position.quantity * fill.signed_quantity := by
  have hproduct : position.quantity * fill.signed_quantity
      = |position.quantity| * fill.quantity := by
    rw [← position.sign_mul_quantity, hside, FillEvent.signed_quantity]
    ring
  rw [hproduct]
  exact mul_pos (abs_pos.mpr hopen) hpos

/-- A fill on the other side. -/
theorem other_side_neg (hopen : position.quantity ≠ 0) (hsign : position.sign = -fill.side.sign)
    (hpos : 0 < fill.quantity) : position.quantity * fill.signed_quantity < 0 := by
  have hproduct : position.quantity * fill.signed_quantity
      = -(|position.quantity| * fill.quantity) := by
    rw [← position.sign_mul_quantity, hsign, FillEvent.signed_quantity]
    push_cast
    ring
  rw [hproduct]
  exact neg_neg_of_pos (mul_pos (abs_pos.mpr hopen) hpos)

/-- **Inversion**: opened, added to, reduced, closed or reversed. -/
theorem take_fill_cases (position : PositionState) {fill : FillEvent} (bar_index : ℕ)
    (hsound : position.Sound) (hwhole : Whole fill.quantity) (hpos : 0 < fill.quantity) :
    (position.quantity = 0 ∧
      (position.take_fill fill bar_index).1.average_price = fill.fill_price ∧
      (position.take_fill fill bar_index).1.entry_bar_index = bar_index) ∨
    (0 < position.quantity * fill.signed_quantity ∧
      (position.take_fill fill bar_index).1.average_price
        = (position.average_price * position.quantity + fill.fill_price * fill.signed_quantity)
          / (position.quantity + fill.signed_quantity) ∧
      (position.take_fill fill bar_index).1.entry_bar_index = position.entry_bar_index) ∨
    (position.quantity * fill.signed_quantity < 0 ∧
      |fill.signed_quantity| < |position.quantity| ∧
      (position.take_fill fill bar_index).1.average_price = position.average_price ∧
      (position.take_fill fill bar_index).1.entry_bar_index = position.entry_bar_index) ∨
    (position.quantity * fill.signed_quantity < 0 ∧
      |fill.signed_quantity| = |position.quantity|) ∨
    (position.quantity * fill.signed_quantity < 0 ∧
      |position.quantity| < |fill.signed_quantity| ∧
      (position.take_fill fill bar_index).1.average_price = fill.fill_price ∧
      (position.take_fill fill bar_index).1.entry_bar_index = bar_index) := by
  have habs : |fill.signed_quantity| = fill.quantity := by
    rw [fill.abs_signed_quantity, abs_of_pos hpos]
  by_cases hflat : position.quantity = 0
  · left
    simp only [take_fill, is_flat_iff.mpr hflat, if_true]
    exact ⟨hflat, rfl, rfl⟩
  have hnf : ¬ (position.is_flat = true) := fun h => hflat (is_flat_iff.mp h)
  by_cases hside : position.sign = fill.side.sign
  · right; left
    simp only [take_fill, if_neg hnf, if_pos hside]
    exact ⟨same_side_pos hflat hside hpos, rfl, rfl⟩
  have hsign := sign_eq_neg hflat hside
  have hagainst := other_side_neg hflat hsign hpos
  simp only [take_fill, if_neg hnf, if_neg hside, habs]
  -- Against the position: what is left of either decides.
  rcases lt_trichotomy fill.quantity |position.quantity| with hlt | heq | hgt
  · right; right; left
    rw [min_eq_left hlt.le, if_neg (by simp)]
    have hres := residue_le_reduced_quantity hsound hsign hwhole hlt
    exact ⟨hagainst, hlt, (close_of_remaining fill fill.total_cost bar_index hres).2.1,
      close_entry_bar_index position fill fill.quantity fill.total_cost bar_index⟩
  · right; right; right; left
    exact ⟨hagainst, heq⟩
  · right; right; right; right
    rw [min_eq_right hgt.le, if_pos (by simpa using hgt)]
    exact ⟨hagainst, hgt, rfl, rfl⟩

end Cases

/-! ## Positions that record their inventory -/

/-- The position says of its lots what it can: how many, at what average price
    and since when. -/
structure Tracks (position : PositionState) (lots : List (Lot ℚ ℕ)) : Prop where
  sound : position.Sound
  one_sided : OneSided lots
  quantity : position.quantity = total lots
  average_price : lots ≠ [] → position.average_price = mean lots
  entry : ∀ first ∈ lots.head?, position.entry_bar_index = first.entry

theorem tracks_fresh (symbol : String) : Tracks { symbol := symbol } [] where
  sound := sound_fresh symbol
  one_sided := Or.inl fun _ hlot => nomatch hlot
  quantity := rfl
  average_price := fun hne => absurd rfl hne
  entry := fun _ hfirst => nomatch hfirst

namespace Tracks

variable {lots : List (Lot ℚ ℕ)} {position : PositionState}

theorem is_flat_iff_nil (h : Tracks position lots) : position.is_flat = true ↔ lots = [] := by
  rw [is_flat_iff, h.quantity]
  constructor
  · intro hzero
    by_contra hne
    exact Inventory.total_ne_zero h.one_sided hne hzero
  · rintro rfl
    rfl

theorem is_flat_iff_zero (h : Tracks position lots) :
    position.is_flat = true ↔
      position.quantity = 0 ∧ position.average_price = 0 ∧ position.open_costs = 0 := by
  rw [is_flat_iff]
  constructor
  · intro hflat
    exact ⟨hflat, h.sound.average_price_of_flat hflat, h.sound.open_costs_of_flat hflat⟩
  · exact fun hzero => hzero.1

/-- A lot that was just opened is all there is. -/
theorem mean_singleton {price units : ℚ} {bar_index : ℕ} (hunits : units ≠ 0) :
    mean [(⟨price, units, bar_index⟩ : Lot ℚ ℕ)] = price := by
  rw [mean, Inventory.value_singleton, Inventory.total_singleton, mul_div_cancel_right₀ _ hunits]

/-- Price and entry after a fill, one case per case of the fill. -/
theorem price_and_entry (h : Tracks position lots) {fill : FillEvent} (bar_index : ℕ)
    (hwhole : Whole fill.quantity) (hpos : 0 < fill.quantity) :
    (trade lots fill.fill_price fill.signed_quantity bar_index ≠ [] →
      (position.take_fill fill bar_index).1.average_price
        = mean (trade lots fill.fill_price fill.signed_quantity bar_index)) ∧
    ∀ first ∈ (trade lots fill.fill_price fill.signed_quantity bar_index).head?,
      (position.take_fill fill bar_index).1.entry_bar_index = first.entry := by
  have hunits := signed_quantity_ne_zero hpos
  have hcases := take_fill_cases position bar_index h.sound hwhole hpos
  rw [h.quantity] at hcases
  by_cases hempty : lots = []
  · subst hempty
    rcases hcases with ⟨-, hprice, hentry⟩ | ⟨hside, -⟩ | ⟨hside, -⟩ | ⟨hside, -⟩ | ⟨hside, -⟩
    · rw [Inventory.trade_nil]
      refine ⟨fun _ => by rw [hprice, mean_singleton hunits], fun first hfirst => ?_⟩
      rw [hentry, ← Option.mem_some.mp hfirst]
    all_goals simp at hside
  have htotal := Inventory.total_ne_zero h.one_sided hempty
  rcases hcases with ⟨hflat, -⟩ | ⟨hside, hprice, hentry⟩ | ⟨hside, hless, hprice, hentry⟩ |
    ⟨hside, hequal⟩ | ⟨hside, hmore, hprice, hentry⟩
  · exact absurd hflat htotal
  · -- Added to: the average moves toward the new lot, the first lot stays.
    rw [Inventory.trade_add hside]
    constructor
    · intro _
      rw [hprice, h.average_price hempty, Inventory.mean_append htotal]
    · intro first hfirst
      rw [List.head?_append_of_ne_nil _ hempty] at hfirst
      rw [hentry, h.entry first hfirst]
  · -- Reduced: a share of every lot has the same average.
    have hshare := Inventory.share_pos htotal hless
    rw [Inventory.trade_against hempty hside.le, if_pos hless]
    constructor
    · intro _
      rw [hprice, h.average_price hempty, Inventory.mean_scale hshare.ne']
    · intro first hfirst
      obtain ⟨first', hfirst', rfl⟩ := Inventory.mem_head?_scale hfirst
      rw [hentry, h.entry first' hfirst']
  · -- Closed.
    rw [Inventory.trade_against hempty hside.le, if_neg hequal.not_lt, if_pos hequal]
    exact ⟨fun hne => absurd rfl hne, fun first hfirst => nomatch hfirst⟩
  · -- Reversed: afresh, at the fill's own price.
    have hrest : total lots + fill.signed_quantity ≠ 0 := by
      intro hzero
      rw [eq_neg_of_add_eq_zero_left hzero, abs_neg] at hmore
      exact lt_irrefl _ hmore
    rw [Inventory.trade_against hempty hside.le, if_neg hmore.not_gt, if_neg hmore.ne']
    refine ⟨fun _ => by rw [hprice, mean_singleton hrest], fun first hfirst => ?_⟩
    rw [hentry, ← Option.mem_some.mp hfirst]

/-- **Step lemma**: what the fill does to the position, its trade does to the
    inventory. -/
theorem take_fill (h : Tracks position lots) (fill : FillEvent) (bar_index : ℕ)
    (hwhole : Whole fill.quantity) (hpos : 0 < fill.quantity) :
    Tracks (position.take_fill fill bar_index).1
      (trade lots fill.fill_price fill.signed_quantity bar_index) := by
  have hsettled := take_fill_settled position fill bar_index h.sound hwhole hpos
  obtain ⟨hprice, hentry⟩ := h.price_and_entry bar_index hwhole hpos
  exact
    { sound := hsettled.sound
      one_sided := Inventory.one_sided_trade h.one_sided (signed_quantity_ne_zero hpos) _ _
      quantity := by rw [hsettled.quantity, h.quantity, Inventory.total_trade h.one_sided]
      average_price := hprice
      entry := hentry }

end Tracks

end PositionState

/-! ## Any fills -/

/-- A fill as a trade of units at a price. -/
def FillEvent.lot (fill : FillEvent) (bar_index : ℕ) : Lot ℚ ℕ :=
  ⟨fill.fill_price, fill.signed_quantity, bar_index⟩

/-- A C++ fill, in the same way. -/
def Cpp.FillEvent.lot (fill : Cpp.FillEvent) (bar_index : ℕ) : Lot ℚ ℕ :=
  ⟨fill.fill_price, Cpp.side_sign fill.side * fill.quantity, bar_index⟩

/-- The fields of a position represent an inventory. -/
structure Represents (lots : List (Lot ℚ ℕ)) (is_flat : Bool)
    (quantity average_price open_costs : ℚ) (entry_bar_index : ℕ) : Prop where
  flat_iff_empty : is_flat = true ↔ lots = []
  flat_iff_zero : is_flat = true ↔ quantity = 0 ∧ average_price = 0 ∧ open_costs = 0
  held : quantity = total lots
  average : lots ≠ [] → average_price = mean lots
  least : lots ≠ [] → ∃ lot ∈ lots, lot.price ≤ average_price
  greatest : lots ≠ [] → ∃ lot ∈ lots, average_price ≤ lot.price
  opened : ∀ first ∈ lots.head?, entry_bar_index = first.entry

theorem PositionState.Tracks.represents {lots : List (Lot ℚ ℕ)} {position : PositionState}
    (h : position.Tracks lots) :
    Represents lots position.is_flat position.quantity position.average_price
      position.open_costs position.entry_bar_index where
  flat_iff_empty := h.is_flat_iff_nil
  flat_iff_zero := h.is_flat_iff_zero
  held := h.quantity
  average := h.average_price
  least := fun hne => by
    rw [h.average_price hne]
    exact (Inventory.exists_le_mean h.one_sided hne).1
  greatest := fun hne => by
    rw [h.average_price hne]
    exact (Inventory.exists_le_mean h.one_sided hne).2
  opened := h.entry

/-- **Run lemma**: the position of a symbol tracks the fills of the symbol. -/
theorem Portfolio.tracks_apply_all (initial_cash : ℚ) (symbol : String)
    (fills : List (FillEvent × ℕ)) (hfills : ∀ f ∈ fills, Whole f.1.quantity ∧ 0 < f.1.quantity) :
    (((Portfolio.new initial_cash).apply_all fills).position symbol).Tracks
      (Inventory.after ((fills.filter fun f => f.1.symbol = symbol).map fun f => f.1.lot f.2)) := by
  induction fills using List.reverseRecOn with
  | nil => exact PositionState.tracks_fresh symbol
  | append_singleton fills f ih =>
    have hbefore := ih fun f' hf' => hfills f' (List.mem_append_left _ hf')
    obtain ⟨hwhole, hpos⟩ := hfills f (List.mem_append_right _ (List.mem_singleton_self f))
    rw [Portfolio.apply_all_append, List.filter_append, List.map_append]
    show ((((Portfolio.new initial_cash).apply_all fills).apply_fill f.1 f.2).position
      symbol).Tracks _
    by_cases hsymbol : f.1.symbol = symbol
    · subst hsymbol
      rw [Portfolio.position_apply_fill_self, List.filter_cons_of_pos (by simp), List.filter_nil,
        List.map_singleton, Inventory.after_concat]
      exact hbefore.take_fill f.1 f.2 hwhole hpos
    · -- A fill of another symbol is in neither account.
      rw [Portfolio.position_apply_fill_of_ne _ _ _ hsymbol,
        List.filter_cons_of_neg (by simpa using hsymbol), List.filter_nil, List.map_nil,
        List.append_nil]
      exact hbefore

/-! ## The C++ portfolio -/

/-- `Portfolio(initial_cash)`, which requires positive cash as the Python one does. -/
def Cpp.Portfolio.new (initial_cash : ℚ) : Cpp.Portfolio :=
  { initial_cash := initial_cash, cash := initial_cash }

/-- `apply_fill`, for each fill and the index of its bar, in order. -/
def Cpp.Portfolio.apply_all (c : Cpp.Portfolio) (fills : List (Cpp.FillEvent × ℕ)) :
    Cpp.Portfolio :=
  fills.foldl (fun c f => c.apply_fill f.1 f.2) c

/-- **Run lemma**: the fields of the C++ position are those of a Python position
    that tracks the same fills. -/
theorem cpp_tracks_apply_all (initial_cash : ℚ) (fills : List (Cpp.FillEvent × ℕ))
    (hfills : ∀ f ∈ fills, Whole f.1.quantity ∧ 0 < f.1.quantity) :
    ∃ p : PositionState,
      SameFields "" ((Cpp.Portfolio.new initial_cash).apply_all fills).position p ∧
      p.Tracks (Inventory.after (fills.map fun f => f.1.lot f.2)) := by
  induction fills using List.reverseRecOn with
  | nil => exact ⟨_, (samePosition_fresh [] "").toSameFields, PositionState.tracks_fresh ""⟩
  | append_singleton fills f ih =>
    obtain ⟨p, hsame, htracks⟩ := ih fun f' hf' => hfills f' (List.mem_append_left _ hf')
    obtain ⟨hwhole, hpos⟩ := hfills f (List.mem_append_right _ (List.mem_singleton_self f))
    refine ⟨(p.take_fill (fill_at "" default f.1) f.2).1, ?_, ?_⟩
    · -- Paying comes first and leaves the position alone.
      have hpaid : SameFields ""
          (((Cpp.Portfolio.new initial_cash).apply_all fills).pay f.1).position p := hsame
      rw [Cpp.Portfolio.apply_all, List.foldl_append, ← Cpp.Portfolio.apply_all]
      exact hpaid.take_fill f.1 default f.2
    · rw [List.map_append, List.map_singleton, Inventory.after_concat]
      have hstep := htracks.take_fill (fill_at "" default f.1) f.2 hwhole hpos
      rw [signed_quantity_fill_at] at hstep
      exact hstep

/-! ## The main result -/

/-- **What the average price is an average of.** After any whole fills, a
    position is flat exactly when its quantity, its average price and its open
    costs are 0. Otherwise its average price is the mean of its inventory, between
    the prices of two of its lots, and its entry is the first lot's; each lot is
    of one of the symbol's fills. The same holds of the C++ portfolio. -/
theorem position_representation (initial_cash : ℚ) :
    (∀ (fills : List (FillEvent × ℕ)) (symbol : String),
      (∀ f ∈ fills, Whole f.1.quantity ∧ 0 < f.1.quantity) →
      let lots := Inventory.after
        ((fills.filter fun f => f.1.symbol = symbol).map fun f => f.1.lot f.2)
      let position := ((Portfolio.new initial_cash).apply_all fills).position symbol
      Represents lots position.is_flat position.quantity position.average_price
          position.open_costs position.entry_bar_index ∧
        ∀ lot ∈ lots, ∃ f ∈ fills, f.1.symbol = symbol ∧ lot.price = f.1.fill_price ∧
          lot.entry = f.2) ∧
    ∀ fills : List (Cpp.FillEvent × ℕ),
      (∀ f ∈ fills, Whole f.1.quantity ∧ 0 < f.1.quantity) →
      let lots := Inventory.after (fills.map fun f => f.1.lot f.2)
      let position := ((Cpp.Portfolio.new initial_cash).apply_all fills).position
      Represents lots position.is_flat position.quantity position.average_price
          position.open_costs position.entry_bar_index ∧
        ∀ lot ∈ lots, ∃ f ∈ fills, lot.price = f.1.fill_price ∧ lot.entry = f.2 := by
  constructor
  · intro fills symbol hfills lots position
    refine ⟨(Portfolio.tracks_apply_all initial_cash symbol fills hfills).represents, ?_⟩
    intro lot hlot
    obtain ⟨t, ht, hprice, hentry⟩ := Inventory.mem_after _ lot hlot
    obtain ⟨f, hf, rfl⟩ := List.mem_map.mp ht
    obtain ⟨hmem, hsymbol⟩ := List.mem_filter.mp hf
    exact ⟨f, hmem, of_decide_eq_true hsymbol, hprice, hentry⟩
  · -- The C++ position is in step with a Python one that tracks the lots.
    intro fills hfills lots position
    obtain ⟨p, hsame, htracks⟩ := cpp_tracks_apply_all initial_cash fills hfills
    constructor
    · have h := htracks.represents
      rw [hsame.is_flat, hsame.quantity, hsame.average_price, hsame.open_costs,
        hsame.entry_bar_index] at h
      exact h
    · intro lot hlot
      obtain ⟨t, ht, hprice, hentry⟩ := Inventory.mem_after _ lot hlot
      obtain ⟨f, hf, rfl⟩ := List.mem_map.mp ht
      exact ⟨f, hf, hprice, hentry⟩

/-- A fill of a C++ run, at no cost. -/
def free_fill (side : Cpp.OrderSide) (quantity price : ℚ) (bar_index : ℕ) :
    Cpp.FillEvent × ℕ :=
  ({ bar_index := bar_index, side := side, quantity := quantity, reference_price := price
     fill_price := price, commission := 0, reason := "" }, bar_index)

/-- Bought twice, reduced by a quarter, bought again. -/
def built_up : List (Cpp.FillEvent × ℕ) :=
  [free_fill .Buy 10 10 0, free_fill .Buy 10 12 1, free_fill .Sell 5 20 2, free_fill .Buy 5 15 3]

/-- The same, and then reversed. -/
def turned_around : List (Cpp.FillEvent × ℕ) := built_up ++ [free_fill .Sell 25 20 4]

/-- The Python fills of the same run. -/
def python_fills (fills : List (Cpp.FillEvent × ℕ)) : List (FillEvent × ℕ) :=
  fills.map fun f => (fill_at "AAA" default f.1, f.2)

theorem representation_of_built_up :
    Represents [⟨10, 15 / 2, 0⟩, ⟨12, 15 / 2, 1⟩, ⟨15, 5, 3⟩] false 20 12 0 0 ∧
      Represents [⟨20, -5, 4⟩] false (-5) 20 0 4 := by
  obtain ⟨hbuilt, -⟩ := (position_representation 1000).1 (python_fills built_up) "AAA"
    (by decide +kernel)
  obtain ⟨hturned, -⟩ := (position_representation 1000).2 turned_around (by decide +kernel)
  constructor
  · have hlots : Inventory.after (((python_fills built_up).filter fun f => f.1.symbol = "AAA").map
        fun f => f.1.lot f.2) = [⟨10, 15 / 2, 0⟩, ⟨12, 15 / 2, 1⟩, ⟨15, 5, 3⟩] := by decide +kernel
    have hposition : ((Portfolio.new 1000).apply_all (python_fills built_up)).position "AAA"
        = { symbol := "AAA", quantity := 20, average_price := 12, realized_pnl := 45
            entry_timestamp := some default } := by decide +kernel
    rw [hlots, hposition] at hbuilt
    exact hbuilt
  · have hlots : Inventory.after (turned_around.map fun f => f.1.lot f.2) = [⟨20, -5, 4⟩] := by
      decide +kernel
    have hposition : ((Cpp.Portfolio.new 1000).apply_all turned_around).position
        = { quantity := -5, average_price := 20, realized_pnl := 205
            entry_bar_index := 4 } := by decide +kernel
    rw [hlots, hposition] at hturned
    exact hturned

end Quantora
